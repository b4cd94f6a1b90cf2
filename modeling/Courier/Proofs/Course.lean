import Courier.Proofs.Positions
import Courier.Publish.Publisher

set_option autoImplicit false

/- Courses: what can happen to a batch once it is open. Cycles, acknowledgments and the tasks that
   await them come in any order, and the client answers each call as it likes. A course keeps beside
   the batch what is seen from outside: the calls with their answers, the acknowledgments given, the
   results. -/
namespace Courier

def Answer.isFull : Answer → Bool
  | .full _ => true
  | _ => false

structure Call where
  number : Nat
  message : Message
  answer : Answer

namespace Call

def isHanded (c : Call) : Bool := !c.answer.isFull

def signal? (given : List (Nat × Signal)) (c : Call) : Option Signal :=
  match c.answer with
  | .taken (some signal) => some signal
  | .taken none => given.lookup c.number
  | _ => none

def outcome? (given : List (Nat × Signal)) (c : Call) : Option Outcome :=
  match c.answer with
  | .full _ => none
  | .refused report => some (.failed report)
  | .taken _ => (c.signal? given).map Signal.outcome

end Call

def Client.callsFrom (c : Client) (first : Nat) : List Call :=
  (c.calls.toList.zipIdx.drop first).map fun (m, number) => ⟨number, m, c.answer number m⟩

inductive Move where
  | cycle
  | event (e : Tracker.Event)
deriving DecidableEq, Repr

structure Course where
  batch : Batch
  client : Client
  -- The number of calls that the client had seen before.
  first : Nat
  -- Acknowledgments given to calls that had been made, in order.
  given : List (Nat × Signal) := []
  -- What the cycles brought, in order.
  results : List Batch.CycleResult := []

namespace Course

def start (p : Publisher) (input : Input) (client : Client) : Course :=
  { batch := p.openBatch input, client, first := client.calls.size }

-- The acknowledgments given after an event, when some calls have been made: one that names none
-- of them is lost.
def noted (given : List (Nat × Signal)) (made : Nat) : Tracker.Event → List (Nat × Signal)
  | .resolve call signal => if call < made then given ++ [(call, signal)] else given
  | .run _ => given

def step (s : Course) : Move → Course
  | .cycle =>
    let (result, batch, client) := s.batch.cycle s.client
    { s with batch := batch, client := client, results := s.results ++ [result] }
  | .event e =>
    { s with batch := { s.batch with tracker := s.batch.tracker.apply e },
             given := noted s.given s.client.calls.size e }

def run (s : Course) (moves : List Move) : Course := moves.foldl step s

def calls (s : Course) : List Call := s.client.callsFrom s.first

def handed (s : Course) : List Call := s.calls.filter Call.isHanded

def emitted (s : Course) : List Artifact × List Artifact :=
  (s.results.filterMap (·.success), s.results.filterMap (·.failure))

theorem run_append (s : Course) (moves more : List Move) :
    s.run (moves ++ more) = (s.run moves).run more := List.foldl_append

end Course

def Publisher.message? (p : Publisher) (attributes : Attributes) (r : Record) : Option Message :=
  match p.format.render r with
  | .error _ => none
  | .ok payload =>
    some { topic := p.settings.topic, key := r.key, payload,
           properties := p.settings.propertiesOf attributes }

-- How a record left its batch: it could not be written, or it was sent.
inductive Fate (α : Type) where
  | unwritable
  | sent (payload : Bytes) (sending : α)

def Format.fates {α : Type} (f : Format) : List Record → List α → List (Record × Fate α)
  | [], _ => []
  | r :: records, sendings =>
    match f.render r, sendings with
    | .error _, sendings => (r, .unwritable) :: f.fates records sendings
    | .ok _, [] => []
    | .ok payload, sending :: sendings => (r, .sent payload sending) :: f.fates records sendings

namespace Client

theorem callsFrom_push (c : Client) (m : Message) (first : Nat) (seen : first ≤ c.calls.size) :
    (c.publish m).2.callsFrom first =
      c.callsFrom first ++ [⟨c.calls.size, m, c.answer c.calls.size m⟩] := by
  have within : first ≤ c.calls.toList.zipIdx.length := by simpa using seen
  simp only [callsFrom, publish, Array.toList_push, List.zipIdx_append,
    List.drop_append_of_le_length within, List.map_append]
  simp

theorem callsFrom_size (c : Client) : c.callsFrom c.calls.size = [] := by
  simp [callsFrom]

theorem callsFrom_number (c : Client) (first : Nat) (call : Call)
    (member : call ∈ c.callsFrom first) : call.number < c.calls.size := by
  obtain ⟨⟨m, number⟩, listed, rfl⟩ := List.mem_map.mp member
  have found := List.snd_lt_of_mem_zipIdx (List.mem_of_mem_drop listed)
  simpa using found

theorem callsFrom_ordered (c : Client) (first : Nat) :
    (c.callsFrom first).Pairwise fun call next => call.number < next.number :=
  List.pairwise_map.mpr (Positions.zipIdx_ordered c.calls.toList).drop

end Client

namespace Sample

-- Three records of one field. The second holds a delimiter and nothing may be quoted, the first is
-- lost by the client, and the third finds no room at first.
def publisher : Publisher :=
  { settings := .ofTopic ['t'], format := { schema := [['a']], quoteMode := .never },
    key := .field 0 }

def input : Input := { content := [120, 10, 34, 44, 34, 10, 121, 10] }

def records : List Record :=
  [{ ordinal := 0, raw := [120, 10], fields := [['x']], key := some ['x'] },
   { ordinal := 1, raw := [34, 44, 34, 10], fields := [[',']], key := some [','] },
   { ordinal := 2, raw := [121, 10], fields := [['y']], key := some ['y'] }]

def client : Client where
  answer
    | 0, _ => .taken none
    | 1, _ => .full []
    | _, _ => .taken (some .delivered)

def moves : List Move :=
  [.cycle, .event (.resolve 0 .crashed), .event (.run 0), .cycle, .event (.run 2)]

def course : Course := (Course.start publisher input client).run moves

def ended : List Move := moves ++ [.cycle]

def patient : Publisher := { publisher with settings := { publisher.settings with
  asyncEnabled := false } }

def brusque : Client where
  answer
    | 0, _ => .refused ⟨.publish, []⟩
    | _, _ => .taken none

def waits : List Move :=
  [.cycle, .cycle, .event (.run 1), .event (.resolve 1 .delivered), .cycle, .event (.run 1),
    .cycle]

end Sample

end Courier
