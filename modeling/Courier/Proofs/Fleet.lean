import Courier.Proofs.Twins
import Courier.Rehearsal.Exchange

set_option autoImplicit false

/- Fleets: any number of batches of one publisher that share a client. Their cycles, acknowledgments
   and tasks come in any order, and batches are opened in between. Each batch fares as it would with
   a client of its own. -/
namespace Courier

structure Member where
  input : Input
  batch : Batch
  -- The calls made for it, in order.
  calls : List Call := []
  -- Its own steps, in order. An event names a call by its place among the own ones.
  moves : List Move := []
  -- What its cycles brought, in order.
  results : List Batch.CycleResult := []

namespace Member

def launch (p : Publisher) (input : Input) : Member := { input, batch := p.openBatch input }

def place? (m : Member) (number : Nat) : Option Nat :=
  m.calls.findIdx? fun call => call.number == number

def cycle (m : Member) (shared : Client) : Member × Client :=
  let (result, batch, after) := m.batch.cycle shared
  ({ m with batch := batch, calls := m.calls ++ after.callsFrom shared.calls.size,
            moves := m.moves ++ [.cycle], results := m.results ++ [result] }, after)

def hear (e : Tracker.Event) (m : Member) : Member :=
  { m with batch := { m.batch with tracker := m.batch.tracker.apply e },
           moves := m.moves ++
             ((m.place? e.call).map fun place => Move.event (e.about place)).toList }

-- A client for the batch alone, which answers its calls as they were answered.
def client (m : Member) : Client where
  answer place _ := (m.calls[place]?.map Call.answer).getD (.full [])

-- The batch alone, with its own steps and nothing else.
def course (p : Publisher) (m : Member) : Course := (Course.start p m.input m.client).run m.moves

end Member

structure Fleet where
  publisher : Publisher
  client : Client
  -- Acknowledgments given to calls that had been made, in order.
  given : List (Nat × Signal) := []
  members : List Member := []

namespace Fleet

inductive Act where
  | launch (input : Input)
  | cycle (number : Nat)
  | event (e : Tracker.Event)

def start (p : Publisher) (client : Client) : Fleet := { publisher := p, client }

def step (f : Fleet) : Act → Fleet
  | .launch input => { f with members := f.members ++ [.launch f.publisher input] }
  | .cycle number =>
    match f.members[number]? with
    | none => f
    | some m =>
      { f with client := (m.cycle f.client).2,
               members := f.members.set number (m.cycle f.client).1 }
  | .event e =>
    { f with members := f.members.map (Member.hear e),
             given := Course.noted f.given f.client.calls.size e }

def run (f : Fleet) (acts : List Act) : Fleet := acts.foldl step f

end Fleet

def Call.story (given : List (Nat × Signal)) (c : Call) : Message × Answer × Option Outcome :=
  (c.message, c.answer, c.outcome? given)

theorem Client.callsFrom_since (c : Client) (first : Nat) (call : Call)
    (member : call ∈ c.callsFrom first) : first ≤ call.number := by
  obtain ⟨⟨m, number⟩, listed, rfl⟩ := List.mem_map.mp member
  obtain ⟨i, found⟩ := List.mem_iff_getElem?.mp listed
  rw [List.getElem?_drop, List.getElem?_zipIdx] at found
  obtain ⟨_, _, same⟩ := Option.map_eq_some_iff.mp found
  have place := congrArg Prod.snd same
  dsimp only at place ⊢
  omega

theorem lookup_beyond (given : List (Nat × Signal)) (made n : Nat)
    (known : ∀ x ∈ given, x.1 < made) (beyond : made ≤ n) : given.lookup n = none := by
  rw [List.lookup_eq_none_iff]
  intro x member
  have less := known x member
  simp only [bne_iff_ne]
  omega

def Tracker.Event.signal? : Tracker.Event → Option Signal
  | .resolve _ signal => some signal
  | .run _ => none

theorem lookup_noted (given : List (Nat × Signal)) (made : Nat) (e : Tracker.Event) (n : Nat) :
    (Course.noted given made e).lookup n =
      (given.lookup n).or (if n = e.call ∧ n < made then e.signal? else none) := by
  cases e with
  | run number => simp [Course.noted, Tracker.Event.signal?]
  | resolve number signal =>
    change (if number < made then given ++ [(number, signal)] else given).lookup n =
      (given.lookup n).or (if n = number ∧ n < made then some signal else none)
    by_cases early : number < made
    · rw [if_pos early, List.lookup_append]
      by_cases same : n = number
      · rw [same, if_pos ⟨rfl, early⟩, List.lookup_cons_self]
      · have other : (n == number) = false := beq_false_of_ne same
        rw [if_neg fun both => same both.1, List.lookup_cons, other]
        rfl
    · have unmade : ¬ (n = number ∧ n < made) := by omega
      rw [if_neg early, if_neg unmade, Option.or_none]

theorem noted_known (given : List (Nat × Signal)) (made : Nat) (e : Tracker.Event)
    (known : ∀ x ∈ given, x.1 < made) : ∀ x ∈ Course.noted given made e, x.1 < made := by
  cases e with
  | run number => exact known
  | resolve number signal =>
    change ∀ x ∈ if number < made then given ++ [(number, signal)] else given, x.1 < made
    by_cases early : number < made
    · rw [if_pos early]
      intro x member
      rcases List.mem_append.mp member with old | new
      · exact known x old
      · rw [List.mem_singleton.mp new]
        exact early
    · rw [if_neg early]
      exact known

theorem Tracker.Event.about_signal (e : Tracker.Event) (place : Nat) :
    (e.about place).signal? = e.signal? := by
  cases e <;> rfl

structure Echo (alone : Client) (given : List (Nat × Signal)) (made : Nat) (m : Member)
    (own : Std.ExtTreeMap Nat Awaited) (s : Course) : Prop where
  batch : s.batch = m.batch.alone own
  results : s.results = m.results
  answer : s.client.answer = alone.answer
  first : s.first = 0
  twin : Twin m.calls made m.batch.tracker.awaited own s.client
  known : ∀ x ∈ s.given, x.1 < m.calls.length
  heard : ∀ (k : Nat) (call : Call), m.calls[k]? = some call →
    s.given.lookup k = given.lookup call.number

variable {alone : Client} {given : List (Nat × Signal)} {made : Nat} {m : Member}
  {own : Std.ExtTreeMap Nat Awaited} {s : Course}

theorem echo_launch (p : Publisher) (input : Input) (alone : Client) (unused : alone.calls = #[])
    (given : List (Nat × Signal)) (made : Nat) :
    ∃ own, Echo alone given made (.launch p input) own (Course.start p input alone) := by
  have nothing : (p.openBatch input).tracker.awaited = ∅ := rfl
  refine ⟨(p.openBatch input).tracker.awaited, rfl, rfl, rfl, ?_, ⟨?_, ?_, List.nodup_nil, ?_, ?_⟩,
    ?_, ?_⟩
  · simp [Course.start, unused]
  · simp [nothing, Member.launch]
  · simp [nothing, Member.launch]
  · simp [Member.launch]
  · simp [Member.launch, Course.start, unused]
  · simp [Course.start]
  · simp [Member.launch]

theorem echo_elsewhere (echo : Echo alone given made m own s) (now : Nat) (grown : made ≤ now) :
    Echo alone given now m own s where
  batch := echo.batch
  results := echo.results
  answer := echo.answer
  first := echo.first
  twin := twin_later echo.twin now grown
  known := echo.known
  heard := echo.heard

theorem echo_cycle (shared : Client) (echo : Echo alone given shared.calls.size m own s)
    (told : ∀ x ∈ given, x.1 < shared.calls.size)
    (answers : alone.Answers (m.cycle shared).1.calls) :
    ∃ own', Echo alone given (m.cycle shared).2.calls.size (m.cycle shared).1 own'
      (s.step .cycle) := by
  obtain ⟨own', after, next, abreast⟩ := m.batch.cycle_twin shared echo.twin
    (Client.answers_same echo.answer answers)
  rw [← echo.batch] at next
  refine ⟨own', ?_, ?_, ?_, ?_, ?_, ?_, ?_⟩
  · simp only [Course.step, next]
    rfl
  · simp only [Course.step, next, echo.results]
    rfl
  · simp only [Course.step, next]
    exact abreast.answer.trans echo.answer
  · exact echo.first
  · simp only [Course.step, next]
    exact abreast.twin
  · intro x member
    have less := echo.known x member
    simp only [Member.cycle, List.length_append]
    omega
  · intro k call found
    change (m.calls ++ _)[k]? = some call at found
    by_cases old : k < m.calls.length
    · rw [List.getElem?_append_left old] at found
      exact echo.heard k call found
    · rw [List.getElem?_append_right (Nat.le_of_not_lt old)] at found
      have since := Client.callsFrom_since _ _ call (List.mem_of_getElem? found)
      rw [lookup_beyond given _ _ told since]
      exact lookup_beyond s.given _ _ echo.known (Nat.le_of_not_lt old)

theorem place_own (m : Member) (number place : Nat) (found : m.place? number = some place) :
    ∃ call, m.calls[place]? = some call ∧ number = call.number := by
  obtain ⟨bound, same, _⟩ := List.findIdx?_eq_some_iff_getElem.mp found
  exact ⟨m.calls[place], List.getElem?_eq_getElem bound, (eq_of_beq same).symm⟩

theorem place_other (m : Member) (number : Nat) (found : m.place? number = none) :
    number ∉ m.calls.map Call.number := by
  intro member
  obtain ⟨call, listed, same⟩ := List.mem_map.mp member
  have other := List.findIdx?_eq_none_iff.mp found call listed
  rw [same, beq_self_eq_true] at other
  cases other

theorem echo_other (e : Tracker.Event) (echo : Echo alone given made m own s)
    (other : e.call ∉ m.calls.map Call.number) :
    Echo alone (Course.noted given made e) made (m.hear e) own s := by
  have unawaited : m.batch.tracker.awaited[e.call]? = none := by
    rw [← Option.not_isSome_iff_eq_none]
    exact fun awaited => other (echo.twin.owned e.call awaited)
  have still : (m.hear e).batch = m.batch := by
    simp only [Member.hear, m.batch.tracker.apply_other e unawaited]
  refine ⟨?_, echo.results, echo.answer, echo.first, ?_, echo.known, ?_⟩
  · rw [still]
    exact echo.batch
  · rw [still]
    exact echo.twin
  · intro k call found
    have apart : ¬ (call.number = e.call ∧ call.number < made) := fun both =>
      other (List.mem_map.mpr ⟨call, List.mem_of_getElem? found, both.1⟩)
    rw [lookup_noted, if_neg apart, Option.or_none]
    exact echo.heard k call found

theorem echo_own (e : Tracker.Event) (echo : Echo alone given made m own s) (place : Nat)
    (call : Call) (listed : m.calls[place]? = some call) (named : e.call = call.number) :
    ∃ own', Echo alone (Course.noted given made e) made (m.hear e) own'
      (s.step (.event (e.about place))) := by
  obtain ⟨own', next, twin⟩ := m.batch.tracker.apply_twin e echo.twin place call listed named
  have places := twin_places echo.twin
  refine ⟨own', ?_, echo.results, echo.answer, echo.first, twin, ?_, ?_⟩
  · simp only [Course.step, echo.batch]
    change { m.batch with tracker := (m.batch.tracker.alone own).apply (e.about place) } = _
    rw [next]
    rfl
  · have known := echo.known
    rw [← places] at known
    change ∀ x ∈ Course.noted s.given s.client.calls.size (e.about place), x.1 < m.calls.length
    rw [← places]
    exact noted_known s.given s.client.calls.size (e.about place) known
  · intro k other found
    have bound := (List.getElem?_eq_some_iff.mp found).1
    have less := echo.twin.known other (List.mem_of_getElem? found)
    have same : (k = place ∧ k < s.client.calls.size) ↔
        (other.number = e.call ∧ other.number < made) := by
      rw [named, twin_number echo.twin place k call other listed found, places]
      exact and_congr_right fun _ => ⟨fun _ => less, fun _ => bound⟩
    have about := e.about_call place
    have signal := e.about_signal place
    change (Course.noted s.given s.client.calls.size (e.about place)).lookup k = _
    rw [lookup_noted, lookup_noted, about, signal, echo.heard k other found, if_congr same rfl rfl]

theorem echo_hear (e : Tracker.Event) (echo : Echo alone given made m own s) :
    ∃ own', Echo alone (Course.noted given made e) made (m.hear e) own'
      (s.run ((m.place? e.call).map fun place => Move.event (e.about place)).toList) := by
  cases found : m.place? e.call with
  | none => exact ⟨own, echo_other e echo (place_other m e.call found)⟩
  | some place =>
    obtain ⟨call, listed, named⟩ := place_own m e.call place found
    exact echo_own e echo place call listed named

namespace Fleet

variable {p : Publisher} {first : Nat} {f : Fleet}

structure Afloat (p : Publisher) (first : Nat) (f : Fleet) : Prop where
  publisher : f.publisher = p
  seen : first ≤ f.client.calls.size
  known : ∀ x ∈ f.given, x.1 < f.client.calls.size
  calls : (f.members.flatMap Member.calls).Perm (f.client.callsFrom first)
  echoes : ∀ m ∈ f.members, ∀ alone : Client, alone.calls = #[] → alone.Answers m.calls →
    ∃ own, Echo alone f.given f.client.calls.size m own
      ((Course.start p m.input alone).run m.moves)

theorem afloat_start (p : Publisher) (client : Client) :
    Afloat p client.calls.size (start p client) where
  publisher := rfl
  seen := Nat.le_refl _
  known x member := by cases member
  calls := by
    rw [start, client.callsFrom_size]
    exact .nil
  echoes m member := by cases member

theorem afloat_launch (afloat : Afloat p first f) (input : Input) :
    Afloat p first (f.step (.launch input)) where
  publisher := afloat.publisher
  seen := afloat.seen
  known := afloat.known
  calls := by
    simp only [step, List.flatMap_append, List.flatMap_singleton, Member.launch, List.append_nil]
    exact afloat.calls
  echoes m member alone unused answers := by
    rcases List.mem_append.mp member with old | new
    · exact afloat.echoes m old alone unused answers
    · rw [List.mem_singleton.mp new, afloat.publisher]
      exact echo_launch p input alone unused f.given f.client.calls.size

theorem set_calls (members : List Member) (number : Nat) (m m' : Member) (more : List Call)
    (found : members[number]? = some m) (grown : m'.calls = m.calls ++ more) :
    ((members.set number m').flatMap Member.calls).Perm (members.flatMap Member.calls ++ more) := by
  induction members generalizing number with
  | nil => cases found
  | cons x members ih =>
    cases number with
    | zero =>
      cases found
      rw [List.set_cons_zero, List.flatMap_cons, List.flatMap_cons, grown, List.append_assoc,
        List.append_assoc]
      exact List.Perm.append_left _ List.perm_append_comm
    | succ number =>
      rw [List.set_cons_succ, List.flatMap_cons, List.flatMap_cons, List.append_assoc]
      exact (ih number found).append_left _

theorem afloat_cycle (afloat : Afloat p first f) (number : Nat) :
    Afloat p first (f.step (.cycle number)) := by
  cases found : f.members[number]? with
  | none =>
    rw [step, found]
    exact afloat
  | some m =>
    have later : f.client.Later (m.cycle f.client).2 := m.batch.cycle_later f.client
    rw [step, found]
    refine ⟨afloat.publisher, Nat.le_trans afloat.seen later.size,
      fun x member => Nat.lt_of_lt_of_le (afloat.known x member) later.size, ?_, ?_⟩
    · dsimp only
      rw [later.calls first afloat.seen]
      exact (set_calls f.members number m _ _ found rfl).trans (afloat.calls.append_right _)
    · intro x member alone unused answers
      rcases List.mem_or_eq_of_mem_set member with old | rfl
      · obtain ⟨own, echo⟩ := afloat.echoes x old alone unused answers
        exact ⟨own, echo_elsewhere echo _ later.size⟩
      · obtain ⟨own, echo⟩ := afloat.echoes m (List.mem_of_getElem? found) alone unused
          (alone.answers_left _ _ answers)
        obtain ⟨own', next⟩ := echo_cycle f.client echo afloat.known answers
        refine ⟨own', ?_⟩
        change Echo _ _ _ _ _ ((Course.start p m.input alone).run (m.moves ++ [.cycle]))
        rw [Course.run_append]
        exact next

theorem afloat_event (afloat : Afloat p first f) (e : Tracker.Event) :
    Afloat p first (f.step (.event e)) where
  publisher := afloat.publisher
  seen := afloat.seen
  known := noted_known f.given f.client.calls.size e afloat.known
  calls := by
    rw [step, List.flatMap_map]
    exact afloat.calls
  echoes m member alone unused answers := by
    obtain ⟨x, listed, rfl⟩ := List.mem_map.mp member
    obtain ⟨own, echo⟩ := afloat.echoes x listed alone unused answers
    obtain ⟨own', next⟩ := echo_hear e echo
    refine ⟨own', ?_⟩
    change Echo _ _ _ _ _ ((Course.start p x.input alone).run (x.moves ++ _))
    rw [Course.run_append]
    exact next

theorem afloat_run (afloat : Afloat p first f) (acts : List Act) : Afloat p first (f.run acts) := by
  induction acts generalizing f with
  | nil => exact afloat
  | cons act acts ih =>
    cases act with
    | launch input => exact ih (afloat_launch afloat input)
    | cycle number => exact ih (afloat_cycle afloat number)
    | event e => exact ih (afloat_event afloat e)

end Fleet

theorem story_same (given given' : List (Nat × Signal)) (call : Call) (k : Nat)
    (heard : given'.lookup k = given.lookup call.number) :
    Call.story given' ⟨k, call.message, call.answer⟩ = Call.story given call := by
  obtain ⟨number, m, answer⟩ := call
  cases answer with
  | full note => rfl
  | refused report => rfl
  | taken signal =>
    cases signal with
    | some early => rfl
    | none => simp [Call.story, Call.outcome?, Call.signal?, heard]

theorem echo_calls (echo : Echo alone given made m own s) (answers : alone.Answers m.calls) :
    s.calls.map (Call.story s.given) = m.calls.map (Call.story given) := by
  apply List.ext_getElem?
  intro k
  simp only [Course.calls, Client.callsFrom, echo.first, echo.twin.said, echo.answer,
    List.drop_zero, List.getElem?_map, List.getElem?_zipIdx]
  cases found : m.calls[k]? with
  | none => rfl
  | some call =>
    simp only [Option.map_some, Option.some_inj, Nat.zero_add, answers k call found]
    exact story_same given s.given call k (echo.heard k call found)

-- A course that comes to the same as a batch has come to among others, the numbers of its calls
-- apart.
structure Solitary (given : List (Nat × Signal)) (m : Member) (s : Course) : Prop where
  results : s.results = m.results
  batch : s.batch = m.batch.alone s.batch.tracker.awaited
  awaited : ∀ k : Nat, s.batch.tracker.awaited[k]? =
    m.calls[k]?.bind fun call => m.batch.tracker.awaited[call.number]?
  owned : ∀ n : Nat, m.batch.tracker.awaited[n]?.isSome → n ∈ m.calls.map Call.number
  calls : s.calls.map (Call.story s.given) = m.calls.map (Call.story given)

-- The calls of a fleet are parted among its batches, and each batch fares as it would alone.
structure Apart (p : Publisher) (first : Nat) (f : Fleet) : Prop where
  calls : (f.members.flatMap Member.calls).Perm (f.client.callsFrom first)
  once : ((f.members.flatMap Member.calls).map Call.number).Nodup
  alone : ∀ m ∈ f.members, Solitary f.given m (m.course p)

/-- Batches that share a client fare as each would with a client of its own. -/
theorem batches_apart (p : Publisher) (client : Client) (acts : List Fleet.Act) :
    Apart p client.calls.size ((Fleet.start p client).run acts) := by
  have afloat := Fleet.afloat_run (Fleet.afloat_start p client) acts
  generalize (Fleet.start p client).run acts = f at afloat
  refine ⟨afloat.calls, ?_, fun m member => ?_⟩
  · refine (afloat.calls.map Call.number).nodup_iff.mpr ?_
    exact List.pairwise_map.mpr ((f.client.callsFrom_ordered client.calls.size).imp Nat.ne_of_lt)
  · have answers : m.client.Answers m.calls := by
      intro k call found
      simp [Member.client, found]
    obtain ⟨own, echo⟩ := afloat.echoes m member m.client rfl answers
    have same : (m.course p).batch.tracker.awaited = own :=
      congrArg (fun b => b.tracker.awaited) echo.batch
    refine ⟨echo.results, ?_, ?_, echo.twin.owned, echo_calls echo answers⟩
    · rw [same]
      exact echo.batch
    · rw [same]
      exact echo.twin.awaited

namespace Sample

-- Two batches of one input. Calls 0, 1 and 4 are made for the first, 2 and 3 for the second.
def acts : List Fleet.Act :=
  [.launch input, .launch input, .cycle 0, .cycle 1, .event (.resolve 0 .crashed),
    .event (.run 2), .event (.run 0), .event (.run 3), .cycle 1, .cycle 0]

def fleet : Fleet := (Fleet.start publisher client).run acts

end Sample

example : Sample.fleet.members.map Member.moves =
    [[.cycle, .event (.resolve 0 .crashed), .event (.run 0), .cycle],
      [.cycle, .event (.run 0), .event (.run 1), .cycle]] := by decide

end Courier
