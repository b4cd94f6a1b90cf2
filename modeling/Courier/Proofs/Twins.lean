import Courier.Proofs.Slots

set_option autoImplicit false

/- One batch under two numberings of its calls. A client that serves others too counts their calls
   as well; with a client of its own the calls of the batch are numbered by their places. The
   numbers name acknowledgments and nothing else, so all the rest is the same. -/
namespace Courier

namespace Client

structure Later (c c' : Client) : Prop where
  answer : c'.answer = c.answer
  size : c.calls.size ≤ c'.calls.size
  calls : ∀ first, first ≤ c.calls.size →
    c'.callsFrom first = c.callsFrom first ++ c'.callsFrom c.calls.size

theorem later_same (c : Client) : c.Later c where
  answer := rfl
  size := Nat.le_refl _
  calls first _ := by rw [c.callsFrom_size, List.append_nil]

theorem later_publish (c : Client) (m : Message) : c.Later (c.publish m).2 where
  answer := rfl
  size := by simp [publish]
  calls first seen := by
    rw [c.callsFrom_push m first seen, c.callsFrom_push m _ (Nat.le_refl _), c.callsFrom_size,
      List.nil_append]

theorem Later.trans {c c' c'' : Client} (later : c.Later c') (latest : c'.Later c'') :
    c.Later c'' where
  answer := latest.answer.trans later.answer
  size := Nat.le_trans later.size latest.size
  calls first seen := by
    rw [latest.calls first (Nat.le_trans seen later.size), latest.calls _ later.size,
      later.calls first seen, List.append_assoc]

theorem callsFrom_messages (c : Client) (first : Nat) :
    (c.callsFrom first).map Call.message = c.calls.toList.drop first := by
  rw [callsFrom, List.map_map, List.map_drop]
  exact congrArg _ (List.zipIdx_map_fst 0 _)

theorem Later.said {c c' : Client} (later : c.Later c') :
    c'.calls.toList = c.calls.toList ++ c'.calls.toList.drop c.calls.size := by
  have all := congrArg (List.map Call.message) (later.calls 0 (Nat.zero_le _))
  rw [List.map_append, callsFrom_messages, callsFrom_messages, callsFrom_messages] at all
  exact all

def Answers (c : Client) (calls : List Call) : Prop :=
  ∀ (k : Nat) (call : Call), calls[k]? = some call → c.answer k call.message = call.answer

theorem answers_left (c : Client) (calls more : List Call) (answers : c.Answers (calls ++ more)) :
    c.Answers calls := by
  intro k call found
  refine answers k call ?_
  rw [List.getElem?_append_left (List.getElem?_eq_some_iff.mp found).1]
  exact found

theorem answers_same {c c' : Client} {calls : List Call} (same : c'.answer = c.answer)
    (answers : c.Answers calls) : c'.Answers calls := by
  intro k call found
  rw [same]
  exact answers k call found

end Client

theorem insert_awaited (awaited : Std.ExtTreeMap Nat Awaited) (k : Nat) (a : Awaited) (n : Nat) :
    (awaited.insert k a)[n]? = if n = k then some a else awaited[n]? := by
  rw [Std.ExtTreeMap.getElem?_insert]
  simp only [Std.LawfulEqCmp.compare_eq_iff_eq, @eq_comm Nat k n]

theorem erase_awaited (awaited : Std.ExtTreeMap Nat Awaited) (k n : Nat) :
    (awaited.erase k)[n]? = if n = k then none else awaited[n]? := by
  rw [Std.ExtTreeMap.getElem?_erase]
  simp only [Std.LawfulEqCmp.compare_eq_iff_eq, @eq_comm Nat k n]

-- What is awaited for some calls, by their numbers and by their places; the numbers are below
-- those that come next.
structure Twin (calls : List Call) (made : Nat) (shared own : Std.ExtTreeMap Nat Awaited)
    (c : Client) : Prop where
  awaited : ∀ k : Nat, own[k]? = calls[k]?.bind fun call => shared[call.number]?
  owned : ∀ n : Nat, shared[n]?.isSome → n ∈ calls.map Call.number
  once : (calls.map Call.number).Nodup
  known : ∀ call ∈ calls, call.number < made
  said : c.calls.toList = calls.map Call.message

variable {calls : List Call} {made : Nat} {shared own : Std.ExtTreeMap Nat Awaited} {c : Client}

theorem twin_places (twin : Twin calls made shared own c) : c.calls.size = calls.length := by
  have lengths := congrArg List.length twin.said
  simpa using lengths

theorem twin_number (twin : Twin calls made shared own c) (k j : Nat) (call other : Call)
    (found : calls[k]? = some call) (listed : calls[j]? = some other) :
    other.number = call.number ↔ j = k := by
  have numbered (i : Nat) (x : Call) (at_place : calls[i]? = some x) :
      (calls.map Call.number)[i]? = some x.number := by
    rw [List.getElem?_map, at_place]
    rfl
  refine ⟨fun same => ?_, fun same => ?_⟩
  · have bound := (List.getElem?_eq_some_iff.mp (numbered j other listed)).1
    refine (List.getElem?_inj bound twin.once).mp ?_
    rw [numbered j other listed, numbered k call found, same]
  · rw [same, found] at listed
    cases listed
    rfl

theorem twin_later (twin : Twin calls made shared own c) (now : Nat) (grown : made ≤ now) :
    Twin calls now shared own c where
  awaited := twin.awaited
  owned := twin.owned
  once := twin.once
  known call member := Nat.lt_of_lt_of_le (twin.known call member) grown
  said := twin.said

theorem twin_grow (twin : Twin calls made shared own c) (m : Message) (answer : Answer) :
    Twin (calls ++ [⟨made, m, answer⟩]) (made + 1) shared own (c.publish m).2 where
  awaited k := by
    by_cases old : k < calls.length
    · rw [List.getElem?_append_left old]
      exact twin.awaited k
    · have unawaited : shared[made]? = none := by
        rw [← Option.not_isSome_iff_eq_none]
        intro awaited
        obtain ⟨call, member, same⟩ := List.mem_map.mp (twin.owned made awaited)
        have less := twin.known call member
        omega
      have before := twin.awaited k
      rw [List.getElem?_eq_none (Nat.le_of_not_lt old)] at before
      rw [before, List.getElem?_append_right (Nat.le_of_not_lt old), Option.bind_none]
      cases place : k - calls.length with
      | zero => exact unawaited.symm
      | succ n => rfl
  owned n awaited := by
    rw [List.map_append]
    exact List.mem_append_left _ (twin.owned n awaited)
  once := by
    rw [List.map_append, List.nodup_append]
    refine ⟨twin.once, List.pairwise_singleton _ _, fun n member other single => ?_⟩
    obtain ⟨call, listed, same⟩ := List.mem_map.mp member
    have less := twin.known call listed
    have new : other = made := List.mem_singleton.mp single
    omega
  known call member := by
    rcases List.mem_append.mp member with old | new
    · exact Nat.lt_succ_of_lt (twin.known call old)
    · rw [List.mem_singleton.mp new]
      exact Nat.lt_succ_self made
  said := by
    rw [List.map_append, ← twin.said]
    simp [Client.publish]

theorem twin_update (twin : Twin calls made shared own c) (k : Nat) (call : Call)
    (found : calls[k]? = some call) (x : Option Awaited)
    (shared' own' : Std.ExtTreeMap Nat Awaited)
    (there : ∀ n : Nat, shared'[n]? = if n = call.number then x else shared[n]?)
    (here : ∀ j : Nat, own'[j]? = if j = k then x else own[j]?) :
    Twin calls made shared' own' c where
  awaited j := by
    rw [here, twin.awaited]
    by_cases same : j = k
    · rw [if_pos same, same, found, Option.bind_some, there, if_pos rfl]
    · rw [if_neg same]
      cases listed : calls[j]? with
      | none => rfl
      | some other =>
        have apart := mt (twin_number twin k j call other found listed).mp same
        rw [Option.bind_some, Option.bind_some, there, if_neg apart]
  owned n awaited := by
    rw [there] at awaited
    by_cases same : n = call.number
    · rw [same]
      exact List.mem_map.mpr ⟨call, List.mem_of_getElem? found, rfl⟩
    · rw [if_neg same] at awaited
      exact twin.owned n awaited
  once := twin.once
  known := twin.known
  said := twin.said

structure Abreast (calls : List Call) (before after : Client)
    (shared : Std.ExtTreeMap Nat Awaited) (c : Client) (own : Std.ExtTreeMap Nat Awaited)
    (c' : Client) : Prop where
  answer : c'.answer = c.answer
  twin : Twin (calls ++ after.callsFrom before.calls.size) after.calls.size shared own c'

theorem abreast_same (before : Client) (twin : Twin calls before.calls.size shared own c) :
    Abreast calls before before shared c own c where
  answer := rfl
  twin := by
    rw [before.callsFrom_size, List.append_nil]
    exact twin

theorem abreast_trans {before between after : Client} {own' : Std.ExtTreeMap Nat Awaited}
    {c' c'' : Client} (first : c'.answer = c.answer) (later : before.Later between)
    (latest : between.Later after)
    (abreast : Abreast (calls ++ between.callsFrom before.calls.size) between after shared c' own'
      c'') :
    Abreast calls before after shared c own' c'' where
  answer := abreast.answer.trans first
  twin := by
    rw [latest.calls _ later.size, ← List.append_assoc]
    exact abreast.twin

namespace Tracker

def alone (t : Tracker) (own : Std.ExtTreeMap Nat Awaited) : Tracker := { t with awaited := own }

theorem submit_later (t : Tracker) (r : Record) (c : Client) : c.Later (t.submit r c).2.2 := by
  rcases (t.submit_slots r c).2.2.2 with same | ⟨m, next, _⟩
  · rw [same]
    exact c.later_same
  · rw [next]
    exact c.later_publish m

def settle (t : Tracker) (r : Record) (payload : Bytes) (call : Nat) :
    Answer → Submission × Tracker
  | .full _ => (.deferred r, t)
  | .refused report => (.accepted, (t.hold r payload).finish r.ordinal (.failed report))
  | .taken signal => (.accepted, (t.hold r payload).await call r.ordinal signal)

theorem submit_answered (t : Tracker) (r : Record) (payload : Bytes) (c : Client)
    (room : t.hasCapacity = true) (rendered : t.format.render r = .ok payload) :
    t.submit r c =
      ((t.settle r payload c.calls.size (c.answer c.calls.size (t.message r payload))).1,
        (t.settle r payload c.calls.size (c.answer c.calls.size (t.message r payload))).2,
        (c.publish (t.message r payload)).2) := by
  cases answer : c.answer c.calls.size (t.message r payload) with
  | full note => simp [submit, settle, room, rendered, Client.publish, answer]
  | refused report => simp [submit, settle, room, rendered, Client.publish, answer]
  | taken signal => simp [submit, settle, room, rendered, Client.publish, answer]

theorem settle_twin (t : Tracker) (r : Record) (payload : Bytes) (m : Message) (answer : Answer)
    (twin : Twin calls made t.awaited own c) :
    ∃ own', (t.alone own).settle r payload c.calls.size answer =
        ((t.settle r payload made answer).1, (t.settle r payload made answer).2.alone own') ∧
      Twin (calls ++ [⟨made, m, answer⟩]) (made + 1) (t.settle r payload made answer).2.awaited own'
        (c.publish m).2 := by
  have grown := twin_grow twin m answer
  cases answer with
  | full note => exact ⟨own, rfl, grown⟩
  | refused report => exact ⟨own, rfl, grown⟩
  | taken signal =>
    refine ⟨own.insert c.calls.size ⟨r.ordinal, signal⟩, rfl, ?_⟩
    refine twin_update grown calls.length ⟨made, m, _⟩ List.getElem?_concat_length
      (some ⟨r.ordinal, signal⟩) _ _ (insert_awaited t.awaited made _) ?_
    rw [twin_places twin]
    exact insert_awaited own calls.length _

theorem submit_twin (t : Tracker) (r : Record) (shared : Client)
    (twin : Twin calls shared.calls.size t.awaited own c)
    (answers : c.Answers (calls ++ (t.submit r shared).2.2.callsFrom shared.calls.size)) :
    ∃ own' c', (t.alone own).submit r c =
        ((t.submit r shared).1, (t.submit r shared).2.1.alone own', c') ∧
      Abreast calls shared (t.submit r shared).2.2 (t.submit r shared).2.1.awaited c own' c' := by
  by_cases room : t.hasCapacity = true
  · cases rendered : t.format.render r with
    | error fault =>
      rw [t.submit_unwritable r shared fault room rendered]
      exact ⟨own, c, (t.alone own).submit_unwritable r c fault room rendered,
        abreast_same shared twin⟩
    | ok payload =>
      have spoken : (shared.publish (t.message r payload)).2.callsFrom shared.calls.size =
          [⟨shared.calls.size, t.message r payload,
            shared.answer shared.calls.size (t.message r payload)⟩] := by
        rw [shared.callsFrom_push _ _ (Nat.le_refl _), shared.callsFrom_size, List.nil_append]
      rw [t.submit_answered r payload shared room rendered] at answers ⊢
      rw [spoken] at answers
      -- The own client gives the new call the answer that the shared one gave.
      have same := answers c.calls.size ⟨shared.calls.size, t.message r payload, _⟩ (by
        rw [twin_places twin, List.getElem?_concat_length])
      obtain ⟨own', settled, grown⟩ := t.settle_twin r payload (t.message r payload)
        (shared.answer shared.calls.size (t.message r payload)) twin
      refine ⟨own', (c.publish (t.message r payload)).2, ?_, rfl, ?_⟩
      · have told : (t.alone own).message r payload = t.message r payload := rfl
        rw [(t.alone own).submit_answered r payload c room rendered, told, same, settled]
      · rw [spoken]
        simpa [Client.publish] using grown
  · rw [Bool.not_eq_true] at room
    rw [t.submit_full r shared room]
    exact ⟨own, c, (t.alone own).submit_full r c room, abreast_same shared twin⟩

namespace Event

def call : Event → Nat
  | .resolve call _ => call
  | .run call => call

def about (call : Nat) : Event → Event
  | .resolve _ signal => .resolve call signal
  | .run _ => .run call

theorem about_call (e : Event) (call : Nat) : (e.about call).call = call := by
  cases e <;> rfl

theorem about_again (e : Event) (k call : Nat) : (e.about k).about call = e.about call := by
  cases e <;> rfl

theorem about_own (e : Event) : e.about e.call = e := by cases e <;> rfl

end Event

theorem apply_other (t : Tracker) (e : Event) (other : t.awaited[e.call]? = none) :
    t.apply e = t := by
  cases e with
  | resolve number signal =>
    rcases t.apply_resolve_cases number signal with ⟨ordinal, found, _⟩ | ⟨_, next⟩
    · cases other.symm.trans found
    · exact next
  | run number =>
    rcases t.apply_run_cases number with ⟨ordinal, signal, found, _⟩ | ⟨_, next⟩
    · cases other.symm.trans found
    · exact next

theorem apply_twin (t : Tracker) (e : Event) (twin : Twin calls made t.awaited own c) (k : Nat)
    (call : Call) (found : calls[k]? = some call) (named : e.call = call.number) :
    ∃ own', (t.alone own).apply (e.about k) = (t.apply e).alone own' ∧
      Twin calls made (t.apply e).awaited own' c := by
  have same : own[k]? = t.awaited[call.number]? := by rw [twin.awaited, found, Option.bind_some]
  have update := twin_update twin k call found
  cases e with
  | resolve number signal =>
    cases named
    rcases t.apply_resolve_cases call.number signal with ⟨ordinal, there, next⟩ |
      ⟨none_open, next⟩
    · rw [next]
      refine ⟨own.insert k ⟨ordinal, some signal⟩, ?_, update (some ⟨ordinal, some signal⟩) _ _
        (insert_awaited _ _ _) (insert_awaited _ _ _)⟩
      rw [there] at same
      simp [apply, Event.about, alone, await, same]
    · rw [next]
      refine ⟨own, ?_, twin⟩
      rcases (t.alone own).apply_resolve_cases k signal with ⟨ordinal, here, _⟩ | ⟨_, still⟩
      · exact absurd (same.symm.trans here) (none_open ordinal)
      · exact still
  | run number =>
    cases named
    rcases t.apply_run_cases call.number with ⟨ordinal, signal, there, next⟩ |
      ⟨none_due, next⟩
    · rw [next]
      refine ⟨own.erase k, ?_, update none _ _ (erase_awaited _ _) (erase_awaited _ _)⟩
      rw [there] at same
      simp [apply, Event.about, alone, finish, same]
    · rw [next]
      refine ⟨own, ?_, twin⟩
      rcases (t.alone own).apply_run_cases k with ⟨ordinal, signal, here, _⟩ | ⟨_, still⟩
      · exact absurd (same.symm.trans here) (none_due ordinal signal)
      · exact still

end Tracker

namespace Batch

def Admission.alone (a : Admission) (own : Std.ExtTreeMap Nat Awaited) (c : Client) : Admission :=
  { a with tracker := a.tracker.alone own, client := c }

def alone (b : Batch) (own : Std.ExtTreeMap Nat Awaited) : Batch :=
  { b with tracker := b.tracker.alone own }

theorem hand_over_later (rest : List Record) (a : Admission) :
    a.client.Later (handOver rest a).2.client :=
  hand_over_keeps (fun _ c => a.client.Later c)
    (fun t r c later => later.trans (t.submit_later r c)) rest a a.client.later_same

theorem hand_over_twin (rest : List Record) (a : Admission)
    (twin : Twin calls a.client.calls.size a.tracker.awaited own c)
    (answers : c.Answers (calls ++ (handOver rest a).2.client.callsFrom a.client.calls.size)) :
    ∃ own' c', handOver rest (a.alone own c) =
        ((handOver rest a).1, (handOver rest a).2.alone own' c') ∧
      Abreast calls a.client (handOver rest a).2.client (handOver rest a).2.tracker.awaited c own'
        c' := by
  induction rest generalizing a calls own c with
  | nil => exact ⟨own, c, rfl, abreast_same a.client twin⟩
  | cons r rest ih =>
    obtain ⟨t, l, shared, submitted, resolved⟩ := a
    have later := t.submit_later r shared
    have offered := t.submit_twin r shared twin
    simp only [handOver, Admission.alone] at answers ⊢
    generalize t.submit r shared = next at later offered answers ⊢
    obtain ⟨result, t', shared'⟩ := next
    -- The records that follow, whatever has been counted by then.
    have following (a' : Admission) (tracker : a'.tracker = t') (client : a'.client = shared')
        (heard : c.Answers (calls ++ (handOver rest a').2.client.callsFrom shared.calls.size)) :
        ∃ own' c' own'' c'', (t.alone own).submit r c = (result, t'.alone own', c') ∧
          handOver rest (a'.alone own' c') =
            ((handOver rest a').1, (handOver rest a').2.alone own'' c'') ∧
          Abreast calls shared (handOver rest a').2.client (handOver rest a').2.tracker.awaited c
            own'' c'' := by
      subst tracker client
      have latest := hand_over_later rest a'
      rw [latest.calls _ later.size, ← List.append_assoc] at heard
      obtain ⟨own', c', next, abreast⟩ := offered (c.answers_left _ _ heard)
      obtain ⟨own'', c'', all, last⟩ := ih a' abreast.twin
        (Client.answers_same abreast.answer heard)
      exact ⟨own', c', own'', c'', next, all, abreast_trans abreast.answer later latest last⟩
    cases result with
    | accepted =>
      obtain ⟨own', c', own'', c'', next, all, last⟩ :=
        following ⟨t', l, shared', submitted + 1, resolved⟩ rfl rfl answers
      rw [next]
      exact ⟨own'', c'', all, last⟩
    | rejected back fault =>
      obtain ⟨own', c', own'', c'', next, all, last⟩ :=
        following ⟨t', l.recordFailure back.ordinal back.raw, shared', submitted, resolved + 1⟩
          rfl rfl answers
      rw [next]
      exact ⟨own'', c'', all, last⟩
    | deferred back =>
      obtain ⟨own', c', next, abreast⟩ := offered answers
      rw [next]
      exact ⟨own', c', rfl, abreast⟩

theorem cycle_later (b : Batch) (shared : Client) : shared.Later (b.cycle shared).2.2 := by
  rcases b.cycle_cases shared with ⟨_, next⟩ | ⟨_, _, next⟩ | ⟨_, _, next⟩
  · rw [next]
    exact shared.later_same
  · rw [next]
    exact shared.later_same
  · rw [next, (b.advance_spec shared).1]
    exact hand_over_later b.unsubmitted (b.admission shared)

theorem advance_twin (b : Batch) (shared : Client)
    (twin : Twin calls shared.calls.size b.tracker.awaited own c)
    (answers : c.Answers (calls ++ (b.advance shared).2.2.callsFrom shared.calls.size)) :
    ∃ own' c', (b.alone own).advance c =
        ((b.advance shared).1, (b.advance shared).2.1.alone own', c') ∧
      Abreast calls shared (b.advance shared).2.2 (b.advance shared).2.1.tracker.awaited c own'
        c' := by
  rw [(b.advance_spec shared).1] at answers ⊢
  obtain ⟨own', c', handed, abreast⟩ :=
    hand_over_twin b.unsubmitted (b.admission shared) twin answers
  change handOver (b.alone own).unsubmitted ((b.alone own).admission c) = _ at handed
  refine ⟨own', c', ?_, abreast⟩
  rw [(b.advance_spec shared).2]
  refine Prod.ext ?_ ?_
  · rw [((b.alone own).advance_spec c).2, handed]
    rfl
  · rw [((b.alone own).advance_spec c).1, handed]
    rfl

theorem cycle_twin (b : Batch) (shared : Client)
    (twin : Twin calls shared.calls.size b.tracker.awaited own c)
    (answers : c.Answers (calls ++ (b.cycle shared).2.2.callsFrom shared.calls.size)) :
    ∃ own' c', (b.alone own).cycle c =
        ((b.cycle shared).1, (b.cycle shared).2.1.alone own', c') ∧
      Abreast calls shared (b.cycle shared).2.2 (b.cycle shared).2.1.tracker.awaited c own' c' := by
  by_cases resolved : b.stage = .resolved
  · rw [b.cycle_resolved shared resolved]
    exact ⟨own, c, (b.alone own).cycle_resolved c resolved, abreast_same shared twin⟩
  · cases unreadable : b.unreadable with
    | some fault =>
      rw [b.cycle_unreadable shared fault resolved unreadable]
      exact ⟨own, c, (b.alone own).cycle_unreadable c fault resolved unreadable,
        abreast_same shared twin⟩
    | none =>
      rw [b.cycle_readable shared resolved unreadable] at answers ⊢
      rw [(b.alone own).cycle_readable c resolved unreadable]
      exact b.advance_twin shared twin answers

end Batch

end Courier
