import Courier.Proofs.Twins

set_option autoImplicit false

namespace Courier

namespace Docket

-- What is seen of a docket by those who offer records and collect completions.
inductive Sight where
  | answered (result : Submission)
  | collected (completions : List Completion)

def sight? (s : Docket) : Act → Option Sight
  | .submit r => some (.answered (s.tracker.submit r s.client).1)
  | .poll => some (.collected s.tracker.poll.1.toList)
  | .event _ => none

def sights (s : Docket) : List Act → List Sight
  | [] => []
  | act :: acts => (s.sight? act).toList ++ (s.step act).sights acts

theorem sights_append (s : Docket) (acts more : List Act) :
    s.sights (acts ++ more) = s.sights acts ++ (s.run acts).sights more := by
  induction acts generalizing s with
  | nil => rfl
  | cons act acts ih =>
    rw [List.cons_append, sights, sights, ih, List.append_assoc]
    rfl

theorem run_append (s : Docket) (acts more : List Act) :
    s.run (acts ++ more) = (s.run acts).run more := List.foldl_append

theorem same_sights (s s' : Docket) (tracker : s'.tracker = s.tracker)
    (client : s'.client = s.client) (more : List Act) :
    s'.sights more = s.sights more ∧ (s'.run more).tracker = (s.run more).tracker ∧
      (s'.run more).client = (s.run more).client := by
  induction more generalizing s s' with
  | nil => exact ⟨rfl, tracker, client⟩
  | cons act more ih =>
    have sight : s'.sight? act = s.sight? act := by
      cases act with
      | submit r => rw [sight?, sight?, tracker, client]
      | poll => rw [sight?, sight?, tracker]
      | event e => rfl
    have next : (s'.step act).tracker = (s.step act).tracker ∧
        (s'.step act).client = (s.step act).client := by
      cases act with
      | submit r => simp only [step, tracker, client, and_self]
      | poll => simp only [step, tracker, client, and_self]
      | event e => simp only [step, tracker, client, and_self]
    obtain ⟨seen, ends⟩ := ih (s.step act) (s'.step act) next.1 next.2
    rw [sights, sights, sight, seen]
    exact ⟨rfl, ends⟩

end Docket

def raised (n k : Nat) : Nat := if k < n then k else k + 1

def lowered (n k : Nat) : Nat := if k < n then k else k - 1

theorem raised_lowered (n k : Nat) (other : k ≠ n) : raised n (lowered n k) = k := by
  by_cases before : k < n
  · rw [lowered, if_pos before, raised, if_pos before]
  · have after : ¬ k - 1 < n := by omega
    rw [lowered, if_neg before, raised, if_neg after]
    omega

theorem lowered_raised (n k : Nat) : lowered n (raised n k) = k ∧ raised n k ≠ n := by
  by_cases before : k < n
  · rw [raised, if_pos before, lowered, if_pos before]
    exact ⟨rfl, Nat.ne_of_lt before⟩
  · have after : ¬ k + 1 < n := by omega
    rw [raised, if_neg before, lowered, if_neg after]
    omega

namespace Client

def sparing (n : Nat) (c : Client) : Client :=
  { c with answer := fun k m => c.answer (raised n k) m }

def others (n : Nat) (c : Client) : List Call := (c.callsFrom 0).eraseIdx n

theorem callsFrom_place (c : Client) (k : Nat) :
    (c.callsFrom 0)[k]? = c.calls.toList[k]?.map fun m => ⟨k, m, c.answer k m⟩ := by
  rw [callsFrom, List.drop_zero, List.getElem?_map, List.getElem?_zipIdx, Option.map_map]
  simp [Function.comp_def]

theorem others_place (n : Nat) (c : Client) (k : Nat) :
    (c.others n)[k]? =
      c.calls.toList[raised n k]?.map fun m => ⟨raised n k, m, c.answer (raised n k) m⟩ := by
  rw [← callsFrom_place, others, List.getElem?_eraseIdx, raised]
  split <;> rfl

theorem others_answered (n : Nat) (c c' : Client) (same : c'.answer = (c.sparing n).answer) :
    c'.Answers (c.others n) := by
  intro k call found
  rw [others_place] at found
  obtain ⟨m, _, rfl⟩ := Option.map_eq_some_iff.mp found
  rw [same]
  rfl

theorem callsFrom_length (c : Client) : (c.callsFrom 0).length = c.calls.size := by
  simp [callsFrom]

theorem others_later (n : Nat) (c c' : Client) (made : n < c.calls.size) (later : c.Later c') :
    c'.others n = c.others n ++ c'.callsFrom c.calls.size := by
  rw [others, others, later.calls 0 (Nat.zero_le _),
    List.eraseIdx_append_of_lt_length (by rwa [callsFrom_length])]

end Client

namespace Docket

def Act.sparing (n : Nat) : Act → Option Act
  | .event e => if e.call = n then none else some (.event (e.about (lowered n e.call)))
  | act => some act

theorem sparing_raised (n : Nat) (e : Tracker.Event) :
    (Act.event (e.about (raised n e.call))).sparing n = some (.event e) := by
  obtain ⟨back, other⟩ := lowered_raised n e.call
  rw [Act.sparing, e.about_call, if_neg other, back, e.about_again, e.about_own]

theorem sparing_onto (n : Nat) (acts : List Act) :
    ∃ more : List Act, more.filterMap (Act.sparing n) = acts := by
  induction acts with
  | nil => exact ⟨[], rfl⟩
  | cons act acts ih =>
    obtain ⟨more, rest⟩ := ih
    have before : ∃ earlier, Act.sparing n earlier = some act := by
      cases act with
      | submit r => exact ⟨.submit r, rfl⟩
      | poll => exact ⟨.poll, rfl⟩
      | event e => exact ⟨_, sparing_raised n e⟩
    obtain ⟨earlier, spared⟩ := before
    exact ⟨earlier :: more, by rw [List.filterMap_cons_some spared, rest]⟩

-- Two dockets, in the second of which call `n` of the first is not made.
structure Spared (n : Nat) (s s' : Docket) : Prop where
  made : n < s.client.calls.size
  tracker : s'.tracker = s.tracker.alone s'.tracker.awaited
  answer : s'.client.answer = (s.client.sparing n).answer
  twin : Twin (s.client.others n) s.client.calls.size s.tracker.awaited s'.tracker.awaited s'.client

variable {n : Nat} {s s' : Docket}

theorem spared_submit (spared : Spared n s s') (r : Record) :
    s'.sight? (.submit r) = s.sight? (.submit r) ∧
      Spared n (s.step (.submit r)) (s'.step (.submit r)) := by
  have later := s.tracker.submit_later r s.client
  have all := Client.others_later n s.client _ spared.made later
  have same : s'.client.answer = ((s.tracker.submit r s.client).2.2.sparing n).answer := by
    rw [spared.answer, Client.sparing, Client.sparing, later.answer]
  have answers := Client.others_answered n _ _ same
  rw [all] at answers
  obtain ⟨own, c', next, abreast⟩ := s.tracker.submit_twin r s.client spared.twin answers
  rw [← spared.tracker] at next
  have result : s'.sight? (.submit r) = s.sight? (.submit r) := by rw [sight?, sight?, next]
  have tracker : (s'.step (.submit r)).tracker = (s.tracker.submit r s.client).2.1.alone own :=
    congrArg (fun x => x.2.1) next
  have client : (s'.step (.submit r)).client = c' := congrArg (fun x => x.2.2) next
  refine ⟨result, Nat.lt_of_lt_of_le spared.made later.size, ?_, ?_, ?_⟩
  · rw [tracker]
    rfl
  · rw [client, abreast.answer]
    exact same
  · have twin := abreast.twin
    rw [← all] at twin
    rw [tracker, client]
    exact twin

theorem spared_poll (spared : Spared n s s') :
    s'.sight? .poll = s.sight? .poll ∧ Spared n (s.step .poll) (s'.step .poll) := by
  have next : s'.tracker.poll = (s.tracker.poll.1, s.tracker.poll.2.alone s'.tracker.awaited) := by
    rw [spared.tracker]
    rfl
  have tracker : (s'.step .poll).tracker = s.tracker.poll.2.alone s'.tracker.awaited :=
    congrArg Prod.snd next
  refine ⟨by rw [sight?, sight?, next], spared.made, ?_, spared.answer, ?_⟩
  · rw [tracker]
    rfl
  · rw [tracker]
    exact spared.twin

theorem spared_unawaited (spared : Spared n s s') (call : Nat)
    (out : call = n ∨ s.client.calls.toList[call]? = none) : s.tracker.awaited[call]? = none := by
  rw [← Option.not_isSome_iff_eq_none]
  intro awaited
  obtain ⟨other, member, rfl⟩ := List.mem_map.mp (spared.twin.owned call awaited)
  obtain ⟨k, found⟩ := List.mem_iff_getElem?.mp member
  rw [Client.others_place] at found
  obtain ⟨m, made, rfl⟩ := Option.map_eq_some_iff.mp found
  rcases out with left | unmade
  · exact (lowered_raised n k).2 left
  · cases made.symm.trans unmade

theorem apply_spared (spared : Spared n s s') (e : Tracker.Event) (other : e.call ≠ n) :
    ∃ own, s'.tracker.apply (e.about (lowered n e.call)) = (s.tracker.apply e).alone own ∧
      Twin (s.client.others n) s.client.calls.size (s.tracker.apply e).awaited own s'.client := by
  have place := s.client.others_place n (lowered n e.call)
  rw [raised_lowered n e.call other] at place
  cases made : s.client.calls.toList[e.call]? with
  | some m =>
    rw [made] at place
    rw [spared.tracker]
    exact s.tracker.apply_twin e spared.twin _ _ place rfl
  | none =>
    rw [made] at place
    have unawaited := spared_unawaited spared e.call (.inr made)
    have nothing : s'.tracker.awaited[(e.about (lowered n e.call)).call]? = none := by
      rw [e.about_call, spared.twin.awaited, place]
      rfl
    rw [s.tracker.apply_other e unawaited, s'.tracker.apply_other _ nothing]
    exact ⟨_, spared.tracker, spared.twin⟩

theorem spared_event (spared : Spared n s s') (e : Tracker.Event) :
    Spared n (s.step (.event e)) (s'.run ((Act.event e).sparing n).toList) := by
  by_cases left : e.call = n
  · have still : (s.step (.event e)).tracker = s.tracker :=
      s.tracker.apply_other e (spared_unawaited spared e.call (.inl left))
    have nothing : (Act.event e).sparing n = none := if_pos left
    rw [nothing]
    refine ⟨spared.made, ?_, spared.answer, ?_⟩
    · rw [still]
      exact spared.tracker
    · rw [still]
      exact spared.twin
  · have renamed : (Act.event e).sparing n = some (.event (e.about (lowered n e.call))) :=
      if_neg left
    obtain ⟨own, applied, twin⟩ := apply_spared spared e left
    have tracker : (s'.run [.event (e.about (lowered n e.call))]).tracker =
        (s.tracker.apply e).alone own := applied
    rw [renamed, Option.toList_some]
    refine ⟨spared.made, ?_, spared.answer, ?_⟩
    · rw [tracker]
      rfl
    · rw [tracker]
      exact twin

theorem spared_step (spared : Spared n s s') (act : Act) :
    s'.sights (act.sparing n).toList = (s.sight? act).toList ∧
      Spared n (s.step act) (s'.run (act.sparing n).toList) := by
  cases act with
  | submit r =>
    obtain ⟨seen, next⟩ := spared_submit spared r
    refine ⟨?_, next⟩
    rw [← seen]
    rfl
  | poll =>
    obtain ⟨seen, next⟩ := spared_poll spared
    refine ⟨?_, next⟩
    rw [← seen]
    rfl
  | event e =>
    refine ⟨?_, spared_event spared e⟩
    by_cases left : e.call = n
    · have nothing : (Act.event e).sparing n = none := if_pos left
      rw [nothing]
      rfl
    · have renamed : (Act.event e).sparing n = some (.event (e.about (lowered n e.call))) :=
        if_neg left
      rw [renamed]
      rfl

theorem spared_run (spared : Spared n s s') (acts : List Act) :
    s.sights acts = s'.sights (acts.filterMap (Act.sparing n)) ∧
      Spared n (s.run acts) (s'.run (acts.filterMap (Act.sparing n))) := by
  induction acts generalizing s s' with
  | nil => exact ⟨rfl, spared⟩
  | cons act acts ih =>
    have split : (act :: acts).filterMap (Act.sparing n) =
        (act.sparing n).toList ++ acts.filterMap (Act.sparing n) := by
      cases named : act.sparing n with
      | none => rw [List.filterMap_cons_none named, Option.toList_none, List.nil_append]
      | some other => rw [List.filterMap_cons_some named, Option.toList_some, List.singleton_append]
    obtain ⟨seen, next⟩ := spared_step spared act
    obtain ⟨later, ends⟩ := ih next
    rw [split, sights_append, run_append, seen, ← later]
    exact ⟨rfl, ends⟩

def Dated (s : Docket) : Prop := ∀ k, s.tracker.awaited[k]?.isSome → k < s.client.calls.size

theorem dated_submit (dated : s.Dated) (r : Record) : (s.step (.submit r)).Dated := by
  have grown := (s.tracker.submit_later r s.client).size
  have before (awaited : (s.tracker.submit r s.client).2.1.awaited = s.tracker.awaited) :
      (s.step (.submit r)).Dated := by
    intro k here
    change (s.tracker.submit r s.client).2.1.awaited[k]?.isSome at here
    rw [awaited] at here
    exact Nat.lt_of_lt_of_le (dated k here) grown
  rcases s.tracker.submit_cases r s.client with ⟨_, next⟩ | ⟨_, fault, _, next⟩ |
    ⟨_, payload, _, ⟨note, _, next⟩ | ⟨report, _, next⟩ | ⟨signal, _, next⟩⟩
  · exact before (by rw [next])
  · exact before (by rw [next])
  · exact before (by rw [next])
  · exact before (by rw [next]; rfl)
  · intro k here
    have size : (s.step (.submit r)).client.calls.size = s.client.calls.size + 1 := by
      simp [step, next, Client.publish]
    have awaited : (s.step (.submit r)).tracker.awaited =
        s.tracker.awaited.insert s.client.calls.size ⟨r.ordinal, signal⟩ := by
      simp [step, next, Tracker.await, Tracker.hold]
    rw [awaited, insert_awaited] at here
    rw [size]
    by_cases last : k = s.client.calls.size
    · omega
    · rw [if_neg last] at here
      exact Nat.lt_succ_of_lt (dated k here)

theorem dated_event (dated : s.Dated) (e : Tracker.Event) : (s.step (.event e)).Dated := by
  intro k here
  refine dated k ?_
  change (s.tracker.apply e).awaited[k]?.isSome at here
  cases e with
  | resolve number signal =>
    rcases s.tracker.apply_resolve_cases number signal with ⟨ordinal, found, next⟩ | ⟨_, next⟩
    · rw [next, Tracker.await, insert_awaited] at here
      by_cases same : k = number
      · rw [same, found]
        rfl
      · rwa [if_neg same] at here
    · rwa [next] at here
  | run number =>
    rcases s.tracker.apply_run_cases number with ⟨ordinal, signal, _, next⟩ | ⟨_, next⟩
    · rw [next, Tracker.finish, erase_awaited] at here
      by_cases same : k = number
      · rw [if_pos same] at here
        cases here
      · rwa [if_neg same] at here
    · rwa [next] at here

theorem dated_run (dated : s.Dated) (acts : List Act) : (s.run acts).Dated := by
  induction acts generalizing s with
  | nil => exact dated
  | cons act acts ih =>
    refine ih (s := s.step act) ?_
    cases act with
    | submit r => exact dated_submit dated r
    | poll => exact dated
    | event e => exact dated_event dated e

def spared (s : Docket) : Docket := { s with client := s.client.sparing s.client.calls.size }

theorem twin_spared (dated : s.Dated) :
    Twin (s.client.callsFrom 0) s.client.calls.size s.tracker.awaited s.tracker.awaited
      s.spared.client where
  awaited k := by
    rw [s.client.callsFrom_place]
    cases made : s.client.calls.toList[k]? with
    | some m => rfl
    | none =>
      rw [Option.map_none, Option.bind_none, ← Option.not_isSome_iff_eq_none]
      intro awaited
      have bound := List.getElem?_eq_none_iff.mp made
      exact absurd (dated k awaited) (Nat.not_lt.mpr bound)
  owned k awaited := by
    have bound : k < s.client.calls.toList.length := dated k awaited
    have found := s.client.callsFrom_place k
    rw [List.getElem?_eq_getElem bound] at found
    exact List.mem_map.mpr ⟨_, List.mem_of_getElem? found, rfl⟩
  once := List.pairwise_map.mpr ((s.client.callsFrom_ordered 0).imp fun less => Nat.ne_of_lt less)
  known := s.client.callsFrom_number 0
  said := (s.client.callsFrom_messages 0).symm

theorem spared_start (dated : s.Dated) (m : Message) (after : Docket)
    (tracker : after.tracker = s.tracker) (client : after.client = (s.client.publish m).2) :
    Spared s.client.calls.size after s.spared := by
  have left : (s.client.publish m).2.others s.client.calls.size = s.client.callsFrom 0 := by
    rw [Client.others, s.client.callsFrom_push m 0 (Nat.zero_le _),
      List.eraseIdx_append_of_length_le (Nat.le_of_eq s.client.callsFrom_length),
      Client.callsFrom_length, Nat.sub_self, List.eraseIdx_cons_zero, List.append_nil]
  have size : (s.client.publish m).2.calls.size = s.client.calls.size + 1 := by
    simp [Client.publish]
  refine ⟨?_, ?_, ?_, ?_⟩
  · rw [client, size]
    exact Nat.lt_succ_self _
  · rw [tracker]
    rfl
  · rw [client]
    rfl
  · rw [client, tracker, left, size]
    exact twin_later (twin_spared dated) _ (Nat.le_succ _)

-- What becomes of a docket after it where nothing but the client may have noticed the last act.
structure Unmade (s after : Docket) : Prop where
  tracker : after.tracker = s.tracker
  quiet : after.client = s.client → ∀ more, after.sights more = s.sights more ∧
    (after.run more).tracker = (s.run more).tracker ∧ (after.run more).client = (s.run more).client
  spoken : ∀ m, after.client = (s.client.publish m).2 →
    ∀ more, after.sights more = s.spared.sights (more.filterMap (Act.sparing s.client.calls.size)) ∧
      Spared s.client.calls.size (after.run more)
        (s.spared.run (more.filterMap (Act.sparing s.client.calls.size)))
  -- Nothing can happen without the call that could not happen with it.
  every : ∀ acts : List Act,
    ∃ more : List Act, more.filterMap (Act.sparing s.client.calls.size) = acts

theorem unmade_same (dated : s.Dated) (after : Docket) (tracker : after.tracker = s.tracker) :
    Unmade s after where
  tracker := tracker
  quiet client more := same_sights s after tracker client more
  spoken m client more := spared_run (spared_start dated m after tracker client) more
  every := sparing_onto s.client.calls.size

-- What an offer does, by its result and by what the client answers.
structure Response (s : Docket) (r : Record) (result : Submission) (after : Docket) : Prop where
  declined : result ≠ .accepted →
    (result = .deferred r ∨ ∃ fault, result = .rejected r fault) ∧ Unmade s after
  full : s.tracker.hasCapacity = false → result = .deferred r
  rejected : ∀ back fault, result = .rejected back fault ↔
    back = r ∧ s.tracker.hasCapacity = true ∧ s.tracker.format.render r = .error fault
  silent : (s.tracker.hasCapacity = false ∨ ∃ fault, s.tracker.format.render r = .error fault) →
    after.client = s.client
  called : ∀ payload, s.tracker.hasCapacity = true → s.tracker.format.render r = .ok payload →
    after.client = (s.client.publish (s.tracker.message r payload)).2
  deferred : s.tracker.hasCapacity = true → (result = .deferred r ↔
    ∃ payload note, s.tracker.format.render r = .ok payload ∧
      s.client.answer s.client.calls.size (s.tracker.message r payload) = .full note)
  accepted : ∀ payload, s.tracker.hasCapacity = true → s.tracker.format.render r = .ok payload →
    (∀ note, s.client.answer s.client.calls.size (s.tracker.message r payload) ≠ .full note) →
    result = .accepted ∧
      after.tracker.inFlight = s.tracker.inFlight.insert r.ordinal ⟨r, payload⟩ ∧
      after.tracker.inFlight.size = s.tracker.inFlight.size + 1

theorem response_declined (dated : s.Dated) (r : Record)
    (declined : (s.tracker.submit r s.client).1 ≠ .accepted) :
    ((s.tracker.submit r s.client).1 = .deferred r ∨
      ∃ fault, (s.tracker.submit r s.client).1 = .rejected r fault) ∧
      Unmade s (s.step (.submit r)) := by
  have unmade := unmade_same dated (s.step (.submit r))
  change (s.tracker.submit r s.client).2.1 = s.tracker → _ at unmade
  rcases s.tracker.submit_cases r s.client with ⟨_, next⟩ | ⟨_, fault, _, next⟩ |
    ⟨_, payload, _, ⟨note, _, next⟩ | ⟨report, _, next⟩ | ⟨signal, _, next⟩⟩
  · rw [next] at unmade ⊢
    exact ⟨.inl rfl, unmade rfl⟩
  · rw [next] at unmade ⊢
    exact ⟨.inr ⟨fault, rfl⟩, unmade rfl⟩
  · rw [next] at unmade ⊢
    exact ⟨.inl rfl, unmade rfl⟩
  · exact absurd (congrArg Prod.fst next) declined
  · exact absurd (congrArg Prod.fst next) declined

theorem response_rejected (s : Docket) (r back : Record) (fault : Unwritable) :
    (s.tracker.submit r s.client).1 = .rejected back fault ↔
      back = r ∧ s.tracker.hasCapacity = true ∧ s.tracker.format.render r = .error fault := by
  constructor
  · intro rejected
    rcases s.tracker.submit_cases r s.client with ⟨_, next⟩ | ⟨room, fault', failed, next⟩ |
      ⟨_, payload, _, ⟨note, _, next⟩ | ⟨report, _, next⟩ | ⟨signal, _, next⟩⟩
    · cases (congrArg Prod.fst next).symm.trans rejected
    · cases (congrArg Prod.fst next).symm.trans rejected
      exact ⟨rfl, room, failed⟩
    · cases (congrArg Prod.fst next).symm.trans rejected
    · cases (congrArg Prod.fst next).symm.trans rejected
    · cases (congrArg Prod.fst next).symm.trans rejected
  · rintro ⟨rfl, room, failed⟩
    rw [s.tracker.submit_unwritable back s.client fault room failed]

theorem response_called (s : Docket) (r : Record) (payload : Bytes)
    (room : s.tracker.hasCapacity = true) (rendered : s.tracker.format.render r = .ok payload) :
    (s.tracker.submit r s.client).1 = (s.tracker.settle r payload s.client.calls.size
        (s.client.answer s.client.calls.size (s.tracker.message r payload))).1 ∧
      (s.step (.submit r)).tracker = (s.tracker.settle r payload s.client.calls.size
        (s.client.answer s.client.calls.size (s.tracker.message r payload))).2 ∧
      (s.step (.submit r)).client = (s.client.publish (s.tracker.message r payload)).2 := by
  have next := s.tracker.submit_answered r payload s.client room rendered
  exact ⟨congrArg Prod.fst next, congrArg (·.2.1) next, congrArg (·.2.2) next⟩

theorem response_deferred (s : Docket) (r : Record) (room : s.tracker.hasCapacity = true) :
    (s.tracker.submit r s.client).1 = .deferred r ↔
      ∃ payload note, s.tracker.format.render r = .ok payload ∧
        s.client.answer s.client.calls.size (s.tracker.message r payload) = .full note := by
  cases rendered : s.tracker.format.render r with
  | error fault =>
    rw [s.tracker.submit_unwritable r s.client fault room rendered]
    constructor
    · intro deferred
      cases deferred
    · rintro ⟨payload, note, wrong, _⟩
      cases wrong
  | ok payload =>
    rw [(response_called s r payload room rendered).1]
    constructor
    · intro deferred
      refine ⟨payload, ?_⟩
      cases answer : s.client.answer s.client.calls.size (s.tracker.message r payload) with
      | full note => exact ⟨note, rfl, rfl⟩
      | refused report =>
        rw [answer] at deferred
        cases deferred
      | taken signal =>
        rw [answer] at deferred
        cases deferred
    · rintro ⟨_, note, same, full⟩
      cases same
      rw [full]
      rfl

theorem response_accepted (s : Docket) (r : Record) (payload : Bytes)
    (free : s.tracker.inFlight.contains r.ordinal = false) (room : s.tracker.hasCapacity = true)
    (rendered : s.tracker.format.render r = .ok payload)
    (handed : ∀ note,
      s.client.answer s.client.calls.size (s.tracker.message r payload) ≠ .full note) :
    (s.tracker.submit r s.client).1 = .accepted ∧
      (s.step (.submit r)).tracker.inFlight =
        s.tracker.inFlight.insert r.ordinal ⟨r, payload⟩ ∧
      (s.step (.submit r)).tracker.inFlight.size = s.tracker.inFlight.size + 1 := by
  obtain ⟨result, tracker, _⟩ := response_called s r payload room rendered
  have size : (s.tracker.inFlight.insert r.ordinal ⟨r, payload⟩).size =
      s.tracker.inFlight.size + 1 := by
    rw [Std.ExtTreeMap.size_insert, if_neg]
    rw [free]
    exact Bool.false_ne_true
  rw [result, tracker, ← size]
  cases answer : s.client.answer s.client.calls.size (s.tracker.message r payload) with
  | full note => exact absurd answer (handed note)
  | refused report => exact ⟨rfl, rfl, rfl⟩
  | taken signal => exact ⟨rfl, rfl, rfl⟩

theorem response_silent (s : Docket) (r : Record) (out : s.tracker.hasCapacity = false ∨
    ∃ fault, s.tracker.format.render r = .error fault) :
    (s.step (.submit r)).client = s.client := by
  change (s.tracker.submit r s.client).2.2 = s.client
  rcases Bool.eq_false_or_eq_true s.tracker.hasCapacity with room | full
  · rcases out with full | ⟨fault, failed⟩
    · rw [s.tracker.submit_full r s.client full]
    · rw [s.tracker.submit_unwritable r s.client fault room failed]
  · rw [s.tracker.submit_full r s.client full]

/-- Nothing that happens later tells of an offer that was not accepted. -/
theorem declined_unmade (format : Format) (topic : Text) (properties : Attributes) (ceiling : Nat)
    (client : Client) (acts : List Act) (r : Record)
    (free : ((start format topic properties ceiling client).run acts).tracker.inFlight.contains
      r.ordinal = false) :
    let s := (start format topic properties ceiling client).run acts
    Response s r (s.tracker.submit r s.client).1 (s.step (.submit r)) := by
  intro s
  have unawaited : (start format topic properties ceiling client).Dated := by
    intro k awaited
    simp [start, Tracker.new] at awaited
  have dated : s.Dated := dated_run unawaited acts
  exact {
    declined := response_declined dated r
    full := fun full => congrArg Prod.fst (s.tracker.submit_full r s.client full)
    rejected := response_rejected s r
    silent := response_silent s r
    called := fun payload room rendered => (response_called s r payload room rendered).2.2
    deferred := response_deferred s r
    accepted := fun payload => response_accepted s r payload free }

theorem sample_unmade :
    ((Sample.docket.run Sample.acts).tracker.inFlight.contains
      Courier.Sample.records[1].ordinal = false) ∧
    Response (Sample.docket.run Sample.acts) Courier.Sample.records[1]
      ((Sample.docket.run Sample.acts).tracker.submit Courier.Sample.records[1]
        (Sample.docket.run Sample.acts).client).1
      ((Sample.docket.run Sample.acts).step (.submit Courier.Sample.records[1])) :=
  ⟨by decide, declined_unmade Courier.Sample.publisher.format ['t'] ∅ 1 Courier.Sample.client
    Sample.acts Courier.Sample.records[1] (by decide)⟩

end Docket

end Courier
