import Courier.Proofs.Roster

set_option autoImplicit false

namespace Courier

def Offered (messages : List Message) (calls : List Call) : Prop :=
  ∀ (i : Nat) (call : Call), calls[i]? = some call →
    messages[((calls.take i).filter Call.isHanded).length]? = some call.message

theorem offered_concat (messages : List Message) (calls : List Call) (call : Call)
    (offered : Offered messages calls)
    (next : messages[(calls.filter Call.isHanded).length]? = some call.message) :
    Offered messages (calls ++ [call]) := by
  intro i other found
  by_cases last : i = calls.length
  · subst i
    have same : call = other := by simpa using found
    subst other
    simpa using next
  · by_cases before : i < calls.length
    · rw [List.getElem?_append_left before] at found
      rw [List.take_append_of_le_length (by omega)]
      exact offered i other found
    · rw [List.getElem?_eq_none (by simp; omega)] at found
      cases found

theorem offered_again (messages : List Message) (calls : List Call)
    (offered : Offered messages calls) (i : Nat) (call next : Call)
    (found : calls[i]? = some call) (after : calls[i + 1]? = some next)
    (full : call.answer.isFull = true) : next.message = call.message := by
  have here := offered i call found
  have there := offered (i + 1) next after
  have turned : call.isHanded = false := by simp [Call.isHanded, full]
  rw [List.take_add_one, found, List.filter_append] at there
  simp only [Option.toList_some, List.filter_cons, turned, Bool.false_eq_true, if_false,
    List.filter_nil, List.append_nil] at there
  exact Option.some.inj (there.symm.trans here)

namespace Entry

def Written (p : Publisher) (attributes : Attributes) : Entry → Prop
  | .unwritable r => ∃ fault, p.format.render r = .error fault
  | .sent r payload call _ =>
    p.format.render r = .ok payload ∧ p.message? attributes r = some call.message

def Follows (given : List (Nat × Signal)) : Entry → Prop
  | .unwritable _ => True
  | .sent _ _ call (.awaited signal) =>
    (∃ early, call.answer = .taken early) ∧ call.signal? given = signal
  | .sent _ _ call (.queued outcome) => call.outcome? given = some outcome
  | .sent _ _ call (.entered outcome) => call.outcome? given = some outcome

theorem written_fate (p : Publisher) (attributes : Attributes) (e other : Entry)
    (same : other.fate = e.fate) (written : e.Written p attributes) :
    other.Written p attributes := by
  cases e with
  | unwritable r =>
    cases other with
    | unwritable r' =>
      cases same
      exact written
    | sent r' payload' call' phase' => simp [fate] at same
  | sent r payload call phase =>
    cases other with
    | unwritable r' => simp [fate] at same
    | sent r' payload' call' phase' =>
      cases same
      exact written

theorem written_message (p : Publisher) (attributes : Attributes) (e : Entry)
    (written : e.Written p attributes) :
    p.message? attributes e.record = e.call?.map Call.message := by
  cases e with
  | unwritable r =>
    obtain ⟨fault, failed⟩ := written
    simp [Publisher.message?, record, call?, failed]
  | sent r payload call phase => exact written.2

theorem fate_call (e other : Entry) (same : other.fate = e.fate) : other.call? = e.call? := by
  cases e with
  | unwritable r =>
    cases other with
    | unwritable r' => rfl
    | sent r' payload' call' phase' => simp [fate] at same
  | sent r payload call phase =>
    cases other with
    | unwritable r' => simp [fate] at same
    | sent r' payload' call' phase' =>
      cases same
      rfl

end Entry

namespace Call

theorem signal_later (given : List (Nat × Signal)) (number : Nat) (signal : Signal) (c : Call) :
    c.signal? (given ++ [(number, signal)]) =
      match c.answer with
      | .taken none => (c.signal? given).or (if c.number = number then some signal else none)
      | _ => c.signal? given := by
  unfold signal?
  cases c.answer with
  | full note => rfl
  | refused report => rfl
  | taken early =>
    cases early with
    | some s => rfl
    | none =>
      rw [List.lookup_append, List.lookup_cons, List.lookup_nil]
      by_cases same : c.number = number
      · simp [same]
      · have apart : (c.number == number) = false := by simpa using same
        simp [apart, same]

theorem outcome_stays (given : List (Nat × Signal)) (number : Nat) (signal : Signal) (c : Call)
    (outcome : Outcome) (known : c.outcome? given = some outcome) :
    c.outcome? (given ++ [(number, signal)]) = some outcome := by
  unfold outcome? at known ⊢
  have later := c.signal_later given number signal
  cases answer : c.answer with
  | full note => simp [answer] at known
  | refused report => simpa [answer] using known
  | taken early =>
    rw [answer] at known later
    cases early with
    | some s => simpa [later] using known
    | none =>
      obtain ⟨s, ended, rfl⟩ := Option.map_eq_some_iff.mp known
      simp [later, ended]

end Call

namespace Entry

theorem follows_resolve (given : List (Nat × Signal)) (number : Nat) (signal : Signal) (e : Entry)
    (follows : e.Follows given) :
    (e.resolve number signal).Follows (given ++ [(number, signal)]) := by
  cases e with
  | unwritable r => trivial
  | sent r payload call phase =>
    cases phase with
    | queued outcome => exact call.outcome_stays given number signal outcome follows
    | entered outcome => exact call.outcome_stays given number signal outcome follows
    | awaited old =>
      obtain ⟨⟨early, answer⟩, ended⟩ := follows
      have later := call.signal_later given number signal
      rw [answer] at later
      cases old with
      | some s =>
        refine ⟨⟨early, answer⟩, ?_⟩
        cases early with
        | none => simpa [ended] using later
        | some s' => exact later.trans ended
      | none =>
        cases early with
        | none => exact ⟨⟨none, answer⟩, by simpa [ended] using later⟩
        | some s' => simp [Call.signal?, answer] at ended

theorem resolve_elsewhere (number : Nat) (signal : Signal) (e : Entry)
    (apart : ∀ call, e.call? = some call → call.number ≠ number) :
    e.resolve number signal = e := by
  unfold resolve
  split
  · rename_i r payload call
    rw [if_neg (apart call rfl)]
  · rfl

theorem follows_finish (given : List (Nat × Signal)) (number : Nat) (e : Entry)
    (follows : e.Follows given) : (e.finish number).Follows given := by
  unfold finish
  split
  · rename_i r payload call signal
    obtain ⟨⟨early, answer⟩, ended⟩ := follows
    split
    · simp [Follows, Call.outcome?, answer, ended]
    · exact ⟨⟨early, answer⟩, ended⟩
  · exact follows

theorem follows_queued (given : List (Nat × Signal)) (e : Entry) (call : Call) (outcome : Outcome)
    (follows : e.Follows given) (sent : e.call? = some call) (queued : e.queued? = some outcome) :
    call.outcome? given = some outcome := by
  obtain ⟨r, payload, called, rfl⟩ := e.queued_sent outcome queued
  cases sent
  exact follows

theorem follows_success (given : List (Nat × Signal)) (e : Entry) (call : Call)
    (follows : e.Follows given) (sent : e.call? = some call) (succeeded : e.success?.isSome) :
    call.outcome? given = some .delivered := by
  cases e with
  | unwritable r => cases sent
  | sent r payload called phase =>
    cases sent
    cases phase with
    | awaited signal => cases succeeded
    | queued outcome => cases succeeded
    | entered outcome =>
      cases outcome with
      | delivered => exact follows
      | failed report => cases succeeded

theorem follows_failure (given : List (Nat × Signal)) (e : Entry) (call : Call)
    (follows : e.Follows given) (sent : e.call? = some call) (failed : e.failure?.isSome) :
    ∃ report, call.outcome? given = some (.failed report) := by
  cases e with
  | unwritable r => cases sent
  | sent r payload called phase =>
    cases sent
    cases phase with
    | awaited signal => cases failed
    | queued outcome => cases failed
    | entered outcome =>
      cases outcome with
      | delivered => cases failed
      | failed report => exact ⟨report, follows⟩

theorem follows_collect (given : List (Nat × Signal)) (e : Entry) (follows : e.Follows given) :
    e.collect.Follows given := by
  unfold collect
  split <;> exact follows

end Entry

structure Told (p : Publisher) (attributes : Attributes) (records : List Record) (first : Nat)
    (given : List (Nat × Signal)) (roster : List Entry) (rest : List Record) (c : Client) :
    Prop where
  taken : roster.map Entry.record ++ rest = records
  written : ∀ e ∈ roster, e.Written p attributes
  follows : ∀ e ∈ roster, e.Follows given
  handed : roster.filterMap Entry.call? = (c.callsFrom first).filter Call.isHanded
  known : ∀ x ∈ given, x.1 < c.calls.size
  seen : first ≤ c.calls.size
  offered : Offered (records.filterMap (p.message? attributes)) (c.callsFrom first)

variable {p : Publisher} {attributes : Attributes} {records : List Record} {first : Nat}
  {given : List (Nat × Signal)} {roster : List Entry} {rest : List Record} {c : Client}

theorem roster_messages (written : ∀ e ∈ roster, e.Written p attributes) :
    (roster.map Entry.record).filterMap (p.message? attributes) =
      (roster.filterMap Entry.call?).map Call.message := by
  induction roster with
  | nil => rfl
  | cons e roster ih =>
    have later := ih fun other member => written other (List.mem_cons_of_mem e member)
    have here := e.written_message p attributes (written e List.mem_cons_self)
    rw [List.map_cons, List.filterMap_cons, List.filterMap_cons, here, later]
    cases e.call? with
    | none => rfl
    | some call => rfl

theorem told_number (told : Told p attributes records first given roster rest c) (e : Entry)
    (member : e ∈ roster) (call : Call) (sent : e.call? = some call) :
    call.number < c.calls.size := by
  have listed : call ∈ roster.filterMap Entry.call? := List.mem_filterMap.mpr ⟨e, member, sent⟩
  rw [told.handed] at listed
  exact c.callsFrom_number first call (List.mem_filter.mp listed).1

theorem told_map (told : Told p attributes records first given roster rest c) (f : Entry → Entry)
    (given' : List (Nat × Signal)) (fates : ∀ e, (f e).fate = e.fate)
    (follows : ∀ e ∈ roster, (f e).Follows given') (known : ∀ x ∈ given', x.1 < c.calls.size) :
    Told p attributes records first given' (roster.map f) rest c := by
  have calls (e : Entry) : (f e).call? = e.call? := e.fate_call (f e) (fates e)
  have same (e : Entry) : (f e).record = e.record := by
    rw [← Entry.fate_record, fates e, Entry.fate_record]
  refine ⟨?_, ?_, ?_, ?_, known, told.seen, told.offered⟩
  · rw [List.map_map, ← told.taken]
    simp [Function.comp_def, same]
  · intro e member
    obtain ⟨old, present, rfl⟩ := List.mem_map.mp member
    exact old.written_fate p attributes (f old) (fates old) (told.written old present)
  · intro e member
    obtain ⟨old, present, rfl⟩ := List.mem_map.mp member
    exact follows old present
  · rw [List.filterMap_map, ← told.handed]
    simp only [Function.comp_def, calls]

theorem told_resolve (told : Told p attributes records first given roster rest c) (number : Nat)
    (signal : Signal) :
    Told p attributes records first
      (if number < c.calls.size then given ++ [(number, signal)] else given)
      (roster.map (Entry.resolve number signal)) rest c := by
  have fates (e : Entry) := e.apply_fate (.resolve number signal)
  by_cases made : number < c.calls.size
  · rw [if_pos made]
    refine told_map told _ _ fates ?_ ?_
    · intro e member
      exact e.follows_resolve given number signal (told.follows e member)
    · intro x member
      rcases List.mem_append.mp member with old | fresh
      · exact told.known x old
      · rw [List.mem_singleton] at fresh
        rw [fresh]
        exact made
  · rw [if_neg made]
    refine told_map told _ _ fates ?_ told.known
    intro e member
    rw [e.resolve_elsewhere number signal]
    · exact told.follows e member
    · intro call sent same
      exact made (same ▸ told_number told e member call sent)

theorem told_finish (told : Told p attributes records first given roster rest c) (number : Nat) :
    Told p attributes records first given (roster.map (Entry.finish number)) rest c :=
  told_map told _ _ (fun e => e.apply_fate (.run number))
    (fun e member => e.follows_finish given number (told.follows e member)) told.known

theorem told_collect (told : Told p attributes records first given roster rest c) :
    Told p attributes records first given (roster.map Entry.collect) rest c :=
  told_map told _ _ Entry.collect_fate
    (fun e member => e.follows_collect given (told.follows e member)) told.known

theorem told_unwritable (r : Record) (fault : Unwritable)
    (told : Told p attributes records first given roster (r :: rest) c)
    (failed : p.format.render r = .error fault) :
    Told p attributes records first given (roster ++ [.unwritable r]) rest c := by
  refine ⟨?_, ?_, ?_, ?_, told.known, told.seen, told.offered⟩
  · rw [← told.taken]
    simp [Entry.record]
  · intro e member
    rcases List.mem_append.mp member with old | fresh
    · exact told.written e old
    · rw [List.mem_singleton.mp fresh]
      exact ⟨fault, failed⟩
  · intro e member
    rcases List.mem_append.mp member with old | fresh
    · exact told.follows e old
    · rw [List.mem_singleton.mp fresh]
      trivial
  · rw [← told.handed]
    simp [Entry.call?]

theorem told_next (r : Record) (told : Told p attributes records first given roster (r :: rest) c)
    (m : Message) (message : p.message? attributes r = some m) :
    (records.filterMap (p.message? attributes))[
      ((c.callsFrom first).filter Call.isHanded).length]? = some m := by
  have before := roster_messages told.written
  rw [← told.taken, List.filterMap_append, before, ← told.handed, List.filterMap_cons, message]
  simp

theorem told_publish (r : Record)
    (told : Told p attributes records first given roster (r :: rest) c)
    (m : Message) (message : p.message? attributes r = some m) :
    Offered (records.filterMap (p.message? attributes)) ((c.publish m).2.callsFrom first) ∧
      (∀ x ∈ given, x.1 < (c.publish m).2.calls.size) ∧
      first ≤ (c.publish m).2.calls.size := by
  have grown : (c.publish m).2.calls.size = c.calls.size + 1 := by simp [Client.publish]
  refine ⟨?_, ?_, ?_⟩
  · rw [c.callsFrom_push m first told.seen]
    exact offered_concat _ _ _ told.offered (told_next r told m message)
  · intro x member
    have old := told.known x member
    omega
  · have old := told.seen
    omega

theorem told_full (r : Record) (told : Told p attributes records first given roster (r :: rest) c)
    (m : Message) (message : p.message? attributes r = some m)
    (full : (c.answer c.calls.size m).isFull = true) :
    Told p attributes records first given roster (r :: rest) (c.publish m).2 := by
  obtain ⟨offered, known, seen⟩ := told_publish r told m message
  refine ⟨told.taken, told.written, told.follows, ?_, known, seen, offered⟩
  rw [c.callsFrom_push m first told.seen, List.filter_append, told.handed]
  simp [Call.isHanded, full]

theorem told_sent (r : Record) (told : Told p attributes records first given roster (r :: rest) c)
    (payload : Bytes) (rendered : p.format.render r = .ok payload) (m : Message)
    (message : p.message? attributes r = some m)
    (room : (c.answer c.calls.size m).isFull = false) (phase : Phase)
    (follows : (Entry.sent r payload ⟨c.calls.size, m, c.answer c.calls.size m⟩ phase).Follows
      given) :
    Told p attributes records first given
      (roster ++ [.sent r payload ⟨c.calls.size, m, c.answer c.calls.size m⟩ phase]) rest
      (c.publish m).2 := by
  obtain ⟨offered, known, seen⟩ := told_publish r told m message
  refine ⟨?_, ?_, ?_, ?_, known, seen, offered⟩
  · rw [← told.taken]
    simp [Entry.record]
  · intro e member
    rcases List.mem_append.mp member with old | fresh
    · exact told.written e old
    · rw [List.mem_singleton.mp fresh]
      exact ⟨rendered, message⟩
  · intro e member
    rcases List.mem_append.mp member with old | fresh
    · exact told.follows e old
    · rw [List.mem_singleton.mp fresh]
      exact follows
  · rw [c.callsFrom_push m first told.seen, List.filter_append, ← told.handed]
    simp [Entry.call?, Call.isHanded, room]

end Courier
