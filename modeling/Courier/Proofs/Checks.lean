import Courier.Proofs.Barren
import Courier.Proofs.Keys
import Courier.Proofs.Slots

set_option autoImplicit false

namespace Courier

namespace Settings

theorem key_fields_checked (schema keyFields : List Text) :
    validateKeyFields schema keyFields =
      ((KeyRule.ofSchema schema keyFields).map fun _ => ()).mapError .keyField := by
  cases made : KeyRule.ofSchema schema keyFields with
  | ok rule =>
    have known := (KeyRule.of_schema_known schema keyFields).mp ⟨rule, made⟩
    clear made
    induction keyFields with
    | nil => rfl
    | cons name rest ih =>
      rw [validateKeyFields, if_pos (by simpa using known name List.mem_cons_self)]
      exact ih fun other member => known other (List.mem_cons_of_mem name member)
  | error e =>
    obtain ⟨before, after, rfl, known, unknown⟩ :=
      (KeyRule.of_schema_error schema keyFields e).mp made
    clear made
    induction before with
    | nil =>
      rw [List.nil_append, validateKeyFields, if_neg (by simpa using unknown)]
      rfl
    | cons name before ih =>
      rw [List.cons_append, validateKeyFields,
        if_pos (by simpa using known name List.mem_cons_self)]
      exact ih fun other member => known other (List.mem_cons_of_mem name member)

end Settings

namespace Publisher

theorem make_checked (s : Settings) (brokers : s.kafka.brokers ≠ []) :
    (make s.publish s.record).map (fun _ => ()) = s.validate.mapError .invalid := by
  have listed : s.kafka.brokers.isEmpty = false := by simpa using brokers
  unfold make Settings.validate
  rw [listed, Settings.key_fields_checked]
  cases s.publish.validate with
  | error fault => rfl
  | ok _ =>
    cases s.record.validate with
    | error fault => rfl
    | ok _ =>
      cases KeyRule.ofSchema s.record.schema s.publish.keyFields with
      | error e => rfl
      | ok rule => rfl

end Publisher

theorem Format.validate_width (f : Format) (valid : f.validate = .ok ()) : 1 ≤ f.width :=
  List.length_pos_iff.mpr ((Format.validate_iff f).mp valid).1

theorem PublishSettings.validate_ceiling (p : PublishSettings) (valid : p.validate = .ok ()) :
    1 ≤ p.ceiling := by
  have limited : p.maxAsyncRequests ≠ some 0 := by
    intro zero
    rw [validate, zero] at valid
    split at valid
    · cases valid
    · cases valid
  rw [ceiling]
  cases p.asyncEnabled with
  | false => exact Nat.le_refl 1
  | true =>
    cases limit : p.maxAsyncRequests with
    | none => decide
    | some n =>
      have positive : n ≠ 0 := fun zero => limited (by rw [limit, zero])
      exact Nat.one_le_iff_ne_zero.mpr positive

theorem render_refused (f : Format) (r : Record) (fault : Unwritable)
    (wide : r.fields.length = f.width) (failed : f.render r = .error fault) :
    f.quoteMode = .never ∧ ∃ field, fault = .unquotable r.ordinal field := by
  have stopped : f.fields r = .error fault := by
    rw [Format.render, if_neg (by simpa using wide)] at failed
    cases parts : f.fields r with
    | error e =>
      rw [parts] at failed
      cases failed
      rfl
    | ok written =>
      rw [parts] at failed
      cases failed
  obtain ⟨_, ⟨value, i⟩, _, _, _, unwritten⟩ := (mapM_stop _ _ _).mp stopped
  dsimp only at unwritten
  cases mode : f.quoteMode with
  | all =>
    rw [mode] at unwritten
    cases unwritten
  | minimal =>
    rw [mode] at unwritten
    cases unwritten
  | never =>
    refine ⟨rfl, i, ?_⟩
    split at unwritten
    · cases unwritten
    · cases unwritten
      rfl

namespace Tracker

theorem submit_format (t : Tracker) (r : Record) (c : Client) :
    (t.submit r c).2.1.format = t.format := by
  rcases t.submit_cases r c with ⟨_, next⟩ | ⟨_, fault, _, next⟩ |
    ⟨_, payload, _, ⟨note, _, next⟩ | ⟨report, _, next⟩ | ⟨signal, _, next⟩⟩
  · rw [next]
  · rw [next]
  · rw [next]
  · rw [next]
    rfl
  · rw [next]
    rfl

theorem submit_refused (t : Tracker) (r back : Record) (c : Client) (fault : Unwritable)
    (refused : (t.submit r c).1 = .rejected back fault) :
    back = r ∧ t.format.render r = .error fault := by
  rcases t.submit_cases r c with ⟨_, next⟩ | ⟨_, cause, failed, next⟩ |
    ⟨_, payload, _, ⟨note, _, next⟩ | ⟨report, _, next⟩ | ⟨signal, _, next⟩⟩
  · rw [next] at refused
    cases refused
  · rw [next] at refused
    cases refused
    exact ⟨rfl, failed⟩
  · rw [next] at refused
    cases refused
  · rw [next] at refused
    cases refused
  · rw [next] at refused
    cases refused

end Tracker

theorem Batch.cycle_format (b : Batch) (c : Client) :
    (b.cycle c).2.1.tracker.format = b.tracker.format := by
  rcases b.cycle_cases c with ⟨_, next⟩ | ⟨_, _, next⟩ | ⟨_, _, next⟩
  · rw [next]
  · rw [next]
  · rw [next, (b.advance_spec c).1]
    exact hand_over_keeps (fun t _ => t.format = b.tracker.format)
      (fun t r c same => (t.submit_format r c).trans same) b.unsubmitted (b.admission c) rfl

theorem course_format (p : Publisher) (input : Input) (client : Client) (moves : List Move) :
    ((Course.start p input client).run moves).batch.tracker.format = p.format := by
  have steps (s : Course) : (s.run moves).batch.tracker.format = s.batch.tracker.format := by
    induction moves generalizing s with
    | nil => rfl
    | cons m moves ih =>
      refine (ih (s.step m)).trans ?_
      cases m with
      | cycle => exact s.batch.cycle_format s.client
      | event e => exact (s.batch.tracker.apply_frame e).1
  exact steps _

theorem course_unsubmitted (p : Publisher) (input : Input) (client : Client) (moves : List Move) :
    ∀ r ∈ ((Course.start p input client).run moves).batch.unsubmitted,
      ∃ records, p.format.parse p.key input.content = .ok records ∧ r ∈ records := by
  intro r member
  rcases read_cases p input.content with ⟨fault, read⟩ | ⟨records, parsed, nonempty⟩
  · rw [(barren_bare p input client moves fault read).1] at member
    cases member
  · obtain ⟨roster, rostered⟩ := rostered_run input client moves parsed nonempty
    refine ⟨records, parsed, ?_⟩
    rw [← rostered.mirrors.told.taken]
    exact List.mem_append_right _ member

-- What a publisher's parts make of one another in a batch.
structure Publisher.Fits (p : Publisher) (input : Input) (s : Course) : Prop where
  slots : 1 ≤ p.settings.ceiling ∧ s.batch.tracker.ceiling = p.settings.ceiling
  width : 1 ≤ p.format.width ∧ s.batch.tracker.format.width = p.format.width
  keys : ∀ i ∈ p.key.indices, i < p.format.width
  counted : ∀ records, p.format.parse p.key input.content = .ok records → ∀ r ∈ records,
    r.fields.length = s.batch.tracker.format.width
  written : ∀ records, p.format.parse p.key input.content = .ok records → ∀ r ∈ records,
    ∀ fault, s.batch.tracker.format.render r = .error fault →
      p.format.quoteMode = .never ∧ ∃ field, fault = .unquotable r.ordinal field
  offered : ∀ r ∈ s.batch.unsubmitted, ∀ client back fault,
    (s.batch.tracker.submit r client).1 = .rejected back fault →
      p.format.quoteMode = .never ∧ ∃ field, fault = .unquotable r.ordinal field

theorem course_fits (p : Publisher) (publish : p.settings.validate = .ok ())
    (record : p.format.validate = .ok ()) (keyFields : List Text)
    (key : KeyRule.ofSchema p.format.schema keyFields = .ok p.key) (input : Input)
    (client : Client) (moves : List Move) :
    p.Fits input ((Course.start p input client).run moves) := by
  have ceiling := course_ceiling p input client moves
  have format := course_format p input client moves
  have listed := course_unsubmitted p input client moves
  generalize (Course.start p input client).run moves = s at ceiling format listed
  have slots := p.settings.validate_ceiling publish
  have written : ∀ records, p.format.parse p.key input.content = .ok records → ∀ r ∈ records,
      ∀ fault, s.batch.tracker.format.render r = .error fault →
        p.format.quoteMode = .never ∧ ∃ field, fault = .unquotable r.ordinal field := by
    intro records parsed r member fault failed
    have fits := parsed_fits p.format p.key input.content records parsed r member
    rw [format] at failed
    exact render_refused p.format r fault fits.width failed
  refine ⟨⟨slots, by rw [ceiling, Nat.max_eq_left slots]⟩,
    ⟨p.format.validate_width record, by rw [format]⟩, ?_, ?_, written, ?_⟩
  · exact (KeyRule.rule_derives p.format.schema keyFields p.key key p.format.schema rfl).within
  · intro records parsed r member
    rw [format]
    exact (parsed_fits p.format p.key input.content records parsed r member).width
  · intro r member c back fault refused
    obtain ⟨records, parsed, among⟩ := listed r member
    have failed := (s.batch.tracker.submit_refused r back c fault refused).2
    exact written records parsed r among fault failed

theorem make_parts (s : Settings) (p : Publisher)
    (made : Publisher.make s.publish s.record = .ok p) :
    p.settings = s.publish ∧ p.format = s.record ∧ s.publish.validate = .ok () ∧
      s.record.validate = .ok () ∧
      KeyRule.ofSchema s.record.schema s.publish.keyFields = .ok p.key := by
  unfold Publisher.make at made
  cases publish : s.publish.validate with
  | error fault =>
    rw [publish] at made
    cases made
  | ok _ =>
    cases record : s.record.validate with
    | error fault =>
      rw [publish, record] at made
      cases made
    | ok _ =>
      cases key : KeyRule.ofSchema s.record.schema s.publish.keyFields with
      | error e =>
        rw [publish, record, key] at made
        cases made
      | ok rule =>
        rw [publish, record, key] at made
        cases made
        exact ⟨rfl, rfl, rfl, rfl, rfl⟩

-- Both checks accept the same settings and find the same fault in all others.
structure Settings.Coincide (s : Settings) : Prop where
  accepted : s.validate = .ok () ↔ ∃ p, Publisher.make s.publish s.record = .ok p
  refused : ∀ fault, s.validate = .error fault ↔
    Publisher.make s.publish s.record = .error (.invalid fault)
  supplied : Publisher.make s.publish s.record ≠ .error .noRuntime
  reported : ∀ fault, (Fault.invalid fault).kind = .config ∧
    (Fault.refused (.invalid fault)).text = (Fault.invalid fault).text
  made : ∀ p, Publisher.make s.publish s.record = .ok p →
    p.settings = s.publish ∧ p.format = s.record ∧ ∀ input client moves,
      p.Fits input ((Course.start p input client).run moves)

/-- Both checks accept the same settings and find the same fault in all others. -/
theorem checks_coincide (s : Settings) (brokers : s.kafka.brokers ≠ []) : s.Coincide := by
  have same := Publisher.make_checked s brokers
  have outcome : (s.validate = .ok () ↔ ∃ p, Publisher.make s.publish s.record = .ok p) ∧
      (∀ fault, s.validate = .error fault ↔
        Publisher.make s.publish s.record = .error (.invalid fault)) ∧
      Publisher.make s.publish s.record ≠ .error .noRuntime := by
    cases checked : s.validate with
    | ok _ =>
      cases made : Publisher.make s.publish s.record with
      | ok p => simp
      | error refusal =>
        rw [checked, made] at same
        cases same
    | error fault =>
      cases made : Publisher.make s.publish s.record with
      | ok p =>
        rw [checked, made] at same
        cases same
      | error refusal =>
        rw [checked, made] at same
        cases same
        simp
  refine ⟨outcome.1, outcome.2.1, outcome.2.2, fun fault => ⟨rfl, rfl⟩, ?_⟩
  intro p made
  obtain ⟨settings, format, publish, record, key⟩ := make_parts s p made
  rw [← settings] at publish
  rw [← format] at record key
  exact ⟨settings, format, course_fits p publish record s.publish.keyFields key⟩

namespace Sample

def settings : Settings :=
  { kafka := { brokers := [['b']] }
    publish := { PublishSettings.ofTopic ['t'] with keyFields := [['a']] }
    record := publisher.format }

end Sample

theorem sample_coincides : Sample.settings.kafka.brokers ≠ [] ∧ Sample.settings.Coincide :=
  ⟨by decide, checks_coincide Sample.settings (by decide)⟩

end Courier
