import Courier.Proofs.Acceptance
import Courier.Proofs.Counts
import Courier.Proofs.Republishing

set_option autoImplicit false

namespace Courier

namespace Fields

theorem split_single (d : Char) (trim : Bool) (line : Text) (fields : List Text) (apart : d ∉ line)
    (split : split? d trim line = some fields) : fields.length = 1 := by
  obtain ⟨cells, nonempty, rfl, each⟩ := (split_iff d trim line fields).mp split
  rw [← each.length_eq]
  match cells with
  | [] => exact absurd rfl nonempty
  | [_] => rfl
  | first :: next :: rest =>
    rw [List.intercalate_cons_cons] at apart
    exact absurd (by simp) apart

end Fields

def Format.carries (f : Format) (raw : Bytes) : Bool :=
  match Utf8.decode raw with
  | .ok text => (Reader.body text).contains f.delimiter
  | .error _ => false

-- A line that is the only one of a record in which there is something.
structure Format.Owns (f : Format) (raw : Bytes) (r : Record) : Prop where
  alone : ∃ before after, Reader.lines r.raw = before ++ raw :: after ∧
    ∀ other ∈ before ++ after, Utf8.blank other = true
  fields : ∃ text, Utf8.decode raw = .ok text ∧
    Fields.split? f.delimiter f.trimFields (Reader.body text) = some r.fields

namespace Reader

structure Around (ls : List Line) (line : Line) (row : Bytes × List Text) : Prop where
  own : ∃ raw, line = .row raw row.2
  blank : ∃ before after, row.1 = ((before ++ line :: after).map Line.raw).flatten ∧
    (∀ other ∈ before ++ after, other.isBlank = true) ∧ (before ++ line :: after).Sublist ls

theorem around_later (first : Line) (ls : List Line) (line : Line) (row : Bytes × List Text)
    (around : Around ls line row) : Around (first :: ls) line row := by
  obtain ⟨own, before, after, whole, blank, among⟩ := around
  exact ⟨own, before, after, whole, blank, among.cons first⟩

theorem attach_ahead (ls : List Line) :
    (attach ls).1 = ((ls.takeWhile Line.isBlank).map Line.raw).flatten := by
  induction ls with
  | nil => rfl
  | cons line ls ih =>
    cases line with
    | blank raw =>
      rw [attach_blank, ih, List.takeWhile_cons_of_pos rfl]
      rfl
    | row raw fields =>
      rw [attach_row, List.takeWhile_cons_of_neg (by simp [Line.isBlank])]
      rfl

theorem attach_around (ls : List Line) :
    List.Forall₂ (Around ls) (ls.filter fun line => !line.isBlank) (attach ls).2 := by
  induction ls with
  | nil => exact .nil
  | cons line ls ih =>
    have later := ih.imp fun own row around => around_later line ls own row around
    cases line with
    | blank raw => exact later
    | row raw fields =>
      rw [attach_row, attach_ahead, List.filter_cons_of_pos (by rfl)]
      refine .cons ⟨⟨raw, rfl⟩, [], ls.takeWhile Line.isBlank, ?_, ?_, ?_⟩ later
      · rw [List.nil_append, List.map_cons, List.flatten_cons]
        rfl
      · intro other member
        exact List.all_eq_true.mp List.all_takeWhile other member
      · exact (List.takeWhile_sublist _).cons_cons _

theorem tile_blank (raw : Bytes) (ls : List Line) :
    tile (.blank raw :: ls) = (tile ls).modifyHead fun row => (raw ++ row.1, row.2) := by
  rw [tile, attach_blank, tile]
  obtain ⟨lead, rows⟩ := attach ls
  cases rows with
  | nil => rfl
  | cons row rows => simp

theorem tile_row (raw : Bytes) (fields : List Text) (ls : List Line) :
    tile (.row raw fields :: ls) = (attach (.row raw fields :: ls)).2 := rfl

theorem tile_around (ls : List Line) :
    List.Forall₂ (Around ls) (ls.filter fun line => !line.isBlank) (tile ls) := by
  induction ls with
  | nil => exact .nil
  | cons line ls ih =>
    cases line with
    | row raw fields =>
      rw [tile_row]
      exact attach_around (.row raw fields :: ls)
    | blank raw =>
      rw [tile_blank, List.filter_cons_of_neg (by simp [Line.isBlank])]
      generalize ls.filter (fun line => !line.isBlank) = own, tile ls = rows at ih
      cases ih with
      | nil => exact .nil
      | cons first rest =>
        obtain ⟨own, before, after, whole, blank, among⟩ := first
        refine .cons ⟨own, .blank raw :: before, after, ?_, ?_, among.cons_cons _⟩
          (rest.imp fun line row around => around_later _ ls line row around)
        · dsimp only
          rw [whole, List.cons_append, List.map_cons, List.flatten_cons]
          rfl
        · intro other member
          rcases List.mem_cons.mp member with rfl | later
          · rfl
          · exact blank other later

end Reader

theorem parse_owned (f : Format) (key : KeyRule) (input : Bytes) (records : List Record)
    (parsed : f.parse key input = .ok records) :
    List.Forall₂ f.Owns ((Reader.lines input).filter fun raw => !Utf8.blank raw) records := by
  obtain ⟨ls, read, rfl⟩ := parse_tiles f key input records parsed
  obtain ⟨lined, each⟩ := Reader.read_lines_each f input ls read
  have kind : ∀ line ∈ ls, line.isBlank = Utf8.blank line.raw := fun line member =>
    Reader.read_line_blank f line.raw line (each line member)
  have filled : (Reader.lines input).filter (fun raw => !Utf8.blank raw) =
      (ls.filter fun line => !line.isBlank).map Reader.Line.raw := by
    rw [← Reader.read_lines_raw f input ls read, List.filter_map]
    congr 1
    exact List.filter_congr fun line member => by rw [kind line member, Function.comp_apply]
  have around := Reader.tile_around ls
  rw [← number_rows key (Reader.tile ls), List.forall₂_map_right_iff] at around
  rw [filled, List.forall₂_map_left_iff]
  refine around.imp fun line r held => ?_
  obtain ⟨⟨raw, rfl⟩, before, after, whole, blank, among⟩ := held
  dsimp only at whole among
  have cut := Reader.lines_again _ (Reader.lined_sublist _ _ (among.map Reader.Line.raw) lined)
  obtain ⟨_, text, decoded, _, split, _⟩ :=
    (Reader.read_line_row f raw raw r.fields).mp
      (each (.row raw r.fields) (among.subset (by simp)))
  refine ⟨⟨before.map Reader.Line.raw, after.map Reader.Line.raw, ?_, ?_⟩, text, decoded, split⟩
  · rw [whole, cut, List.map_append, List.map_cons, Reader.Line.raw]
  · intro other member
    rw [← List.map_append, List.mem_map] at member
    obtain ⟨line, listed, rfl⟩ := member
    rw [← kind line (among.subset (by grind)), blank line listed]

theorem carries_iff (f : Format) (raw : Bytes) : f.carries raw = true ↔
    ∃ text, Utf8.decode raw = .ok text ∧ f.delimiter ∈ Reader.body text := by
  unfold Format.carries
  cases Utf8.decode raw with
  | error e => simp
  | ok text => simp

theorem filled_carries (f : Format) (several : 2 ≤ f.schema.length) (key : KeyRule) (input : Bytes)
    (records : List Record) (parsed : f.parse key input = .ok records) :
    ∀ raw ∈ Reader.lines input, Utf8.blank raw = false → f.carries raw = true := by
  obtain ⟨ls, read, rfl⟩ := parse_tiles f key input records parsed
  obtain ⟨_, each⟩ := Reader.read_lines_each f input ls read
  intro raw member filled
  rw [← Reader.read_lines_raw f input ls read] at member
  obtain ⟨line, listed, rfl⟩ := List.mem_map.mp member
  cases line with
  | blank raw =>
    have kind := Reader.read_line_blank f raw (.blank raw) (each _ listed)
    rw [Reader.Line.raw, ← kind] at filled
    cases filled
  | row raw fields =>
    obtain ⟨_, text, decoded, _, split, wide⟩ :=
      (Reader.read_line_row f raw raw fields).mp (each _ listed)
    refine (carries_iff f raw).mpr ⟨text, decoded, ?_⟩
    by_contra apart
    have single := Fields.split_single _ _ _ fields apart split
    rw [wide, Format.width] at single
    omega

theorem carries_filled (f : Format) (shown : Text.isBlank f.delimiter = false) (raw : Bytes)
    (carries : f.carries raw = true) : Utf8.blank raw = false := by
  obtain ⟨text, decoded, held⟩ := (carries_iff f raw).mp carries
  rw [Utf8.blank, decoded]
  dsimp only
  rw [← Reader.body_blank, Text.allBlank, List.all_eq_false]
  exact ⟨f.delimiter, held, by rw [shown]; decide⟩

theorem parse_carried (f : Format) (several : 2 ≤ f.schema.length) (key : KeyRule) (input : Bytes)
    (records : List Record) (parsed : f.parse key input = .ok records) :
    List.Forall₂ f.Owns ((Reader.lines input).filter f.carries) records ↔
      ∀ raw ∈ Reader.lines input, f.carries raw = true → Utf8.blank raw = false := by
  have owned := parse_owned f key input records parsed
  have within := filled_carries f several key input records parsed
  constructor
  · intro lockstep
    -- As many lines have the delimiter as are not blank, and those are among them.
    have count := lockstep.length_eq.trans owned.length_eq.symm
    have fewer : (Reader.lines input).filter (fun raw => !Utf8.blank raw) =
        ((Reader.lines input).filter f.carries).filter fun raw => !Utf8.blank raw := by
      rw [List.filter_filter]
      refine List.filter_congr fun raw member => ?_
      cases filled : Utf8.blank raw with
      | true => rfl
      | false => simp [within raw member filled]
    rw [fewer] at count
    intro raw member carries
    have all := List.length_filter_eq_length_iff.mp count.symm raw
      (List.mem_filter.mpr ⟨member, carries⟩)
    simpa using all
  · intro filled
    have same : (Reader.lines input).filter f.carries =
        (Reader.lines input).filter fun raw => !Utf8.blank raw := by
      refine List.filter_congr fun raw member => ?_
      cases carries : f.carries raw with
      | true => simp [filled raw member carries]
      | false =>
        cases blank : Utf8.blank raw with
        | true => rfl
        | false =>
          rw [within raw member blank] at carries
          cases carries
    rw [same]
    exact owned

theorem delimiter_line (f : Format) (valid : f.validate = .ok ()) (key : KeyRule)
    (blank : Text.isBlank f.delimiter = true) :
    f.parse key (Utf8.encode [f.delimiter]) = .ok [] ∧
      (Reader.lines (Utf8.encode [f.delimiter])).filter f.carries =
        [Utf8.encode [f.delimiter]] := by
  obtain ⟨_, _, feed, back⟩ := (Format.validate_iff f).mp valid
  have whole : Reader.body [f.delimiter] = [f.delimiter] := by
    apply Reader.body_whole
    intro c last
    have same : f.delimiter = c := by simpa using last
    rw [← same]
    simp [Reader.isLineEnd, feed, back]
  have single : Reader.lines (Utf8.encode [f.delimiter]) = [Utf8.encode [f.delimiter]] := by
    apply Reader.lines_open
    refine ⟨by simp [Utf8.encode], ?_⟩
    rw [Reader.lineFeed, Utf8.encode_feed]
    simpa using Ne.symm feed
  have read : Reader.readLine f (Utf8.encode [f.delimiter]) =
      .ok (.blank (Utf8.encode [f.delimiter])) := by
    rw [Reader.readLine, Utf8.decode_encode]
    dsimp only
    rw [whole, if_pos (by simpa [Text.allBlank] using blank)]
  constructor
  · have all : Reader.readLines f (Utf8.encode [f.delimiter]) =
        .ok [.blank (Utf8.encode [f.delimiter])] := by
      rw [Reader.read_lines_iff, single]
      exact .cons read .nil
    rw [Format.parse, all]
    rfl
  · rw [single, List.filter_cons_of_pos]
    · rfl
    · exact (carries_iff f _).mpr ⟨[f.delimiter], Utf8.decode_encode _, by rw [whole]; simp⟩

def Course.delivering (s : Course) : List Call :=
  s.handed.filter fun call => call.outcome? s.given == some .delivered

variable {p : Publisher} {attributes : Attributes} {records : List Record} {roster : List Entry}

theorem roster_delivered (given : List (Nat × Signal))
    (written : ∀ e ∈ roster, e.Written p attributes) :
    List.Forall₂ (fun r (call : Call) => Carries p attributes r call.message)
      (((roster.map fun e => (e.record, e.fate.2.map fun call => call.outcome? given)).filter
        Fate.isDelivered).map Prod.fst)
      ((roster.filterMap Entry.call?).filter fun call =>
        call.outcome? given == some .delivered) := by
  induction roster with
  | nil => exact .nil
  | cons e roster ih =>
    have later := ih fun other member => written other (List.mem_cons_of_mem e member)
    have here := written e List.mem_cons_self
    rw [List.map_cons]
    cases e with
    | unwritable r => exact later
    | sent r payload call phase =>
      have carries := message_carries r call.message here.2
      have made : Entry.call? (.sent r payload call phase) = some call := rfl
      have fate : ((Entry.sent r payload call phase).record,
          (Entry.sent r payload call phase).fate.2.map fun call => call.outcome? given) =
          (r, .sent payload (call.outcome? given)) := rfl
      have kind : Fate.isDelivered (r, .sent payload (call.outcome? given)) =
          (call.outcome? given == some .delivered) := by
        cases call.outcome? given with
        | none => rfl
        | some outcome => cases outcome <;> rfl
      rw [List.filterMap_cons_some made, fate, List.filter_cons, List.filter_cons]
      cases delivered : call.outcome? given == some Outcome.delivered with
      | true =>
        rw [if_pos (kind.trans delivered), if_pos rfl]
        exact .cons carries later
      | false =>
        rw [if_neg (by rw [kind.trans delivered]; decide), if_neg (by decide)]
        exact later

theorem delivered_calls (input : Input) (s : Course)
    (rostered : CourseRostered p input records s roster) (resolved : s.batch.stage = .resolved) :
    List.Forall₂ (fun r (call : Call) => Carries p input.attributes r call.message)
      (s.delivered p records) s.delivering := by
  rw [Course.delivered, Course.delivering, course_fates input s rostered resolved,
    rostered_handed input s rostered]
  exact roster_delivered s.given rostered.mirrors.told.written

theorem renumbered_owned (f : Format) (raws : List Bytes) (records : List Record)
    (owned : List.Forall₂ f.Owns raws (renumbered records)) :
    List.Forall₂ f.Owns raws records := by
  rw [renumbered, List.forall₂_map_right_iff] at owned
  rw [← List.zipIdx_map_fst 0 records, List.forall₂_map_right_iff]
  exact owned.imp fun raw x own => ⟨own.alone, own.fields⟩

theorem success_sent (input : Input) (s : Course)
    (rostered : CourseRostered p input records s roster) (pending : s.batch.stage ≠ .resolved)
    (resolved : (s.step .cycle).batch.stage = .resolved)
    (parsed : p.format.parse p.key input.content = .ok records)
    (several : 2 ≤ p.format.schema.length) (shown : Text.isBlank p.format.delimiter = false)
    (a : Artifact) (succeeded : a ∈ (s.batch.cycle s.client).1.success) :
    List.Forall₂
      (fun raw call => ∃ r, p.format.Owns raw r ∧ Carries p input.attributes r call.message)
      ((Reader.lines a.content).filter p.format.carries) (s.step .cycle).delivering := by
  obtain ⟨later, after⟩ := rostered_cycle input s rostered
  have reports := artifact_reports .success (s.step .cycle).batch.ledger.success
    p.settings.topic input.attributes
  have brought : a ∈ (s.batch.cycle s.client).1.artifact? .success := succeeded
  rw [cycle_artifact input s rostered pending resolved] at brought
  rw [← (fates_ledger input _ after resolved).1, delivered_raw] at reports
  have chosen : ((s.step .cycle).delivered p records).Sublist records := by
    have below : ((s.step .cycle).delivered p records).Sublist
        (((s.step .cycle).fates p records).map Prod.fst) := List.filter_sublist.map Prod.fst
    rwa [course_covered input _ after resolved] at below
  -- The artifact is read as the delivered records again, so its lines are theirs.
  have again := parse_chosen p.format p.key input.content records _ parsed chosen
  have content : a.content = (((s.step .cycle).delivered p records).map Record.raw).flatten :=
    reports.content a brought
  rw [← content] at again
  have owned := (parse_carried p.format several p.key a.content _ again).mpr fun raw _ carries =>
    carries_filled p.format shown raw carries
  have calls := delivered_calls input _ after resolved
  exact paired_through (renumbered_owned p.format _ _ owned) calls

def Course.Sends (p : Publisher) (input : Input) (s : Course) : Prop :=
  ∀ a ∈ (s.batch.cycle s.client).1.success, List.Forall₂
    (fun raw call => ∃ r, p.format.Owns raw r ∧ Carries p input.attributes r call.message)
    ((Reader.lines a.content).filter p.format.carries) (s.step .cycle).delivering

theorem run_sends (p : Publisher) (input : Input) (client : Client) (moves : List Move)
    (several : 2 ≤ p.format.schema.length) (shown : Text.isBlank p.format.delimiter = false) :
    ((Course.start p input client).run moves).Sends p input := by
  intro a succeeded
  rcases read_cases p input.content with ⟨fault, read⟩ | ⟨records, parsed, nonempty⟩
  · have barren := barren_run input _ moves (barren_start p input client fault read)
    generalize (Course.start p input client).run moves = s at barren succeeded
    have pending :=
      (s.batch.emits_resolves s.client (artifact_emits _ .success a succeeded)).1
    obtain ⟨fault, unreadable⟩ := Option.isSome_iff_exists.mp (barren.pending pending).1
    rw [s.batch.cycle_unreadable s.client fault pending unreadable] at succeeded
    cases succeeded
  · obtain ⟨roster, rostered⟩ := rostered_run input client moves parsed nonempty
    generalize (Course.start p input client).run moves = s at rostered succeeded ⊢
    obtain ⟨pending, resolved⟩ :=
      s.batch.emits_resolves s.client (artifact_emits _ .success a succeeded)
    exact success_sent input s rostered pending resolved parsed several shown a succeeded

-- Lines that hold the delimiter make a record each, and those of a success artifact a message.
structure Format.Unskipped (f : Format) : Prop where
  always : (∀ key input records, f.parse key input = .ok records →
      List.Forall₂ f.Owns ((Reader.lines input).filter f.carries) records) ↔
    Text.isBlank f.delimiter = false
  each : ∀ key input records, f.parse key input = .ok records →
    (List.Forall₂ f.Owns ((Reader.lines input).filter f.carries) records ↔
      ∀ raw ∈ Reader.lines input, f.carries raw = true → Utf8.blank raw = false)
  sent : Text.isBlank f.delimiter = false → ∀ p : Publisher, p.format = f →
    ∀ (input : Input) (client : Client) (moves : List Move),
      ((Course.start p input client).run moves).Sends p input

/-- No line that holds the delimiter is passed over, exactly where the delimiter is not white space.
-/
theorem fields_not_skipped (f : Format) (valid : f.validate = .ok ())
    (several : 2 ≤ f.schema.length) : f.Unskipped where
  always := by
    constructor
    · intro every
      cases blank : Text.isBlank f.delimiter with
      | false => rfl
      | true =>
        obtain ⟨parsed, carrying⟩ := delimiter_line f valid .none blank
        have owned := every .none _ [] parsed
        rw [carrying] at owned
        cases owned
    · intro shown key input records parsed
      exact (parse_carried f several key input records parsed).mpr fun raw _ carries =>
        carries_filled f shown raw carries
  each := parse_carried f several
  sent shown p own input client moves := by
    subst own
    exact run_sends p input client moves several shown

namespace Sample

def tabbed : Format := { schema := [['a'], ['b']], delimiter := '\t' }

def tabs : Bytes := [120, 9, 121, 10, 9, 10]

end Sample

theorem sample_not_skipped :
    Sample.people.format.validate = .ok () ∧ 2 ≤ Sample.people.format.schema.length ∧
      Sample.people.format.Unskipped :=
  ⟨by decide, by decide, fields_not_skipped Sample.people.format (by decide) (by decide)⟩

theorem delimiter_line_skipped : ¬ ∀ (f : Format) (key : KeyRule) (input : Bytes)
    (records : List Record), f.validate = .ok () → 2 ≤ f.schema.length →
      f.parse key input = .ok records → ∀ raw ∈ Reader.lines input, f.carries raw = true →
        ∃ r ∈ records, f.Owns raw r := by
  intro every
  have parsed : Sample.tabbed.parse .none Sample.tabs =
      .ok [{ ordinal := 0, raw := Sample.tabs, fields := [['x'], ['y']], key := none }] := by
    decide
  obtain ⟨r, member, owns⟩ := every Sample.tabbed .none Sample.tabs _ (by decide) (by decide)
    parsed [9, 10] (by decide) (by decide)
  obtain rfl := List.mem_singleton.mp member
  obtain ⟨text, decoded, split⟩ := owns.fields
  have shown : Utf8.decode [9, 10] = .ok ['\t', '\n'] := by decide
  rw [shown] at decoded
  cases decoded
  have fields : Fields.split? Sample.tabbed.delimiter Sample.tabbed.trimFields
      (Reader.body ['\t', '\n']) = some [[], []] := by decide
  rw [fields] at split
  cases split

end Courier
