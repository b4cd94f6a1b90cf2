import Courier.Proofs.Cells
import Courier.Proofs.Slices

set_option autoImplicit false

namespace Courier

namespace Reader

-- The lines of an input: each but the last ends in its only line feed, and the last may have none.
structure Cut (input : Bytes) (parts : List Bytes) : Prop where
  whole : parts.flatten = input
  lined : Lined parts

theorem cut_iff (input : Bytes) (parts : List Bytes) : Cut input parts ↔ parts = lines input := by
  constructor
  · rintro ⟨rfl, lined⟩
    exact (lines_again parts lined).symm
  · rintro rfl
    exact ⟨lines_flatten input, lines_lined input⟩

structure Stripped (text line : Text) : Prop where
  run : ∃ ends, text = line ++ ends ∧ ∀ c ∈ ends, c = '\r' ∨ c = '\n'
  steady : ∀ c ∈ line.getLast?, c ≠ '\r' ∧ c ≠ '\n'

theorem stripped_iff (text line : Text) : Stripped text line ↔ line = body text := by
  constructor
  · rintro ⟨⟨ends, rfl, all⟩, steady⟩
    have dropped : body (line ++ ends) = body line := by
      rw [body, body, List.reverse_append,
        List.dropWhile_append_of_pos]
      intro c member
      exact (line_end_iff c).mpr (all c (List.mem_reverse.mp member))
    rw [dropped, body_whole]
    intro c last
    rw [← Bool.not_eq_true, line_end_iff, not_or]
    exact steady c last
  · rintro rfl
    refine ⟨⟨(text.reverse.takeWhile isLineEnd).reverse, ?_, ?_⟩, ?_⟩
    · rw [body, ← List.reverse_append, List.takeWhile_append_dropWhile,
        List.reverse_reverse]
    · intro c member
      rw [← line_end_iff]
      exact List.all_eq_true.mp List.all_takeWhile c (List.mem_reverse.mp member)
    · intro c last
      rw [body, List.getLast?_reverse] at last
      have first := List.head?_dropWhile_not isLineEnd text.reverse
      rw [Option.mem_def.mp last] at first
      rw [← not_or, ← line_end_iff, Bool.not_eq_true]
      exact first

structure Shows (raw : Bytes) (line : Text) : Prop where
  text : ∃ text, raw = Utf8.encode text ∧ Stripped text line
  filled : ∃ c ∈ line, Text.isBlank c = false

-- What becomes of a line: nothing where it is blank, its fields, or the first thing that is wrong.
inductive Judged (f : Format) (raw : Bytes) : Except LineFault (Option (List Text)) → Prop where
  | blank (text : Text) : raw = Utf8.encode text → (∀ c ∈ text, Text.isBlank c = true) →
    Judged f raw (.ok none)
  | row (line : Text) (fields : List Text) : Shows raw line →
    Fields.Splits f.delimiter f.trimFields line fields → fields.length = f.schema.length →
    Judged f raw (.ok (some fields))
  | encoding (fault : Utf8.Fault) : (∀ text, raw ≠ Utf8.encode text) →
    Utf8.decode raw = .error fault → Judged f raw (.error (.encoding fault))
  | unterminated (line : Text) : Shows raw line →
    Fields.LeftOpen f.delimiter f.trimFields line → Judged f raw (.error .unterminated)
  | width (line : Text) (fields : List Text) : Shows raw line →
    Fields.Splits f.delimiter f.trimFields line fields → fields.length ≠ f.schema.length →
    Judged f raw (.error (.width f.schema.length fields.length))

def Line.fields? : Line → Option (List Text)
  | .blank _ => none
  | .row _ fields => some fields

theorem shows_iff (raw : Bytes) (line : Text) : Shows raw line ↔
    ∃ text, Utf8.decode raw = .ok text ∧ line = body text ∧ Text.allBlank line = false := by
  have filled : Text.allBlank line = false ↔ ∃ c ∈ line, Text.isBlank c = false := by
    simp [Text.allBlank]
  simp only [filled, Utf8.decode_iff]
  constructor
  · rintro ⟨⟨text, written, stripped⟩, some_text⟩
    exact ⟨text, written, (stripped_iff text line).mp stripped, some_text⟩
  · rintro ⟨text, written, rfl, some_text⟩
    exact ⟨⟨text, written, (stripped_iff text _).mpr rfl⟩, some_text⟩

theorem read_open (f : Format) (raw : Bytes) (line : Text) (shown : Shows raw line)
    (leftOpen : Fields.LeftOpen f.delimiter f.trimFields line) :
    readLine f raw = .error .unterminated := by
  obtain ⟨text, decoded, rfl, filled⟩ := (shows_iff raw line).mp shown
  simp [readLine, decoded, filled, (Fields.split_none_iff _ _ _).mpr leftOpen]

theorem read_cells (f : Format) (raw : Bytes) (line : Text) (fields : List Text)
    (shown : Shows raw line) (splits : Fields.Splits f.delimiter f.trimFields line fields) :
    readLine f raw = if fields.length = f.width then .ok (.row raw fields)
      else .error (.width f.width fields.length) := by
  obtain ⟨text, decoded, rfl, filled⟩ := (shows_iff raw line).mp shown
  simp [readLine, decoded, filled, (Fields.split_iff _ _ _ _).mpr splits]

theorem judged_iff (f : Format) (raw : Bytes) (out : Except LineFault (Option (List Text))) :
    Judged f raw out ↔ (readLine f raw).map Line.fields? = out := by
  constructor
  · intro judged
    cases judged with
    | blank text written blank =>
      have decoded := (Utf8.decode_iff raw text).mpr written
      have empty : Text.allBlank (body text) = true := by
        rw [body_blank]
        exact List.all_eq_true.mpr blank
      simp [readLine, decoded, empty, Except.map, Line.fields?]
    | row line fields shown splits wide =>
      rw [read_cells f raw line fields shown splits, Format.width, if_pos wide]
      rfl
    | encoding fault _ failed => simp [readLine, failed, Except.map]
    | unterminated line shown leftOpen =>
      rw [read_open f raw line shown leftOpen]
      rfl
    | width line fields shown splits other =>
      rw [read_cells f raw line fields shown splits, Format.width, if_neg other]
      rfl
  · rintro rfl
    cases decoded : Utf8.decode raw with
    | error fault =>
      have failed : readLine f raw = .error (.encoding fault) := by simp [readLine, decoded]
      rw [failed]
      refine .encoding fault (fun text written => ?_) decoded
      rw [(Utf8.decode_iff raw text).mpr written] at decoded
      cases decoded
    | ok text =>
      have written := (Utf8.decode_iff raw text).mp decoded
      cases empty : Text.allBlank (body text) with
      | true =>
        have read : readLine f raw = .ok (.blank raw) := by simp [readLine, decoded, empty]
        rw [read]
        rw [body_blank] at empty
        exact .blank text written (List.all_eq_true.mp empty)
      | false =>
        have shown : Shows raw (body text) := (shows_iff raw _).mpr ⟨text, decoded, rfl, empty⟩
        rcases Fields.splits_or_open f.delimiter f.trimFields (body text) with
          ⟨fields, splits⟩ | leftOpen
        · rw [read_cells f raw _ fields shown splits]
          by_cases wide : fields.length = f.width
          · rw [if_pos wide]
            exact .row _ fields shown splits wide
          · rw [if_neg wide]
            exact .width _ fields shown splits wide
        · rw [read_open f raw _ shown leftOpen]
          exact .unterminated _ shown leftOpen

theorem judged_ok (f : Format) (raw : Bytes) :
    (∃ row?, Judged f raw (.ok row?)) ↔ ∃ line, readLine f raw = .ok line := by
  simp only [judged_iff]
  cases readLine f raw with
  | error fault => simp [Except.map]
  | ok line => simp [Except.map]

theorem judged_error (f : Format) (raw : Bytes) (fault : LineFault) :
    Judged f raw (.error fault) ↔ readLine f raw = .error fault := by
  rw [judged_iff]
  cases readLine f raw with
  | error fault => simp [Except.map]
  | ok line => simp [Except.map]

theorem located_error (number : Nat) (m : Malformed) (x : Except LineFault Line) :
    x.mapError (Malformed.mk number) = .error m ↔ m.line = number ∧ x = .error m.fault := by
  obtain ⟨line, fault⟩ := m
  cases x with
  | error e => simp [Except.mapError, eq_comm]
  | ok line => simp [Except.mapError]

theorem located_ok (number : Nat) (x : Except LineFault Line) :
    (∃ line, x.mapError (Malformed.mk number) = .ok line) ↔ ∃ line, x = .ok line := by
  cases x with
  | error e => simp [Except.mapError]
  | ok line => simp [Except.mapError]

theorem read_lines_stop (f : Format) (input : Bytes) (m : Malformed) :
    readLines f input = .error m ↔ ∃ before raw after, lines input = before ++ raw :: after ∧
      (∀ earlier ∈ before, ∃ line, readLine f earlier = .ok line) ∧
      m.line = before.length + 1 ∧ readLine f raw = .error m.fault := by
  rw [readLines, mapM_stop]
  simp only [located_error, located_ok]
  constructor
  · rintro ⟨front, ⟨raw, number⟩, behind, cut, passed, place, failed⟩
    obtain ⟨before, rest, whole, rfl, others⟩ := List.zipIdx_eq_append_iff.mp cut
    obtain ⟨x, after, rfl, same, rfl⟩ := List.zipIdx_eq_cons_iff.mp others.symm
    cases same
    refine ⟨before, raw, after, whole, ?_, place.trans (Nat.add_comm _ _), failed⟩
    intro earlier member
    rw [← List.zipIdx_map_fst 1 before, List.mem_map] at member
    obtain ⟨⟨_, k⟩, listed, rfl⟩ := member
    exact passed _ listed
  · rintro ⟨before, raw, after, whole, passed, place, failed⟩
    refine ⟨before.zipIdx 1, (raw, before.length + 1), after.zipIdx (before.length + 2), ?_, ?_,
      place, failed⟩
    · rw [whole, List.zipIdx_append, List.zipIdx_cons, Nat.add_comm 1]
    · rintro ⟨earlier, k⟩ member
      exact passed earlier (List.fst_mem_of_mem_zipIdx member)

theorem attach_fields (ls : List Line) :
    (attach ls).2.map Prod.snd = ls.filterMap Line.fields? := by
  induction ls with
  | nil => rfl
  | cons line ls ih =>
    cases line with
    | blank raw =>
      rw [List.filterMap_cons_none rfl, ← ih]
      rfl
    | row raw fields =>
      have kept : Line.fields? (.row raw fields) = some fields := rfl
      rw [List.filterMap_cons_some kept, ← ih]
      rfl

theorem tile_fields (ls : List Line) : (tile ls).map Prod.snd = ls.filterMap Line.fields? := by
  rw [← attach_fields]
  unfold tile
  split
  · rename_i lead attached
    rw [attached]
  · rename_i lead raw fields rows attached
    rw [attached]
    rfl

theorem number_fields (key : KeyRule) (rows : List (Bytes × List Text)) :
    (number key rows).map (fun r => (r.fields, r.key)) =
      (rows.map Prod.snd).map fun fields => (fields, key.extract fields) := by
  rw [number, List.map_map, ← List.zipIdx_map_fst 0 rows, List.map_map, List.map_map]
  simp [Function.comp_def, List.zipIdx_map_fst]

theorem read_lines_judged (f : Format) (input : Bytes) (ls : List Line)
    (read : readLines f input = .ok ls) :
    List.Forall₂ (fun raw row? => Judged f raw (.ok row?)) (lines input) (ls.map Line.fields?) := by
  rw [List.forall₂_map_right_iff]
  refine ((read_lines_iff f input ls).mp read).imp fun raw line one => ?_
  rw [judged_iff, one]
  rfl

end Reader

structure Judges (f : Format) (key : KeyRule) (input : Bytes) (parts : List Bytes) : Prop where
  accepted : (∃ records, f.parse key input = .ok records) ↔
    ∀ raw ∈ parts, ∃ row?, Reader.Judged f raw (.ok row?)
  records : ∀ records, f.parse key input = .ok records →
    ∃ rows, List.Forall₂ (fun raw row? => Reader.Judged f raw (.ok row?)) parts rows ∧
      records.map (fun r => (r.fields, r.key)) =
        (rows.filterMap id).map fun fields => (fields, key.extract fields)
  refused : ∀ m, f.parse key input = .error m ↔
    ∃ before raw after, parts = before ++ raw :: after ∧
      (∀ earlier ∈ before, ∃ row?, Reader.Judged f earlier (.ok row?)) ∧
      m.line = before.length + 1 ∧ Reader.Judged f raw (.error m.fault)

theorem parse_error (f : Format) (key : KeyRule) (input : Bytes) (m : Malformed) :
    f.parse key input = .error m ↔ Reader.readLines f input = .error m := by
  rw [Format.parse]
  cases Reader.readLines f input with
  | error e => simp [Except.map]
  | ok ls => simp [Except.map]

theorem parse_refused (f : Format) (key : KeyRule) (input : Bytes) (m : Malformed) :
    f.parse key input = .error m ↔
      ∃ before raw after, Reader.lines input = before ++ raw :: after ∧
        (∀ earlier ∈ before, ∃ row?, Reader.Judged f earlier (.ok row?)) ∧
        m.line = before.length + 1 ∧ Reader.Judged f raw (.error m.fault) := by
  rw [parse_error, Reader.read_lines_stop]
  simp only [Reader.judged_ok, Reader.judged_error]

theorem parse_judged (f : Format) (key : KeyRule) (input : Bytes) (records : List Record)
    (parsed : f.parse key input = .ok records) :
    ∃ rows, List.Forall₂ (fun raw row? => Reader.Judged f raw (.ok row?))
        (Reader.lines input) rows ∧
      records.map (fun r => (r.fields, r.key)) =
        (rows.filterMap id).map fun fields => (fields, key.extract fields) := by
  obtain ⟨ls, read, rfl⟩ := parse_tiles f key input records parsed
  refine ⟨ls.map Reader.Line.fields?, Reader.read_lines_judged f input ls read, ?_⟩
  rw [Reader.number_fields, Reader.tile_fields, List.filterMap_map, Function.id_comp]

theorem parse_judges (f : Format) (key : KeyRule) (input : Bytes) :
    Judges f key input (Reader.lines input) where
  accepted := by
    constructor
    · rintro ⟨records, parsed⟩
      obtain ⟨rows, judged, _⟩ := parse_judged f key input records parsed
      have each := judged.imp fun raw row? one => And.intro (Exists.intro row? one) one
      exact ((List.forall₂_and_left _ _).mp each).1
    · intro fine
      cases parsed : f.parse key input with
      | ok records => exact ⟨records, rfl⟩
      | error m =>
        obtain ⟨before, raw, after, whole, _, _, failed⟩ :=
          (parse_refused f key input m).mp parsed
        obtain ⟨row?, read⟩ := fine raw (by simp [whole])
        rw [Reader.judged_iff] at failed read
        rw [read] at failed
        cases failed
  records := parse_judged f key input
  refused := parse_refused f key input

/-- The reader accepts its format and nothing else, and it names the first line that is not in it.
-/
theorem input_judged (f : Format) (key : KeyRule) (input : Bytes) :
    ∃ parts, Reader.Cut input parts ∧ (∀ other, Reader.Cut input other → other = parts) ∧
      Judges f key input parts :=
  ⟨Reader.lines input, (Reader.cut_iff input _).mpr rfl,
    fun other cut => (Reader.cut_iff input other).mp cut, parse_judges f key input⟩

example : ({ schema := [['a']] } : Format).parse .none [120, 10, 10, 34, 10] =
    .error ⟨3, .unterminated⟩ := by decide

end Courier
