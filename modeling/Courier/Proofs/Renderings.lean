import Courier.Proofs.Lines
import Courier.Proofs.Octets
import Courier.Proofs.Splitting
import Courier.Settings

set_option autoImplicit false

namespace Courier

def Utf8.blank (s : Bytes) : Bool :=
  match Utf8.decode s with
  | .ok t => Text.allBlank t
  | .error _ => false

namespace Format

def quotes (f : Format) (value : Text) : Bool :=
  Writer.field? f.quoteMode f.delimiter value == some (Writer.quote value)

def readBack (f : Format) (value : Text) : Text :=
  if f.trimFields && !f.quotes value then Text.trim value else value

structure Fits (f : Format) (r : Record) : Prop where
  width : r.fields.length = f.width
  plain : ∀ value ∈ r.fields, '\n' ∉ value

theorem validate_iff (f : Format) : f.validate = .ok () ↔
    f.schema ≠ [] ∧ f.delimiter ≠ '"' ∧ f.delimiter ≠ '\n' ∧ f.delimiter ≠ '\r' := by
  unfold validate isReserved
  by_cases schema : f.schema = []
  · simp [schema]
  · by_cases reserved : f.delimiter = '"' ∨ f.delimiter = '\n' ∨ f.delimiter = '\r'
    · rw [if_neg (by simpa using schema), if_pos (by simpa [or_assoc] using reserved)]
      constructor
      · intro valid
        cases valid
      · rintro ⟨_, quote, feed, feedback⟩
        rcases reserved with same | same | same
        · exact absurd same quote
        · exact absurd same feed
        · exact absurd same feedback
    · rw [if_neg (by simpa using schema), if_neg (by simpa [or_assoc] using reserved)]
      simpa [schema, not_or] using reserved

end Format

namespace Writer

theorem quote_longer (value : Text) : value.length < (quote value).length := by
  have kept : value.length ≤ (escape value).length := by
    rw [escape, List.length_flatMap]
    induction value with
    | nil => simp
    | cons c value ih =>
      have one : 1 ≤ (if (c == '"') = true then ['"', '"'] else [c]).length := by
        split
        · simp
        · simp
      rw [List.length_cons, List.map_cons, List.sum_cons]
      omega
  simp only [quote, List.cons_append, List.length_cons, List.length_append]
  omega

theorem quote_mem (value : Text) : ∀ c ∈ quote value, c = '"' ∨ c ∈ value := by
  intro c member
  rw [quote, List.cons_append, List.mem_cons, List.mem_append, List.mem_singleton, escape,
    List.mem_flatMap] at member
  rcases member with opening | ⟨other, inside, same⟩ | closing
  · exact .inl opening
  · split at same
    · left
      simpa using same
    · right
      rw [List.mem_singleton.mp same]
      exact inside
  · exact .inl closing

theorem needs_quotes_iff (delimiter : Char) (value : Text) : needsQuotes delimiter value = false ↔
    ∀ c ∈ value, c ≠ delimiter ∧ c ≠ '"' ∧ c ≠ '\n' ∧ c ≠ '\r' := by
  simp [needsQuotes, and_assoc]

end Writer

variable {f : Format}

theorem field_cases (value part : Text)
    (written : Writer.field? f.quoteMode f.delimiter value = some part) :
    (part = Writer.quote value ∧ f.quotes value = true) ∨
      (part = value ∧ f.quotes value = false ∧
        Writer.needsQuotes f.delimiter value = false) := by
  have told : f.quotes value = true ↔ part = Writer.quote value := by
    rw [Format.quotes, written, beq_iff_eq, Option.some_inj]
  have forms : part = Writer.quote value ∨
      (part = value ∧ Writer.needsQuotes f.delimiter value = false) := by
    unfold Writer.field? at written
    cases needs : Writer.needsQuotes f.delimiter value with
    | true => cases mode : f.quoteMode <;> simp_all
    | false => cases mode : f.quoteMode <;> simp_all
  rcases forms with quoted | ⟨rfl, bare⟩
  · exact .inl ⟨quoted, told.mpr quoted⟩
  · right
    refine ⟨rfl, ?_, bare⟩
    rw [← Bool.not_eq_true, told]
    intro same
    exact Nat.ne_of_lt (Writer.quote_longer part) (congrArg List.length same)

theorem field_split (value part : Text) (plain : f.delimiter ≠ '"')
    (written : Writer.field? f.quoteMode f.delimiter value = some part) :
    Fields.split? f.delimiter f.trimFields part = some [f.readBack value] := by
  rcases field_cases value part written with ⟨rfl, quoted⟩ | ⟨rfl, quoted, bare⟩
  · rw [Fields.split_quote value plain, Format.readBack, quoted]
    simp
  · rw [Writer.needs_quotes_iff] at bare
    rw [Fields.split_plain part fun c member => ⟨(bare c member).1, (bare c member).2.1⟩,
      Format.readBack, quoted]
    simp

theorem field_plain (value part : Text) (plain : '\n' ∉ value)
    (written : Writer.field? f.quoteMode f.delimiter value = some part) : '\n' ∉ part := by
  rcases field_cases value part written with ⟨rfl, _⟩ | ⟨rfl, _, _⟩
  · intro member
    rcases Writer.quote_mem value _ member with quote | inside
    · exact absurd quote (by decide)
    · exact plain inside
  · exact plain

theorem field_last (value part : Text)
    (written : Writer.field? f.quoteMode f.delimiter value = some part) :
    ∀ c ∈ part.getLast?, Reader.isLineEnd c = false := by
  intro c last
  rcases field_cases value part written with ⟨rfl, _⟩ | ⟨rfl, _, bare⟩
  · rw [Writer.quote, List.getLast?_concat, Option.mem_def, Option.some_inj] at last
    subst last
    decide
  · rw [Writer.needs_quotes_iff] at bare
    obtain ⟨_, _, feed, back⟩ := bare c (List.mem_of_getLast? last)
    simp [Reader.isLineEnd, feed, back]

theorem fields_iff (r : Record) (parts : List Text) : f.fields r = .ok parts ↔
    List.Forall₂ (fun value part => Writer.field? f.quoteMode f.delimiter value = some part)
      r.fields parts := by
  apply mapM_numbered
  intro value i part
  dsimp only
  cases Writer.field? f.quoteMode f.delimiter value with
  | none => simp
  | some t => simp

theorem render_iff (r : Record) (payload : Bytes) : f.render r = .ok payload ↔
    r.fields.length = f.width ∧ ∃ parts,
      List.Forall₂ (fun value part => Writer.field? f.quoteMode f.delimiter value = some part)
        r.fields parts ∧
      payload = Utf8.encode ([f.delimiter].intercalate parts ++ ['\n']) := by
  unfold Format.render
  by_cases wide : r.fields.length = f.width
  · rw [if_neg (by simpa using wide)]
    simp only [wide, true_and, ← fields_iff]
    cases f.fields r with
    | error e => simp [Except.map]
    | ok parts => simp [Except.map, eq_comm]
  · rw [if_pos wide]
    simp [wide]

namespace Reader

theorem body_feed (t : Text) : body (t ++ ['\n']) = body t := by
  rw [body, List.reverse_append, List.reverse_singleton, List.singleton_append,
    List.dropWhile_cons_of_pos rfl]
  rfl

theorem body_subset (t : Text) : ∀ c ∈ body t, c ∈ t := by
  intro c member
  rw [body, List.mem_reverse] at member
  exact List.mem_reverse.mp ((List.dropWhile_sublist _).subset member)

theorem body_whole (t : Text) (steady : ∀ c ∈ t.getLast?, isLineEnd c = false) : body t = t := by
  have kept : t.reverse.dropWhile isLineEnd = t.reverse := by
    rw [← List.head?_reverse] at steady
    cases reversed : t.reverse with
    | nil => rfl
    | cons c rest =>
      rw [reversed] at steady
      exact List.dropWhile_cons_of_neg (by simpa using steady c rfl)
  rw [body, kept, List.reverse_reverse]

theorem body_plain (raw : Bytes) (text : Text) (single : Ended raw ∨ Open raw)
    (read : raw = Utf8.encode text) : '\n' ∉ body text := by
  rcases single with ⟨front, clean, rfl⟩ | ⟨_, clean⟩
  · rcases List.eq_nil_or_concat text with rfl | ⟨init, last, rfl⟩
    · simp [body]
    · rw [List.concat_eq_append, Utf8.encode_append] at read
      have some_octet : Utf8.encode [last] ≠ [] := by
        simp [Utf8.encode]
      have ending := congrArg List.getLast? read
      rw [List.getLast?_concat, List.getLast?_append_of_ne_nil _ some_octet] at ending
      have feed : '\n' ∈ [last] := (Utf8.encode_feed _).mp (List.mem_of_getLast? ending.symm)
      rw [← List.mem_singleton.mp feed] at read ⊢
      have same : front = Utf8.encode init := List.append_inj_left' read rfl
      rw [List.concat_eq_append, body_feed]
      intro member
      apply clean
      rw [same, lineFeed, Utf8.encode_feed]
      exact body_subset init _ member
  · intro member
    apply clean
    rw [read, lineFeed, Utf8.encode_feed]
    exact body_subset text _ member

end Reader

theorem blank_line (t : Text) : Utf8.blank (Utf8.encode (t ++ ['\n'])) = Text.allBlank t := by
  have feed : Text.isBlank '\n' = true := rfl
  simp [Utf8.blank, Utf8.decode_encode, Text.allBlank, feed]

variable {r : Record} {payload : Bytes}

theorem rendered_ended (valid : f.validate = .ok ()) (fits : f.Fits r)
    (rendered : f.render r = .ok payload) : Reader.Ended payload := by
  obtain ⟨_, _, feed, _⟩ := (Format.validate_iff f).mp valid
  obtain ⟨_, parts, written, rfl⟩ := (render_iff r payload).mp rendered
  refine ⟨Utf8.encode ([f.delimiter].intercalate parts), ?_, ?_⟩
  · rw [Reader.lineFeed, Utf8.encode_feed]
    intro member
    obtain ⟨part, between, inside⟩ := List.mem_flatten.mp member
    rcases Text.mem_between f.delimiter parts part between with rfl | listed
    · exact feed (List.mem_singleton.mp inside).symm
    · obtain ⟨value, held, one⟩ := paired_source _ _ written part listed
      exact field_plain value part (fits.plain value held) one inside
  · rw [Utf8.encode_append]
    rfl

theorem rendered_line (valid : f.validate = .ok ()) (rendered : f.render r = .ok payload) :
    Reader.readLine f payload = .ok (if Utf8.blank payload then .blank payload
      else .row payload (r.fields.map f.readBack)) := by
  obtain ⟨schema, plain, feed, back⟩ := (Format.validate_iff f).mp valid
  obtain ⟨wide, parts, written, rfl⟩ := (render_iff r payload).mp rendered
  have steady : ∀ c ∈ ([f.delimiter].intercalate parts).getLast?, Reader.isLineEnd c = false := by
    intro c last
    rw [Option.mem_def, List.intercalate, List.getLast?_flatten] at last
    obtain ⟨part, between, inside⟩ := List.exists_of_findSome?_eq_some last
    rcases Text.mem_between f.delimiter parts part (List.mem_reverse.mp between) with rfl | listed
    · cases inside
      simp [Reader.isLineEnd, feed, back]
    · obtain ⟨value, _, one⟩ := paired_source _ _ written part listed
      exact field_last value part one c inside
  have nonempty : parts ≠ [] := by
    rintro rfl
    rw [List.forall₂_nil_right_iff.mp written] at wide
    exact schema (List.eq_nil_of_length_eq_zero wide.symm)
  have split : Fields.split? f.delimiter f.trimFields ([f.delimiter].intercalate parts) =
      some (r.fields.map f.readBack) := by
    apply Fields.split_join parts _ nonempty
    rw [List.forall₂_map_right_iff]
    exact List.Forall₂.flip (written.imp fun value part one => field_split value part plain one)
  rw [Reader.readLine, Utf8.decode_encode]
  dsimp only
  rw [Reader.body_feed, Reader.body_whole _ steady, blank_line, split]
  cases Text.allBlank ([f.delimiter].intercalate parts) with
  | true => rfl
  | false => simp [wide]

def Format.row? (f : Format) (r : Record) : Option (Bytes × List Text) :=
  match f.render r with
  | .ok payload =>
    if Utf8.blank payload then none else some (payload, r.fields.map f.readBack)
  | .error _ => none

theorem row_iff (row : Bytes × List Text) : f.row? r = some row ↔
    f.render r = .ok row.1 ∧ Utf8.blank row.1 = false ∧ row.2 = r.fields.map f.readBack := by
  obtain ⟨raw, fields⟩ := row
  unfold Format.row?
  cases f.render r with
  | error e => simp
  | ok payload =>
    dsimp only
    by_cases empty : Utf8.blank payload = true
    · rw [if_pos empty]
      constructor
      · intro none
        cases none
      · rintro ⟨same, filled, _⟩
        cases same
        rw [empty] at filled
        cases filled
    · rw [if_neg empty, Option.some_inj, Prod.mk.injEq, Except.ok.injEq]
      constructor
      · rintro ⟨rfl, rfl⟩
        exact ⟨rfl, by simpa using empty, rfl⟩
      · rintro ⟨rfl, _, rfl⟩
        exact ⟨rfl, rfl⟩

theorem parse_renderings (key : KeyRule) (records : List Record) (valid : f.validate = .ok ())
    (fits : ∀ r ∈ records, f.Fits r) :
    f.parse key ((records.filterMap f.row?).map Prod.fst).flatten =
      .ok (Reader.number key (records.filterMap f.row?)) := by
  apply parse_rows
  · intro row member
    obtain ⟨r, listed, made⟩ := List.mem_filterMap.mp member
    exact rendered_ended valid (fits r listed) ((row_iff row).mp made).1
  · intro row member
    obtain ⟨r, _, made⟩ := List.mem_filterMap.mp member
    obtain ⟨rendered, filled, fields⟩ := (row_iff row).mp made
    rw [rendered_line valid rendered, filled, fields]
    rfl

theorem parse_rendering (key : KeyRule) (valid : f.validate = .ok ()) (fits : f.Fits r)
    (rendered : f.render r = .ok payload) (filled : Utf8.blank payload = false) :
    f.parse key payload = .ok [
      { ordinal := 0, raw := payload, fields := r.fields.map f.readBack,
        key := key.extract (r.fields.map f.readBack) }] := by
  have made := (row_iff (payload, r.fields.map f.readBack)).mpr ⟨rendered, filled, rfl⟩
  have parsed := parse_renderings key [r] valid (by simpa using fits)
  rw [List.filterMap_cons_some made, List.filterMap_nil] at parsed
  simpa [Reader.number] using parsed

theorem parse_blank (key : KeyRule) (valid : f.validate = .ok ()) (fits : f.Fits r)
    (rendered : f.render r = .ok payload) (empty : Utf8.blank payload = true) :
    f.parse key payload = .ok [] := by
  have line := rendered_line valid rendered
  rw [empty, if_pos rfl] at line
  have read := Reader.read_lines_again f [.blank payload]
    (Reader.lined_ended _ (by simpa [Reader.Line.raw] using rendered_ended valid fits rendered))
    (by simpa [Reader.Line.raw] using line)
  rw [List.map_singleton, List.flatten_singleton, Reader.Line.raw] at read
  rw [Format.parse, read]
  rfl

theorem read_back_all (f : Format) (mode : f.quoteMode = .all) (value : Text) :
    f.readBack value = value := by
  simp [Format.readBack, Format.quotes, Writer.field?, mode]

theorem read_back_fields (mode : f.quoteMode = .all) (fields : List Text) :
    fields.map f.readBack = fields := by
  simp [List.map_congr_left fun value _ => read_back_all f mode value]

theorem written_all (mode : f.quoteMode = .all) (values : List Text) :
    List.Forall₂ (fun value part => Writer.field? f.quoteMode f.delimiter value = some part)
      values (values.map Writer.quote) := by
  rw [List.forall₂_map_right_iff, List.forall₂_same]
  intro value _
  rw [mode]
  rfl

theorem render_all (valid : f.validate = .ok ()) (mode : f.quoteMode = .all)
    (wide : r.fields.length = f.width) :
    ∃ payload, f.render r = .ok payload ∧ Utf8.blank payload = false := by
  obtain ⟨schema, _⟩ := (Format.validate_iff f).mp valid
  refine ⟨_, (render_iff r _).mpr ⟨wide, _, written_all mode r.fields, rfl⟩, ?_⟩
  rw [blank_line]
  have quote : Text.isBlank '"' = false := rfl
  cases held : r.fields with
  | nil =>
    rw [held] at wide
    exact absurd (List.eq_nil_of_length_eq_zero wide.symm) schema
  | cons value values =>
    cases values with
    | nil => simp [Writer.quote, Text.allBlank, quote]
    | cons next values => simp [Writer.quote, Text.allBlank, quote]

-- Writing and reading undo one another as far as the quote mode and trimming let them.
structure Format.ReadsBack (f : Format) (key : KeyRule) : Prop where
  line : ∀ r payload, f.Fits r → f.render r = .ok payload →
    ∃ body, Reader.lineFeed ∉ body ∧ payload = body ++ [Reader.lineFeed]
  single : ∀ r payload, f.Fits r → f.render r = .ok payload → Utf8.blank payload = false →
    f.parse key payload = .ok [
      { ordinal := 0, raw := payload, fields := r.fields.map f.readBack,
        key := key.extract (r.fields.map f.readBack) }]
  whole : f.quoteMode = .all → ∀ r, f.Fits r → ∃ payload,
    f.render r = .ok payload ∧ Utf8.blank payload = false ∧
      f.parse key payload = .ok [
        { ordinal := 0, raw := payload, fields := r.fields, key := key.extract r.fields }]
  several : ∀ records : List Record, (∀ r ∈ records, f.Fits r) →
    f.parse key ((records.filterMap f.row?).map Prod.fst).flatten =
      .ok (Reader.number key (records.filterMap f.row?))

/-- What has been written is read again, in every quote mode and up to the trimming of bare values.
-/
theorem renderings_read_back (f : Format) (key : KeyRule) (valid : f.validate = .ok ()) :
    f.ReadsBack key := by
  constructor
  · intro r payload fits rendered
    exact rendered_ended valid fits rendered
  · intro r payload fits rendered filled
    exact parse_rendering key valid fits rendered filled
  · intro mode r fits
    obtain ⟨payload, rendered, filled⟩ := render_all valid mode fits.width
    have parsed := parse_rendering key valid fits rendered filled
    rw [read_back_fields mode] at parsed
    exact ⟨payload, rendered, filled, parsed⟩
  · intro records fits
    exact parse_renderings key records valid fits

namespace Sample

def sparing : Format := { schema := [['a']], quoteMode := .minimal }

def padded : Record :=
  { ordinal := 0, raw := [34, 32, 97, 32, 34, 10], fields := [[' ', 'a', ' ']] }

def shown : Bytes := [32, 97, 32, 10]

end Sample

theorem sample_reads_back : Sample.sparing.validate = .ok () ∧
    Sample.sparing.Fits Sample.padded ∧ Sample.sparing.render Sample.padded = .ok Sample.shown ∧
    Utf8.blank Sample.shown = false ∧ Sample.sparing.ReadsBack .none :=
  ⟨rfl, ⟨rfl, by decide⟩, rfl, rfl, renderings_read_back Sample.sparing .none rfl⟩

theorem parsed_fits (f : Format) (key : KeyRule) (input : Bytes) (records : List Record)
    (parsed : f.parse key input = .ok records) : ∀ r ∈ records, f.Fits r := by
  intro r member
  obtain ⟨raw, cut, read⟩ := parse_listed f key input records parsed r member
  have single := (Reader.lines_lined input).line raw cut
  obtain ⟨_, text, decoded, _, split, wide⟩ := (Reader.read_line_row f raw raw r.fields).mp read
  have plain := Reader.body_plain raw text single ((Utf8.decode_iff raw text).mp decoded)
  have apart : ∀ c ∈ Reader.body text, c ≠ '\n' := by
    rintro c inside rfl
    exact plain inside
  refine ⟨wide, ?_⟩
  intro value held feed
  exact Fields.split_all _ _ split apart value held '\n' feed rfl

/-- A rendering makes its record again exactly when it is not blank and no value loses white space.
-/
theorem rendering_restores (f : Format) (key : KeyRule) (input : Bytes) (records : List Record)
    (r : Record) (payload : Bytes) (valid : f.validate = .ok ())
    (parsed : f.parse key input = .ok records) (member : r ∈ records)
    (rendered : f.render r = .ok payload) :
    (∃ again, f.parse key payload = .ok [again] ∧ again.fields = r.fields) ↔
      Utf8.blank payload = false ∧ ∀ value ∈ r.fields, f.readBack value = value := by
  have fits := parsed_fits f key input records parsed r member
  cases empty : Utf8.blank payload with
  | true =>
    rw [parse_blank key valid fits rendered empty]
    simp
  | false =>
    rw [parse_rendering key valid fits rendered empty]
    have same := @List.map_inj_left _ _ r.fields f.readBack id
    rw [List.map_id] at same
    simpa using same

theorem sample_restores : Sample.sparing.validate = .ok () ∧
    Sample.sparing.parse .none Sample.padded.raw = .ok [Sample.padded] ∧
    Sample.padded ∈ [Sample.padded] ∧
    Sample.sparing.render Sample.padded = .ok Sample.shown ∧
    ((∃ again, Sample.sparing.parse .none Sample.shown = .ok [again] ∧
      again.fields = Sample.padded.fields) ↔
        Utf8.blank Sample.shown = false ∧
          ∀ value ∈ Sample.padded.fields, Sample.sparing.readBack value = value) :=
  ⟨rfl, rfl, by decide, rfl, rendering_restores Sample.sparing .none Sample.padded.raw
    [Sample.padded] Sample.padded Sample.shown rfl rfl (by decide) rfl⟩

theorem outer_space_lost : ¬ ∀ (f : Format) (key : KeyRule) (input : Bytes)
    (records : List Record) (r : Record) (payload : Bytes), f.validate = .ok () →
      f.parse key input = .ok records → r ∈ records → f.render r = .ok payload →
        ∃ again, f.parse key payload = .ok [again] ∧ again.fields = r.fields := by
  intro restores
  obtain ⟨again, parsed, same⟩ := restores Sample.sparing .none Sample.padded.raw
    [Sample.padded] Sample.padded Sample.shown rfl rfl (by decide) rfl
  have trimmed : Sample.sparing.parse .none Sample.shown =
      .ok [{ ordinal := 0, raw := Sample.shown, fields := [['a']] }] := rfl
  rw [trimmed, Except.ok.injEq, List.cons.injEq] at parsed
  rw [← parsed.1] at same
  exact absurd same (by decide)

end Courier
