import Courier.Proofs.Renderings

set_option autoImplicit false

namespace Courier

namespace Reader

theorem line_end_iff (c : Char) : isLineEnd c = true ↔ c = '\r' ∨ c = '\n' := by
  rw [isLineEnd, Bool.or_eq_true, beq_iff_eq, beq_iff_eq]

theorem body_blank (t : Text) : Text.allBlank (body t) = Text.allBlank t := by
  have ends : (t.reverse.takeWhile isLineEnd).all Text.isBlank = true := by
    rw [List.all_eq_true]
    intro c member
    have ending := List.all_eq_true.mp (List.all_takeWhile (p := isLineEnd)) c member
    rw [line_end_iff] at ending
    rcases ending with rfl | rfl <;> rfl
  have whole : t.reverse.takeWhile isLineEnd ++ t.reverse.dropWhile isLineEnd = t.reverse :=
    List.takeWhile_append_dropWhile
  have all : t.reverse.all Text.isBlank = (t.reverse.dropWhile isLineEnd).all Text.isBlank := by
    conv_lhs => rw [← whole, List.all_append, ends, Bool.true_and]
  rw [Text.allBlank, Text.allBlank, body, List.all_reverse, ← all,
    List.all_reverse]

theorem read_line_blank (f : Format) (raw : Bytes) (line : Line)
    (read : readLine f raw = .ok line) : line.isBlank = Utf8.blank raw := by
  cases line with
  | row kept fields =>
    obtain ⟨_, text, decoded, shown, _⟩ := (read_line_row f raw kept fields).mp read
    rw [Utf8.blank, decoded]
    exact shown.symm.trans (body_blank text)
  | blank kept =>
    rw [Utf8.blank]
    unfold readLine at read
    cases decoded : Utf8.decode raw with
    | error e => simp [decoded] at read
    | ok text =>
      cases empty : Text.allBlank (body text) with
      | true => exact empty.symm.trans (body_blank text)
      | false => grind

theorem attach_count (ls : List Line) :
    (attach ls).2.length = ls.countP fun line => !line.isBlank := by
  induction ls with
  | nil => rfl
  | cons line ls ih =>
    cases line with
    | blank raw =>
      rw [attach_blank, ih]
      rfl
    | row raw fields =>
      rw [attach_row, List.length_cons, ih, List.countP_cons_of_pos (by rfl)]

theorem tile_count (ls : List Line) : (tile ls).length = (attach ls).2.length := by
  unfold tile
  split
  · rename_i none_attached
    rw [none_attached]
  · rename_i attached
    rw [attached]
    rfl

theorem tile_single (ls : List Line) (row : Bytes × List Text) (single : tile ls = [row]) :
    ∃ before raw after, ls = before ++ .row raw row.2 :: after ∧
      ∀ line ∈ before ++ after, line.isBlank = true := by
  obtain ⟨raw, listed⟩ := tile_listed ls row (by simp [single])
  obtain ⟨before, after, rfl⟩ := List.append_of_mem listed
  have one : (before ++ Line.row raw row.2 :: after).countP (fun line => !line.isBlank) = 1 := by
    rw [← attach_count, ← tile_count, single]
    rfl
  have others : (before ++ after).countP (fun line => !line.isBlank) = 0 := by
    rw [List.countP_append, List.countP_cons_of_pos (by rfl)] at one
    rw [List.countP_append]
    omega
  refine ⟨before, raw, after, rfl, ?_⟩
  intro line member
  simpa using List.countP_eq_zero.mp others line member

def OneLine (f : Format) (octets : Bytes) (fields : List Text) : Prop :=
  ∃ before line after, lines octets = before ++ line :: after ∧
    (∀ other ∈ before ++ after, Utf8.blank other = true) ∧ Utf8.blank line = false ∧
    readLine f line = .ok (.row line fields)

theorem tile_one_line (f : Format) (input : Bytes) (ls : List Line)
    (read : readLines f input = .ok ls) (row : Bytes × List Text) (member : row ∈ tile ls) :
    OneLine f row.1 row.2 := by
  obtain ⟨lined, each⟩ := read_lines_each f input ls read
  obtain ⟨picked, below, single⟩ := tile_chosen ls [row] (List.singleton_sublist.mpr member)
  have whole := tile_flatten picked (by simp [single])
  have cut := lines_again _ (lined_sublist _ _ (below.map Line.raw) lined)
  obtain ⟨before, raw, after, rfl, blank⟩ := tile_single picked row single
  have kind : ∀ line ∈ before ++ Line.row raw row.2 :: after,
      line.isBlank = Utf8.blank line.raw := fun line listed =>
    read_line_blank f line.raw line (each line (below.subset listed))
  refine ⟨before.map Line.raw, raw, after.map Line.raw, ?_, ?_, ?_, ?_⟩
  · rw [single, List.map_singleton, List.flatten_singleton] at whole
    rw [whole, cut, List.map_append, List.map_cons]
    rfl
  · intro other listed
    rw [← List.map_append, List.mem_map] at listed
    obtain ⟨line, found, rfl⟩ := listed
    rw [← kind line (by grind), blank line found]
  · exact (kind (.row raw row.2) (by simp)).symm
  · exact each (.row raw row.2) (below.subset (by simp))

end Reader

-- What the slices of records are to the input that they were read from.
structure Sliced (f : Format) (key : KeyRule) (input : Bytes) (records : List Record) : Prop where
  whole : (records.map Record.raw).flatten = input
  ordinals : records.map Record.ordinal = List.range records.length
  width : ∀ r ∈ records, r.fields.length = f.schema.length
  line : ∀ r ∈ records, Reader.OneLine f r.raw r.fields
  chosen : ∀ picked : List Record, picked.Sublist records →
    f.parse key (picked.map Record.raw).flatten = .ok (renumbered picked)

/-- The slices of the records make up the input, and any choice of them is read as those records. -/
theorem records_sliced (f : Format) (key : KeyRule) (input : Bytes) (records : List Record)
    (parsed : f.parse key input = .ok records) (nonempty : records ≠ []) :
    Sliced f key input records := by
  refine ⟨parse_raw f key input records parsed nonempty,
    parse_ordinals f key input records parsed, ?_, ?_,
    fun picked chosen => parse_chosen f key input records picked parsed chosen⟩
  · intro r member
    exact (parsed_fits f key input records parsed r member).width
  · intro r member
    obtain ⟨ls, read, rfl⟩ := parse_tiles f key input records parsed
    have listed := List.mem_map_of_mem (f := fun r : Record => (r.raw, r.fields)) member
    rw [number_rows] at listed
    exact Reader.tile_one_line f input ls read _ listed

namespace Sample

def spaced : Bytes := [10, 120, 10, 32, 13, 10, 10, 121, 10, 32]

def apart : List Record :=
  [{ ordinal := 0, raw := [10, 120, 10, 32, 13, 10, 10], fields := [['x']], key := some ['x'] },
   { ordinal := 1, raw := [121, 10, 32], fields := [['y']], key := some ['y'] }]

end Sample

theorem sample_sliced :
    Sample.sparing.parse (.field 0) Sample.spaced = .ok Sample.apart ∧ Sample.apart ≠ [] ∧
      Sliced Sample.sparing (.field 0) Sample.spaced Sample.apart :=
  ⟨rfl, by decide, records_sliced Sample.sparing (.field 0) Sample.spaced Sample.apart rfl
    (by decide)⟩

end Courier
