import Courier.Proofs.Tiling

set_option autoImplicit false

namespace Courier.Reader

def Ended (l : Bytes) : Prop := ∃ body, lineFeed ∉ body ∧ l = body ++ [lineFeed]

def Open (l : Bytes) : Prop := l ≠ [] ∧ lineFeed ∉ l

structure Lined (parts : List Bytes) : Prop where
  line : ∀ l ∈ parts, Ended l ∨ Open l
  ended : parts.Pairwise fun l _ => Ended l

theorem ended_single : Ended [lineFeed] := ⟨[], by simp, rfl⟩

theorem open_cons (b : UInt8) (l : Bytes) (other : b ≠ lineFeed) (whole : Open l) :
    Open (b :: l) := by
  refine ⟨List.cons_ne_nil b l, ?_⟩
  rw [List.mem_cons, not_or]
  exact ⟨other.symm, whole.2⟩

theorem ended_cons (b : UInt8) (l : Bytes) (other : b ≠ lineFeed) (ended : Ended l) :
    Ended (b :: l) := by
  obtain ⟨body, clean, rfl⟩ := ended
  refine ⟨b :: body, ?_, rfl⟩
  rw [List.mem_cons, not_or]
  exact ⟨other.symm, clean⟩

theorem lines_lined (input : Bytes) : Lined (lines input) := by
  induction input with
  | nil => exact ⟨by simp [lines], .nil⟩
  | cons b rest ih =>
    by_cases feed : b = lineFeed
    · subst feed
      rw [lines_feed]
      refine ⟨?_, .cons (fun _ _ => ended_single) ih.ended⟩
      intro l member
      rcases List.mem_cons.mp member with rfl | later
      · exact .inl ended_single
      · exact ih.line l later
    · rw [lines_other b rest feed]
      cases cut : lines rest with
      | nil =>
        refine ⟨?_, List.pairwise_singleton _ _⟩
        intro l member
        rw [List.mem_singleton.mp member]
        exact .inr ⟨by simp, by simpa using Ne.symm feed⟩
      | cons first later =>
        rw [cut] at ih
        obtain ⟨here, there⟩ := List.pairwise_cons.mp ih.ended
        refine ⟨?_, .cons (fun l member => ended_cons b first feed (here l member)) there⟩
        intro l member
        rcases List.mem_cons.mp member with rfl | member
        · rcases ih.line first List.mem_cons_self with ended | whole
          · exact .inl (ended_cons b first feed ended)
          · exact .inr (open_cons b first feed whole)
        · exact ih.line l (List.mem_cons_of_mem first member)

theorem lines_ended (l rest : Bytes) (ended : Ended l) : lines (l ++ rest) = l :: lines rest := by
  obtain ⟨body, clean, rfl⟩ := ended
  induction body with
  | nil => exact lines_feed rest
  | cons b body ih =>
    rw [List.mem_cons, not_or] at clean
    rw [List.cons_append, List.cons_append, lines_other b _ (Ne.symm clean.1), ih clean.2]
    rfl

theorem lines_open (l : Bytes) (whole : Open l) : lines l = [l] := by
  obtain ⟨nonempty, clean⟩ := whole
  induction l with
  | nil => exact absurd rfl nonempty
  | cons b l ih =>
    rw [List.mem_cons, not_or] at clean
    rw [lines_other b l (Ne.symm clean.1)]
    cases l with
    | nil => rfl
    | cons c l =>
      rw [ih (List.cons_ne_nil c l) clean.2]
      rfl

theorem lines_again (parts : List Bytes) (lined : Lined parts) : lines parts.flatten = parts := by
  induction parts with
  | nil => rfl
  | cons l parts ih =>
    obtain ⟨here, there⟩ := List.pairwise_cons.mp lined.ended
    have later := ih ⟨fun other member => lined.line other (List.mem_cons_of_mem l member), there⟩
    rw [List.flatten_cons]
    rcases lined.line l List.mem_cons_self with ended | whole
    · rw [lines_ended l _ ended, later]
    · cases parts with
      | nil =>
        rw [List.flatten_nil, List.append_nil, lines_open l whole]
      | cons next parts => rw [lines_ended l _ (here next List.mem_cons_self), later]

theorem lined_sublist (picked parts : List Bytes) (chosen : picked.Sublist parts)
    (lined : Lined parts) : Lined picked :=
  ⟨fun l member => lined.line l (chosen.subset member), lined.ended.sublist chosen⟩

theorem lined_ended (parts : List Bytes) (ended : ∀ l ∈ parts, Ended l) : Lined parts :=
  ⟨fun l member => .inl (ended l member), List.pairwise_of_forall_mem_list fun l here _ _ =>
    ended l here⟩

theorem read_line_row (f : Format) (raw kept : Bytes) (fields : List Text) :
    readLine f raw = .ok (.row kept fields) ↔ kept = raw ∧ ∃ text, Utf8.decode raw = .ok text ∧
      Text.allBlank (body text) = false ∧
      Fields.split? f.delimiter f.trimFields (body text) = some fields ∧
      fields.length = f.width := by
  unfold readLine
  cases Utf8.decode raw with
  | error e => simp
  | ok text =>
    simp only [Except.ok.injEq, exists_eq_left']
    cases Text.allBlank (body text) with
    | true => simp
    | false =>
      cases Fields.split? f.delimiter f.trimFields (body text) with
      | none => simp
      | some found =>
        by_cases wide : found.length = f.width
        · simp only [if_pos wide, Bool.false_eq_true, if_false, Except.ok.injEq, Line.row.injEq,
            Option.some_inj, true_and]
          constructor
          · rintro ⟨rfl, rfl⟩
            exact ⟨rfl, rfl, wide⟩
          · rintro ⟨rfl, rfl, _⟩
            exact ⟨rfl, rfl⟩
        · simp only [if_neg wide, Bool.false_eq_true, if_false, reduceCtorEq, Option.some_inj,
            true_and, false_iff, not_and]
          rintro _ rfl
          exact wide

theorem read_lines_again (f : Format) (ls : List Line) (lined : Lined (ls.map Line.raw))
    (read : ∀ line ∈ ls, readLine f line.raw = .ok line) :
    readLines f (ls.map Line.raw).flatten = .ok ls := by
  rw [read_lines_iff, lines_again _ lined, List.forall₂_map_left_iff, List.forall₂_same]
  exact read

theorem read_lines_each (f : Format) (input : Bytes) (ls : List Line)
    (read : readLines f input = .ok ls) :
    Lined (ls.map Line.raw) ∧ ∀ line ∈ ls, readLine f line.raw = .ok line := by
  have raws := read_lines_raw f input ls read
  have each := (read_lines_iff f input ls).mp read
  rw [← raws, List.forall₂_map_left_iff, List.forall₂_same] at each
  rw [raws]
  exact ⟨lines_lined input, each⟩

def Line.isBlank : Line → Bool
  | .blank _ => true
  | .row _ _ => false

theorem attach_blank (raw : Bytes) (ls : List Line) :
    attach (.blank raw :: ls) = (raw ++ (attach ls).1, (attach ls).2) := rfl

theorem attach_row (raw : Bytes) (fields : List Text) (ls : List Line) :
    attach (.row raw fields :: ls) = ([], (raw ++ (attach ls).1, fields) :: (attach ls).2) := rfl

theorem attach_drop (ls : List Line) :
    attach (ls.dropWhile Line.isBlank) = ([], (attach ls).2) := by
  induction ls with
  | nil => rfl
  | cons line ls ih =>
    cases line with
    | blank raw =>
      rw [List.dropWhile_cons_of_pos rfl, ih]
      rfl
    | row raw fields =>
      rw [List.dropWhile_cons_of_neg (by simp [Line.isBlank])]
      rfl

theorem attach_chosen (ls : List Line) (rows : List (Bytes × List Text))
    (chosen : rows.Sublist (attach ls).2) :
    ∃ picked, picked.Sublist ls ∧ attach picked = ((attach ls).1, rows) := by
  induction ls generalizing rows with
  | nil =>
    cases chosen
    exact ⟨[], .slnil, rfl⟩
  | cons line ls ih =>
    cases line with
    | blank raw =>
      obtain ⟨picked, below, attached⟩ := ih rows chosen
      refine ⟨.blank raw :: picked, below.cons_cons _, ?_⟩
      rw [attach_blank, attach_blank, attached]
    | row raw fields =>
      rw [attach_row] at chosen
      rw [attach_row]
      cases chosen with
      | cons _ chosen =>
        obtain ⟨picked, below, attached⟩ := ih rows chosen
        refine ⟨picked.dropWhile Line.isBlank,
          ((List.dropWhile_sublist _).trans below).cons _, ?_⟩
        rw [attach_drop, attached]
      | cons_cons _ chosen =>
        obtain ⟨picked, below, attached⟩ := ih _ chosen
        refine ⟨.row raw fields :: picked, below.cons_cons _, ?_⟩
        rw [attach_row, attached]

theorem tile_chosen (ls : List Line) (rows : List (Bytes × List Text))
    (chosen : rows.Sublist (tile ls)) : ∃ picked, picked.Sublist ls ∧ tile picked = rows := by
  unfold tile at chosen
  split at chosen
  · cases chosen
    exact ⟨[], List.nil_sublist ls, rfl⟩
  · rename_i lead raw fields later attached
    cases chosen with
    | cons _ chosen =>
      obtain ⟨picked, below, found⟩ := attach_chosen ls rows (by
        rw [attached]
        exact chosen.cons _)
      refine ⟨picked.dropWhile Line.isBlank, (List.dropWhile_sublist _).trans below, ?_⟩
      rw [tile, attach_drop, found]
      cases rows with
      | nil => rfl
      | cons row rows => rfl
    | @cons_cons kept _ _ chosen =>
      obtain ⟨picked, below, found⟩ := attach_chosen ls ((raw, fields) :: kept) (by
        rw [attached]
        exact chosen.cons_cons _)
      refine ⟨picked, below, ?_⟩
      rw [tile, found, attached]

theorem attach_listed (ls : List Line) :
    ∀ row ∈ (attach ls).2, ∃ raw, Line.row raw row.2 ∈ ls := by
  induction ls with
  | nil => simp [attach]
  | cons line ls ih =>
    have later : ∀ row ∈ (attach ls).2, ∃ raw, Line.row raw row.2 ∈ line :: ls := by
      intro row member
      obtain ⟨raw, listed⟩ := ih row member
      exact ⟨raw, List.mem_cons_of_mem line listed⟩
    cases line with
    | blank raw => exact later
    | row raw fields =>
      intro row member
      rcases List.mem_cons.mp member with rfl | below
      · exact ⟨raw, List.mem_cons_self⟩
      · exact later row below

theorem tile_listed (ls : List Line) : ∀ row ∈ tile ls, ∃ raw, Line.row raw row.2 ∈ ls := by
  have listed := attach_listed ls
  unfold tile
  split
  · simp
  · rename_i lead raw fields rest found
    rw [found] at listed
    intro row member
    rcases List.mem_cons.mp member with rfl | later
    · exact listed (raw, fields) List.mem_cons_self
    · exact listed row (List.mem_cons_of_mem _ later)

theorem attach_rows (rows : List (Bytes × List Text)) :
    attach (rows.map fun row => .row row.1 row.2) = ([], rows) := by
  induction rows with
  | nil => rfl
  | cons row rows ih =>
    rw [List.map_cons, attach_row, ih, List.append_nil]

theorem tile_rows (rows : List (Bytes × List Text)) :
    tile (rows.map fun row => .row row.1 row.2) = rows := by
  rw [tile, attach_rows]
  cases rows with
  | nil => rfl
  | cons row rows => rfl

end Courier.Reader

namespace Courier

def renumbered (records : List Record) : List Record :=
  records.zipIdx.map fun (r, ordinal) => { r with ordinal }

theorem number_keys (key : KeyRule) (rows : List (Bytes × List Text)) :
    ∀ r ∈ Reader.number key rows, r.key = key.extract r.fields := by
  intro r member
  obtain ⟨row, _, rfl⟩ := List.mem_map.mp member
  rfl

theorem number_rows (key : KeyRule) (rows : List (Bytes × List Text)) :
    (Reader.number key rows).map (fun r => (r.raw, r.fields)) = rows := by
  rw [Reader.number, List.map_map]
  exact List.zipIdx_map_fst 0 rows

theorem number_renumbered (key : KeyRule) (records : List Record)
    (keys : ∀ r ∈ records, r.key = key.extract r.fields) :
    Reader.number key (records.map fun r => (r.raw, r.fields)) = renumbered records := by
  rw [Reader.number, renumbered, List.zipIdx_map, List.map_map]
  apply List.map_congr_left
  rintro ⟨r, ordinal⟩ member
  have same := keys r (List.fst_mem_of_mem_zipIdx member)
  simp [← same]

theorem parse_keys (f : Format) (key : KeyRule) (input : Bytes) (records : List Record)
    (parsed : f.parse key input = .ok records) :
    ∀ r ∈ records, r.key = key.extract r.fields := by
  obtain ⟨ls, _, rfl⟩ := parse_tiles f key input records parsed
  exact number_keys key _

theorem parse_nothing (f : Format) (key : KeyRule) : f.parse key [] = .ok [] := rfl

theorem parse_listed (f : Format) (key : KeyRule) (input : Bytes) (records : List Record)
    (parsed : f.parse key input = .ok records) :
    ∀ r ∈ records, ∃ raw ∈ Reader.lines input,
      Reader.readLine f raw = .ok (.row raw r.fields) := by
  obtain ⟨ls, read, rfl⟩ := parse_tiles f key input records parsed
  obtain ⟨_, each⟩ := Reader.read_lines_each f input ls read
  intro r member
  have rows := List.mem_map_of_mem (f := fun r : Record => (r.raw, r.fields)) member
  rw [number_rows] at rows
  obtain ⟨raw, listed⟩ := Reader.tile_listed ls _ rows
  refine ⟨raw, ?_, each _ listed⟩
  rw [← Reader.read_lines_raw f input ls read]
  exact List.mem_map_of_mem (f := Reader.Line.raw) listed

theorem parse_chosen (f : Format) (key : KeyRule) (input : Bytes) (records picked : List Record)
    (parsed : f.parse key input = .ok records) (chosen : picked.Sublist records) :
    f.parse key (picked.map Record.raw).flatten = .ok (renumbered picked) := by
  have keys := parse_keys f key input records parsed
  obtain ⟨ls, read, rfl⟩ := parse_tiles f key input records parsed
  obtain ⟨lined, each⟩ := Reader.read_lines_each f input ls read
  have rows := chosen.map fun r => (r.raw, r.fields)
  rw [number_rows] at rows
  obtain ⟨fewer, below, tiled⟩ := Reader.tile_chosen ls _ rows
  rw [← number_renumbered key picked fun r member => keys r (chosen.subset member), ← tiled]
  by_cases empty : Reader.tile fewer = []
  · have nothing : picked = [] := by simpa [empty] using tiled.symm
    rw [nothing, empty]
    exact parse_nothing f key
  · have whole := Reader.tile_flatten fewer empty
    rw [tiled, List.map_map] at whole
    have raws : (picked.map Record.raw).flatten = (fewer.map Reader.Line.raw).flatten := whole
    rw [raws, Format.parse, Reader.read_lines_again f fewer
      (Reader.lined_sublist _ _ (below.map Reader.Line.raw) lined)
      fun line member => each line (below.subset member)]
    rfl

theorem parse_rows (f : Format) (key : KeyRule) (rows : List (Bytes × List Text))
    (ended : ∀ row ∈ rows, Reader.Ended row.1)
    (read : ∀ row ∈ rows, Reader.readLine f row.1 = .ok (.row row.1 row.2)) :
    f.parse key (rows.map Prod.fst).flatten = .ok (Reader.number key rows) := by
  have raws : (rows.map fun row => Reader.Line.row row.1 row.2).map Reader.Line.raw =
      rows.map Prod.fst := by
    rw [List.map_map]
    rfl
  have again := Reader.read_lines_again f (rows.map fun row => .row row.1 row.2) (by
    rw [raws]
    apply Reader.lined_ended
    intro l member
    obtain ⟨row, listed, rfl⟩ := List.mem_map.mp member
    exact ended row listed) (by
    intro line member
    obtain ⟨row, listed, rfl⟩ := List.mem_map.mp member
    exact read row listed)
  rw [raws] at again
  rw [Format.parse, again, ← Reader.tile_rows rows]
  simp [Except.map, Reader.tile_rows]

end Courier
