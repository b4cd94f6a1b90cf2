import Courier.Proofs.General
import Courier.Record.Reader

set_option autoImplicit false

namespace Courier.Reader

def Line.raw : Line → Bytes
  | .blank raw => raw
  | .row raw _ => raw

theorem lines_feed (rest : Bytes) : lines (lineFeed :: rest) = [lineFeed] :: lines rest := by
  unfold lines
  rw [List.foldr_cons, if_pos (by simp)]

theorem lines_other (b : UInt8) (rest : Bytes) (other : b ≠ lineFeed) :
    lines (b :: rest) = (b :: (lines rest).headD []) :: (lines rest).tail := by
  unfold lines
  rw [List.foldr_cons, if_neg (by simpa using other)]
  split <;> simp_all

theorem lines_cons (b : UInt8) (rest : Bytes) :
    lines (b :: rest) = [b] :: lines rest ∨
      (lines rest = [] ∧ lines (b :: rest) = [[b]]) ∨
      ∃ l ls, lines rest = l :: ls ∧ lines (b :: rest) = (b :: l) :: ls := by
  by_cases feed : b = lineFeed
  · rw [feed]
    exact .inl (lines_feed rest)
  · right
    rw [lines_other b rest feed]
    cases lines rest with
    | nil => exact .inl ⟨rfl, rfl⟩
    | cons l ls => exact .inr ⟨l, ls, rfl, rfl⟩

theorem lines_flatten (input : Bytes) : (lines input).flatten = input := by
  induction input with
  | nil => rfl
  | cons b rest ih =>
    rcases lines_cons b rest with next | ⟨cut, next⟩ | ⟨l, ls, cut, next⟩
    · simp [next, ih]
    · rw [cut] at ih
      simpa [next] using ih
    · rw [cut] at ih
      simpa [next] using ih

theorem lines_nonempty (input : Bytes) : ∀ l ∈ lines input, l ≠ [] := by
  induction input with
  | nil => simp [lines]
  | cons b rest ih =>
    rcases lines_cons b rest with next | ⟨cut, next⟩ | ⟨l, ls, cut, next⟩
    · simpa [next] using ih
    · simp [next]
    · intro line member
      rw [cut] at ih
      rw [next] at member
      rcases List.mem_cons.mp member with rfl | later
      · exact List.cons_ne_nil b l
      · exact ih line (List.mem_cons_of_mem l later)

theorem read_line_raw (f : Format) (raw : Bytes) (line : Line) (read : readLine f raw = .ok line) :
    line.raw = raw := by
  unfold readLine at read
  split at read
  · cases read
  · dsimp only at read
    split at read
    · cases read
      rfl
    · split at read
      · cases read
      · split at read
        · cases read
          rfl
        · cases read

theorem read_lines_iff (f : Format) (input : Bytes) (ls : List Line) :
    readLines f input = .ok ls ↔
      List.Forall₂ (fun raw line => readLine f raw = .ok line) (lines input) ls := by
  apply mapM_numbered
  intro raw number line
  dsimp only
  cases readLine f raw with
  | error e => simp [Except.mapError]
  | ok read => simp [Except.mapError]

theorem read_lines_raw (f : Format) (input : Bytes) (ls : List Line)
    (read : readLines f input = .ok ls) : ls.map Line.raw = lines input := by
  rw [← List.forall₂_eq_eq_eq, List.forall₂_map_left_iff]
  apply List.Forall₂.flip
  exact ((read_lines_iff f input ls).mp read).imp fun raw line one => read_line_raw f raw line one

theorem attach_flatten (ls : List Line) :
    (attach ls).1 ++ ((attach ls).2.map Prod.fst).flatten = (ls.map Line.raw).flatten := by
  induction ls with
  | nil => rfl
  | cons line ls ih =>
    cases line with
    | blank raw =>
      change (raw ++ (attach ls).1) ++ ((attach ls).2.map Prod.fst).flatten = _
      rw [List.append_assoc, ih]
      rfl
    | row raw fields =>
      change (raw ++ (attach ls).1) ++ ((attach ls).2.map Prod.fst).flatten = _
      rw [List.append_assoc, ih]
      rfl

theorem attach_nonempty (ls : List Line) (nonempty : ∀ line ∈ ls, line.raw ≠ []) :
    ∀ row ∈ (attach ls).2, row.1 ≠ [] := by
  induction ls with
  | nil => simp [attach]
  | cons line ls ih =>
    have later := ih fun l member => nonempty l (List.mem_cons_of_mem line member)
    cases line with
    | blank raw => exact later
    | row raw fields =>
      intro row member
      rcases List.mem_cons.mp member with rfl | below
      · exact List.append_ne_nil_of_left_ne_nil (nonempty _ List.mem_cons_self) _
      · exact later row below

theorem tile_flatten (ls : List Line) (rows : tile ls ≠ []) :
    ((tile ls).map Prod.fst).flatten = (ls.map Line.raw).flatten := by
  rw [← attach_flatten ls]
  unfold tile at rows ⊢
  split at rows
  · exact absurd rfl rows
  · rename_i lead raw fields rest attached
    simp [attached]

theorem tile_nonempty (ls : List Line) (nonempty : ∀ line ∈ ls, line.raw ≠ []) :
    ∀ row ∈ tile ls, row.1 ≠ [] := by
  have attached := attach_nonempty ls nonempty
  unfold tile
  split
  · simp
  · rename_i lead raw fields rest found
    rw [found] at attached
    intro row member
    rcases List.mem_cons.mp member with rfl | later
    · exact List.append_ne_nil_of_right_ne_nil _ (attached (raw, fields) List.mem_cons_self)
    · exact attached row (List.mem_cons_of_mem _ later)

theorem number_raw (key : KeyRule) (rows : List (Bytes × List Text)) :
    (number key rows).map Record.raw = rows.map Prod.fst := by
  rw [number, List.map_map, ← List.zipIdx_map_fst 0 rows, List.map_map]
  simp [Function.comp_def, List.zipIdx_map_fst]

theorem number_ordinals (key : KeyRule) (rows : List (Bytes × List Text)) :
    (number key rows).map Record.ordinal = List.range rows.length := by
  rw [number, List.map_map, List.range_eq_range', ← List.zipIdx_map_snd 0 rows]
  rfl

end Courier.Reader

namespace Courier

theorem parse_tiles (f : Format) (key : KeyRule) (input : Bytes) (records : List Record)
    (parsed : f.parse key input = .ok records) :
    ∃ ls, Reader.readLines f input = .ok ls ∧ records = Reader.number key (Reader.tile ls) := by
  unfold Format.parse at parsed
  cases read : Reader.readLines f input with
  | error e =>
    rw [read] at parsed
    cases parsed
  | ok ls =>
    rw [read] at parsed
    cases parsed
    exact ⟨ls, rfl, rfl⟩

theorem parse_ordinals (f : Format) (key : KeyRule) (input : Bytes) (records : List Record)
    (parsed : f.parse key input = .ok records) :
    records.map Record.ordinal = List.range records.length := by
  obtain ⟨ls, _, rfl⟩ := parse_tiles f key input records parsed
  rw [Reader.number_ordinals]
  simp [Reader.number]

theorem parse_raw (f : Format) (key : KeyRule) (input : Bytes) (records : List Record)
    (parsed : f.parse key input = .ok records) (nonempty : records ≠ []) :
    (records.map Record.raw).flatten = input := by
  obtain ⟨ls, read, rfl⟩ := parse_tiles f key input records parsed
  have rows : Reader.tile ls ≠ [] := by
    intro empty
    simp [empty, Reader.number] at nonempty
  rw [Reader.number_raw, Reader.tile_flatten ls rows, Reader.read_lines_raw f input ls read,
    Reader.lines_flatten]

theorem flatten_length (parts : List Bytes) (nonempty : ∀ part ∈ parts, part ≠ []) :
    parts.length ≤ parts.flatten.length := by
  induction parts with
  | nil => exact Nat.le_refl 0
  | cons part parts ih =>
    have here := List.length_pos_iff.mpr (nonempty part List.mem_cons_self)
    have there := ih fun other member => nonempty other (List.mem_cons_of_mem part member)
    rw [List.flatten_cons, List.length_append, List.length_cons]
    omega

theorem parse_length (f : Format) (key : KeyRule) (input : Bytes) (records : List Record)
    (parsed : f.parse key input = .ok records) : records.length ≤ input.length := by
  by_cases empty : records = []
  · simp [empty]
  have whole := parse_raw f key input records parsed empty
  obtain ⟨ls, read, rfl⟩ := parse_tiles f key input records parsed
  have lines : ∀ line ∈ ls, line.raw ≠ [] := by
    intro line member
    apply Reader.lines_nonempty input
    rw [← Reader.read_lines_raw f input ls read]
    exact List.mem_map_of_mem member
  have owned := Reader.tile_nonempty ls lines
  have counted := flatten_length ((Reader.number key (Reader.tile ls)).map Record.raw) (by
    rw [Reader.number_raw]
    intro part member
    obtain ⟨row, listed, rfl⟩ := List.mem_map.mp member
    exact owned row listed)
  rw [whole] at counted
  simpa using counted

end Courier
