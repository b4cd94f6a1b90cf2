import Courier.Files.Path

set_option autoImplicit false

namespace Courier.Files

theorem parts_filled (path : Bytes) : parts path ≠ [] := by
  cases path with
  | nil => exact List.cons_ne_nil _ _
  | cons b rest =>
    rw [parts]
    split
    · exact List.cons_ne_nil _ _
    · split
      · exact List.cons_ne_nil _ _
      · exact List.cons_ne_nil _ _

theorem parts_cons (b : UInt8) (rest part : Bytes) (more : List Bytes) (other : b ≠ slash)
    (cut : parts rest = part :: more) : parts (b :: rest) = (b :: part) :: more := by
  rw [parts, if_neg (by simpa using other), cut]

theorem parts_slash (rest : Bytes) : parts (slash :: rest) = [] :: parts rest := by
  rw [parts, if_pos (by simp)]

theorem parts_apart (path part : Bytes) (member : part ∈ parts path) : slash ∉ part := by
  induction path generalizing part with
  | nil =>
    rw [List.mem_singleton.mp member]
    exact List.not_mem_nil
  | cons b rest ih =>
    by_cases bar : b = slash
    · rw [bar, parts_slash] at member
      rcases List.mem_cons.mp member with rfl | later
      · exact List.not_mem_nil
      · exact ih part later
    · obtain ⟨first, more, cut⟩ := List.exists_cons_of_ne_nil (parts_filled rest)
      rw [parts_cons b rest first more bar cut] at member
      rw [cut] at ih
      rcases List.mem_cons.mp member with rfl | later
      · exact List.not_mem_cons_of_ne_of_not_mem (Ne.symm bar) (ih first List.mem_cons_self)
      · exact ih part (List.mem_cons_of_mem _ later)

theorem parts_between (a b : Bytes) : parts (a ++ slash :: b) = parts a ++ parts b := by
  induction a with
  | nil => exact parts_slash b
  | cons c a ih =>
    by_cases bar : c = slash
    · rw [bar, List.cons_append, parts_slash, parts_slash, ih, List.cons_append]
    · obtain ⟨first, more, cut⟩ := List.exists_cons_of_ne_nil (parts_filled a)
      rw [cut, List.cons_append] at ih
      rw [List.cons_append, parts_cons c _ first _ bar ih, parts_cons c a first more bar cut,
        List.cons_append]

theorem parts_single (n : Bytes) (apart : slash ∉ n) : parts n = [n] := by
  induction n with
  | nil => rfl
  | cons b n ih =>
    obtain ⟨other, rest⟩ := List.ne_and_not_mem_of_not_mem_cons apart
    exact parts_cons b n n [] (Ne.symm other) (ih rest)

theorem steps_apart (path n : Bytes) (member : n ∈ steps path) :
    slash ∉ n ∧ n ≠ [] ∧ n ≠ [dot] := by
  obtain ⟨part, step⟩ := List.mem_filter.mp member
  rw [Bool.and_eq_true, bne_iff_ne, bne_iff_ne] at step
  exact ⟨parts_apart path n part, step⟩

structure Segment (n : Bytes) : Prop where
  apart : slash ∉ n
  filled : n ≠ []
  away : n ≠ [dot] ∧ n ≠ up

def way (path : Bytes) : List Bytes := (parts path).filter (· != [])

theorem way_slash (a b : Bytes) : way (a ++ slash :: b) = way a ++ way b := by
  rw [way, parts_between, List.filter_append]
  rfl

theorem way_segment (n : Bytes) (segment : Segment n) : way n = [n] := by
  rw [way, parts_single n segment.apart, List.filter_cons_of_pos (by simpa using segment.filled)]
  rfl

theorem relative_segment (n : Bytes) (segment : Segment n) : isAbsolute n = false := by
  cases n with
  | nil => rfl
  | cons b n =>
    have other : b ≠ slash := fun same => segment.apart (same ▸ List.mem_cons_self)
    simpa [isAbsolute] using other

theorem way_join (directory n : Bytes) (segment : Segment n) :
    way (join directory n) = way directory ++ [n] := by
  rw [join, relative_segment n segment, Bool.false_or]
  split
  · rename_i empty
    rw [List.isEmpty_iff.mp empty, way_segment n segment]
    rfl
  · split
    · rename_i closed
      obtain ⟨before, rfl⟩ := List.getLast?_eq_some_iff.mp (beq_iff_eq.mp closed)
      have ended : way (before ++ [slash]) = way before := by
        rw [way_slash]
        exact List.append_nil _
      rw [List.append_assoc, List.singleton_append, way_slash, ended, way_segment n segment]
    · rw [way_slash, way_segment n segment]

theorem absolute_join (directory n : Bytes) (segment : Segment n) :
    isAbsolute (join directory n) = isAbsolute directory := by
  rw [join, relative_segment n segment, Bool.false_or]
  split
  · rename_i empty
    rw [List.isEmpty_iff.mp empty, relative_segment n segment]
    rfl
  · rename_i filled
    obtain ⟨b, rest, rfl⟩ := List.exists_cons_of_ne_nil (mt List.isEmpty_iff.mpr filled)
    split
    · rfl
    · rfl

theorem last_join (directory n : Bytes) (segment : Segment n) :
    (join directory n).getLast? ≠ some slash := by
  have last : (join directory n).getLast? = n.getLast? := by
    obtain ⟨b, rest, rfl⟩ := List.exists_cons_of_ne_nil segment.filled
    rw [join]
    split
    · rfl
    · split
      · simp [List.getLast?_append, List.getLast?_cons]
      · simp [List.getLast?_append, List.getLast?_cons]
  rw [last]
  intro closed
  exact segment.apart (List.mem_of_getLast? closed)

end Courier.Files
