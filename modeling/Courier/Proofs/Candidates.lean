import Courier.Fault
import Courier.Proofs.Naming
import Mathlib.Data.Nat.ModEq
import Mathlib.Order.Bounds.Basic

set_option autoImplicit false

/- The search for the name of an input: its file name is tried first, then the file name with its
   place in front, and with that place moved on by the number of inputs, again and again. The names
   that are tried differ, so at most as many of them are taken as there are names taken at all, and
   the search ends with the least number that makes a new name. -/
namespace Courier.Files

def candidate (stride k : Nat) (file : Text) : Nat → Text
  | 0 => file
  | retries + 1 => numbered (k + retries * stride) file

theorem numbered_longer (k : Nat) (name : Text) : name.length < (numbered k name).length := by
  rw [numbered, List.length_append, List.length_cons]
  omega

theorem candidate_injective (stride : Nat) (positive : 0 < stride) (k : Nat) (file : Text) :
    Function.Injective (candidate stride k file) := by
  have apart (k' : Nat) : numbered k' file ≠ file := by
    intro same
    have longer := numbered_longer k' file
    rw [same] at longer
    exact Nat.lt_irrefl _ longer
  intro i j same
  cases i with
  | zero =>
    cases j with
    | zero => rfl
    | succ j => exact absurd same.symm (apart _)
  | succ i =>
    cases j with
    | zero => exact absurd same (apart _)
    | succ j => exact congrArg (· + 1) (strides_injective stride positive file k same)

theorem free_name_candidate (taken : List Text) (stride : Nat) (positive : 0 < stride) (k : Nat)
    (file : Text) : ∃ retries ≤ taken.length,
      freeName taken stride k file = candidate stride k file retries ∧
        candidate stride k file retries ∉ taken ∧
        ∀ i < retries, candidate stride k file i ∈ taken := by
  by_cases held : file ∈ taken
  · obtain ⟨j, _, found, before, _⟩ := first_free_found taken stride file taken.length k
    have free := first_free_new taken stride positive file k
    have passed : ∀ i < j + 1, candidate stride k file i ∈ taken := by
      intro i early
      cases i with
      | zero => exact held
      | succ i => exact before i (Nat.lt_of_succ_lt_succ early)
    rw [found] at free
    refine ⟨j + 1, tried_taken taken _ (candidate_injective stride positive k file) _ passed, ?_,
      free, passed⟩
    rw [freeName, if_pos (List.contains_iff_mem.mpr held), found]
    rfl
  · refine ⟨0, Nat.zero_le _, ?_, held, by simp⟩
    rw [freeName, if_neg (by simpa using held)]
    rfl

-- The search as it goes: a name that is not taken ends it, any other is given up for the next
-- numbered one. It says how many retries it took and what it found.
inductive Search (taken : List Text) (stride : Nat) (file : Text) :
    (tried : Text) → (next retries : Nat) → (found : Text) → Prop
  | free (tried : Text) (next : Nat) (new : tried ∉ taken) :
      Search taken stride file tried next 0 tried
  | retry (tried : Text) (next retries : Nat) (found : Text) (held : tried ∈ taken)
      (later : Search taken stride file (numbered next file) (next + stride) retries found) :
      Search taken stride file tried next (retries + 1) found

theorem search_candidates (taken : List Text) (stride k : Nat) (file : Text) (retries i : Nat)
    (new : candidate stride k file (i + retries) ∉ taken)
    (passed : ∀ j < i + retries, candidate stride k file j ∈ taken) :
    Search taken stride file (candidate stride k file i) (k + i * stride) retries
      (candidate stride k file (i + retries)) := by
  induction retries generalizing i with
  | zero => exact .free _ _ new
  | succ retries ih =>
    have shift : i + (retries + 1) = i + 1 + retries := by omega
    rw [shift] at new passed ⊢
    have later := ih (i + 1) new passed
    rw [Nat.succ_mul, ← Nat.add_assoc] at later
    exact .retry _ _ _ _ (passed i (by omega)) later

theorem candidate_least (taken : List Text) (stride k : Nat) (file : Text) (retries : Nat)
    (new : candidate stride k file (retries + 1) ∉ taken)
    (passed : ∀ i < retries + 1, candidate stride k file i ∈ taken) :
    IsLeast {n | k ≤ n ∧ n ≡ k [MOD stride] ∧ numbered n file ∉ taken} (k + retries * stride) := by
  refine ⟨⟨Nat.le_add_right _ _, ?_, new⟩, ?_⟩
  · exact (Nat.modEq_iff_dvd' (Nat.le_add_right _ _)).mpr (by simp) |>.symm
  · rintro n ⟨above, congruent, free⟩
    obtain ⟨m, steps⟩ := (Nat.modEq_iff_dvd' above).mp congruent.symm
    have place : n = k + m * stride := by
      rw [Nat.mul_comm]
      omega
    rw [place] at free ⊢
    by_cases early : m < retries
    · exact absurd (passed (m + 1) (Nat.succ_lt_succ early)) free
    · exact Nat.add_le_add_left (Nat.mul_le_mul_right _ (Nat.le_of_not_lt early)) k

theorem names_found (count : Nat) (taken : List Text) (k : Nat) (paths : List Bytes)
    (names : List Text) (named : namesFrom count taken k paths = .ok names) (i : Nat) (path : Bytes)
    (found : paths[i]? = some path) :
    ∃ file, nameOf path = .ok file ∧
      names[i]? = some (freeName ((names.take i).reverse ++ taken) count (k + i) file) := by
  induction paths generalizing taken k names i with
  | nil => simp at found
  | cons first paths ih =>
    obtain ⟨name, rest, own, others, rfl⟩ := names_cons count taken k first paths names named
    cases i with
    | zero =>
      cases found
      exact ⟨name, own, rfl⟩
    | succ i =>
      obtain ⟨file, read, given⟩ := ih _ _ rest others i found
      refine ⟨file, read, ?_⟩
      rw [List.getElem?_cons_succ, given, List.take_succ_cons, List.reverse_cons,
        List.append_assoc, List.singleton_append, Nat.add_assoc, Nat.add_comm 1 i]

-- The name that an input of some file name gets at its place among so many inputs, after the names
-- of the inputs before it.
structure Chosen (count place : Nat) (before : List Text) (file name : Text) : Prop where
  searched : ∃ retries ≤ before.length, Search before count file file place retries name
  own : file ∉ before → name = file
  numbered : file ∈ before → ∃ k, name = numbered k file ∧
    IsLeast {n | place ≤ n ∧ n ≡ place [MOD count] ∧ Files.numbered n file ∉ before} k

theorem free_name_chosen (before : List Text) (count : Nat) (positive : 0 < count) (place : Nat)
    (file : Text) : Chosen count place before file (freeName before.reverse count place file) := by
  obtain ⟨retries, within, found, new, passed⟩ :=
    free_name_candidate before.reverse count positive place file
  simp only [List.mem_reverse, List.length_reverse] at within new passed
  rw [found]
  refine ⟨⟨retries, within, ?_⟩, ?_, ?_⟩
  · have search := search_candidates before count place file retries 0
    simp only [Nat.zero_add, Nat.zero_mul, Nat.add_zero] at search
    exact search new passed
  · intro free
    cases retries with
    | zero => rfl
    | succ retries => exact absurd (passed 0 (Nat.succ_pos _)) free
  · intro held
    cases retries with
    | zero => exact absurd held new
    | succ retries => exact ⟨_, rfl, candidate_least before count place file retries new passed⟩

-- Names for inputs: one for each, no two alike, each the one that the search finds for its input
-- among those given before.
structure Searched (paths : List Bytes) (names : List Text) : Prop where
  length : names.length = paths.length
  distinct : names.Nodup
  chosen : ∀ i path, paths[i]? = some path → ∃ file name, nameOf path = .ok file ∧
    names[i]? = some name ∧ Chosen paths.length i (names.take i) file name

theorem artifact_names_chosen (paths : List Bytes) (names : List Text)
    (named : artifactNames paths = .ok names) : Searched paths names := by
  have given := artifact_names_given paths names named
  refine ⟨given.length, given.distinct, fun i path found => ?_⟩
  have positive : 0 < paths.length := by
    obtain ⟨inside, _⟩ := List.getElem?_eq_some_iff.mp found
    omega
  obtain ⟨file, read, found⟩ := names_found paths.length [] 0 paths names named i path found
  rw [List.append_nil, Nat.zero_add] at found
  exact ⟨file, _, read, found, free_name_chosen (names.take i) paths.length positive i file⟩

/-- Names are refused exactly when some path has no file name; otherwise every search ends, and with
the least number that will do. -/
theorem artifact_names_searched (paths : List Bytes) :
    ((∃ fault : Fault, (artifactNames paths).mapError .nameless = .error fault ∧
        fault.kind = .config) ↔ ∃ path ∈ paths, name? path = none) ∧
      ((∀ path ∈ paths, name? path ≠ none) →
        ∃ names, artifactNames paths = .ok names ∧ Searched paths names) := by
  cases named : artifactNames paths with
  | error fault =>
    obtain ⟨before, path, after, same, _, nameless, _⟩ := names_stop _ [] 0 paths fault named
    have member : path ∈ paths := by
      rw [same]
      exact List.mem_append_right _ List.mem_cons_self
    exact ⟨⟨fun _ => ⟨path, member, nameless⟩, fun _ => ⟨_, rfl, rfl⟩⟩,
      fun all => absurd nameless (all path member)⟩
  | ok names =>
    have all := names_named _ [] 0 paths names named
    refine ⟨⟨?_, ?_⟩, fun _ => ⟨names, rfl, artifact_names_chosen paths names named⟩⟩
    · rintro ⟨fault, failed, _⟩
      cases failed
    · rintro ⟨path, member, nameless⟩
      exact absurd nameless (all path member)

namespace Sample

def alike : List Bytes :=
  ["2-a", "a", "x/a", "y/6-a"].map fun path => Utf8.encode path.toList

end Sample

example : artifactNames Sample.alike = .ok (["2-a", "a", "6-a", "3-6-a"].map String.toList) := by
  decide

theorem sample_searched :
    (∀ path ∈ Sample.alike, name? path ≠ none) ∧
      ∃ names, artifactNames Sample.alike = .ok names ∧ Searched Sample.alike names :=
  ⟨by decide, (artifact_names_searched Sample.alike).2 (by decide)⟩

end Courier.Files
