import Courier.Files.Names
import Courier.Proofs.Numerals
import Courier.Proofs.Octets
import Courier.Proofs.Paths
import Mathlib.Data.List.Nodup
import Mathlib.Data.List.Perm.Subperm

set_option autoImplicit false

namespace Courier.Files

structure Plain (t : Text) : Prop where
  filled : t ≠ []
  whole : '/' ∉ t
  entry : t ≠ ['.'] ∧ t ≠ ['.', '.']

theorem digits_plain (k : Nat) : '/' ∉ Decimal.write k := by
  intro member
  have digit := Nat.isDigit_of_mem_toDigits (by decide) (by decide) member
  exact absurd digit (by decide)

theorem numbered_plain (k : Nat) (name : Text) (plain : Plain name) : Plain (numbered k name) := by
  have dash : '-' ∈ numbered k name := List.mem_append_right _ List.mem_cons_self
  refine ⟨List.ne_nil_of_mem dash, ?_, ?_, ?_⟩
  · intro member
    rcases List.mem_append.mp member with number | rest
    · exact digits_plain k number
    · rcases List.mem_cons.mp rest with dash | later
      · exact absurd dash (by decide)
      · exact plain.whole later
  · intro same
    rw [same] at dash
    exact absurd dash (by decide)
  · intro same
    rw [same] at dash
    exact absurd dash (by decide)

theorem numbered_injective (name : Text) : Function.Injective fun k => numbered k name := by
  intro k l same
  have digits := congrArg Decimal.nat? (List.append_cancel_right same)
  rw [Decimal.nat_write, Decimal.nat_write] at digits
  exact Option.some.inj digits

theorem first_free_found (taken : List Text) (stride : Nat) (name : Text) (tries k : Nat) :
    ∃ j ≤ tries, firstFree taken stride name tries k = numbered (k + j * stride) name ∧
      (∀ i < j, numbered (k + i * stride) name ∈ taken) ∧
      (j = tries ∨ numbered (k + j * stride) name ∉ taken) := by
  induction tries generalizing k with
  | zero => exact ⟨0, Nat.le_refl 0, by simp [firstFree], by simp, .inl rfl⟩
  | succ tries ih =>
    by_cases held : numbered k name ∈ taken
    · obtain ⟨j, within, found, before, stop⟩ := ih (k + stride)
      have shift (i : Nat) : k + stride + i * stride = k + (i + 1) * stride := by
        rw [Nat.succ_mul]
        omega
      rw [shift] at found stop
      refine ⟨j + 1, Nat.succ_le_succ within, ?_, ?_, ?_⟩
      · rw [firstFree, if_pos (List.contains_iff_mem.mpr held), found]
      · intro i early
        cases i with
        | zero => simpa using held
        | succ i =>
          have passed := before i (Nat.lt_of_succ_lt_succ early)
          rw [shift] at passed
          exact passed
      · exact stop.imp_left (congrArg (· + 1))
    · refine ⟨0, Nat.zero_le _, ?_, by simp, .inr (by simpa using held)⟩
      rw [firstFree, if_neg (by simpa using held)]
      simp

theorem tried_taken (taken : List Text) (tried : Nat → Text) (distinct : Function.Injective tried)
    (n : Nat) (all : ∀ i < n, tried i ∈ taken) : n ≤ taken.length := by
  have once : ((List.range n).map tried).Nodup := List.nodup_range.map distinct
  have among : (List.range n).map tried ⊆ taken := by
    intro t member
    obtain ⟨i, inside, rfl⟩ := List.mem_map.mp member
    exact all i (List.mem_range.mp inside)
  simpa using (List.subperm_of_subset once among).length_le

theorem strides_injective (stride : Nat) (positive : 0 < stride) (name : Text) (k : Nat) :
    Function.Injective fun i => numbered (k + i * stride) name := by
  intro i j same
  have places := numbered_injective name same
  exact Nat.eq_of_mul_eq_mul_right positive (Nat.add_left_cancel places)

theorem first_free_new (taken : List Text) (stride : Nat) (positive : 0 < stride) (name : Text)
    (k : Nat) : firstFree taken stride name taken.length k ∉ taken := by
  obtain ⟨j, within, found, before, stop⟩ := first_free_found taken stride name taken.length k
  rw [found]
  rcases stop with rfl | free
  · intro held
    have room := tried_taken taken _ (strides_injective stride positive name k)
      (taken.length + 1) (by
        intro i early
        rcases Nat.lt_succ_iff_lt_or_eq.mp early with sooner | rfl
        · exact before i sooner
        · exact held)
    exact absurd room (Nat.not_succ_le_self _)
  · exact free

theorem free_name_new (taken : List Text) (stride : Nat) (positive : 0 < stride) (k : Nat)
    (name : Text) : freeName taken stride k name ∉ taken := by
  rw [freeName]
  split
  · exact first_free_new taken stride positive name k
  · rename_i free
    simpa using free

theorem free_name_plain (taken : List Text) (stride k : Nat) (name : Text) (plain : Plain name) :
    Plain (freeName taken stride k name) := by
  rw [freeName]
  split
  · obtain ⟨j, _, found, _⟩ := first_free_found taken stride name taken.length k
    rw [found]
    exact numbered_plain _ name plain
  · exact plain

theorem name_of_plain (path : Bytes) (name : Text) (named : nameOf path = .ok name) :
    Plain name := by
  rw [nameOf, name?] at named
  cases last : (steps path).getLast?.filter (· != up) with
  | none =>
    rw [last] at named
    cases named
  | some n =>
    rw [last] at named
    cases named
    obtain ⟨final, other⟩ := Option.filter_eq_some_iff.mp last
    obtain ⟨apart, filled, single⟩ := steps_apart path n (List.mem_of_getLast? final)
    have plain (t : Text) (lossy : Utf8.lossy n = t) (faultless : '\uFFFD' ∉ t) :
        Utf8.encode t = n := by
      rw [← lossy] at faultless ⊢
      exact Utf8.encode_lossy n faultless
    refine ⟨?_, ?_, ?_, ?_⟩
    · rw [ne_eq, Utf8.lossy_empty]
      exact filled
    · intro member
      exact apart (Utf8.lossy_ascii n '/' (by decide) member)
    · intro same
      exact single (plain _ same (by decide)).symm
    · intro same
      rw [← plain _ same (by decide)] at other
      exact absurd other (by decide)

structure Given (taken : List Text) (paths : List Bytes) (names : List Text) : Prop where
  length : names.length = paths.length
  distinct : names.Nodup
  fresh : ∀ name ∈ names, name ∉ taken
  plain : ∀ name ∈ names, Plain name

theorem names_cons (count : Nat) (taken : List Text) (k : Nat) (path : Bytes) (paths : List Bytes)
    (names : List Text) (named : namesFrom count taken k (path :: paths) = .ok names) :
    ∃ name rest, nameOf path = .ok name ∧
      namesFrom count (freeName taken count k name :: taken) (k + 1) paths = .ok rest ∧
      names = freeName taken count k name :: rest := by
  rw [namesFrom] at named
  cases own : nameOf path with
  | error fault =>
    rw [own] at named
    cases named
  | ok name =>
    rw [own] at named
    cases others : namesFrom count (freeName taken count k name :: taken) (k + 1) paths with
    | error fault =>
      simp only [bind, Except.bind, others] at named
      cases named
    | ok rest =>
      simp only [bind, Except.bind, others, pure, Except.pure] at named
      cases named
      exact ⟨name, rest, rfl, others, rfl⟩

theorem names_given (count : Nat) (taken : List Text) (k : Nat) (paths : List Bytes)
    (names : List Text) (positive : 0 < count)
    (named : namesFrom count taken k paths = .ok names) : Given taken paths names := by
  induction paths generalizing taken k names with
  | nil =>
    cases named
    exact ⟨rfl, List.nodup_nil, by simp, by simp⟩
  | cons path paths ih =>
    obtain ⟨name, rest, own, others, rfl⟩ := names_cons count taken k path paths names named
    have given := ih _ _ rest others
    have fresh := free_name_new taken count positive k name
    refine ⟨congrArg (· + 1) given.length, List.nodup_cons.mpr ⟨?_, given.distinct⟩, ?_, ?_⟩
    · intro again
      exact given.fresh _ again List.mem_cons_self
    · intro t member
      rcases List.mem_cons.mp member with rfl | later
      · exact fresh
      · exact fun held => given.fresh t later (List.mem_cons_of_mem _ held)
    · intro t member
      rcases List.mem_cons.mp member with rfl | later
      · exact free_name_plain taken count k name (name_of_plain path name own)
      · exact given.plain t later

theorem artifact_names_given (paths : List Bytes) (names : List Text)
    (named : artifactNames paths = .ok names) : Given [] paths names := by
  cases paths with
  | nil =>
    cases named
    exact ⟨rfl, List.nodup_nil, by simp, by simp⟩
  | cons path paths => exact names_given _ [] 0 _ names (Nat.succ_pos _) named

theorem name_of_named (path name : Bytes) (named : name? path = some name) :
    nameOf path = .ok (Utf8.lossy name) := by
  rw [nameOf, named]

theorem name_of_nameless (path : Bytes) (nameless : name? path = none) :
    nameOf path = .error ⟨path⟩ := by
  rw [nameOf, nameless]

theorem names_stop (count : Nat) (taken : List Text) (k : Nat) (paths : List Bytes)
    (fault : Nameless) (failed : namesFrom count taken k paths = .error fault) :
    ∃ before path after, paths = before ++ path :: after ∧
      (∀ earlier ∈ before, name? earlier ≠ none) ∧ name? path = none ∧ fault = ⟨path⟩ := by
  induction paths generalizing taken k with
  | nil => cases failed
  | cons path paths ih =>
    rw [namesFrom] at failed
    cases own : name? path with
    | none =>
      rw [name_of_nameless path own] at failed
      cases failed
      exact ⟨[], path, paths, rfl, by simp, own, rfl⟩
    | some name =>
      rw [name_of_named path name own] at failed
      simp only [bind, Except.bind] at failed
      cases others : namesFrom count (freeName taken count k (Utf8.lossy name) :: taken) (k + 1)
          paths with
      | ok rest =>
        rw [others] at failed
        cases failed
      | error fault' =>
        rw [others] at failed
        cases failed
        obtain ⟨before, other, after, rfl, named, nameless, same⟩ := ih _ _ others
        refine ⟨path :: before, other, after, rfl, ?_, nameless, same⟩
        intro earlier member
        rcases List.mem_cons.mp member with rfl | later
        · rw [own]
          exact Option.some_ne_none name
        · exact named earlier later

theorem names_named (count : Nat) (taken : List Text) (k : Nat) (paths : List Bytes)
    (names : List Text) (given : namesFrom count taken k paths = .ok names) :
    ∀ path ∈ paths, name? path ≠ none := by
  induction paths generalizing taken k names with
  | nil => simp
  | cons path paths ih =>
    obtain ⟨name, rest, own, others, _⟩ := names_cons count taken k path paths names given
    intro other member
    rcases List.mem_cons.mp member with rfl | later
    · intro nameless
      rw [name_of_nameless other nameless] at own
      cases own
    · exact ih _ _ rest others other later

end Courier.Files
