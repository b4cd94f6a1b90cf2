import Courier.Text.Lowercase

set_option autoImplicit false

namespace Courier.Text

def holds (run : Nat × Nat × Nat × Int) (n : Nat) : Bool :=
  match run with
  | (lo, hi, step, _) => lo ≤ n && n ≤ hi && (n - lo) % step == 0

def misses (first last step : Nat) (run : Nat × Nat × Nat × Int) : Bool :=
  match run with
  | (lo, hi, stride, _) =>
    Nat.blt last lo || Nat.blt hi first ||
      (Nat.ble lo first && Nat.beq (step % stride) 0 && Nat.blt 0 ((first - lo) % stride))

theorem misses_outside (first last step n : Nat) (run : Nat × Nat × Nat × Int)
    (missed : misses first last step run = true) (above : first ≤ n) (below : n ≤ last)
    (stepped : step ∣ n - first) : holds run n = false := by
  obtain ⟨lo, hi, stride, distance⟩ := run
  simp only [misses, Bool.or_eq_true, Bool.and_eq_true, Nat.blt_eq, Nat.ble_eq,
    Nat.beq_eq] at missed
  rw [holds, Bool.eq_false_iff]
  intro hit
  simp only [Bool.and_eq_true, decide_eq_true_eq, beq_iff_eq] at hit
  obtain ⟨⟨low, high⟩, strode⟩ := hit
  rcases missed with (beyond | before) | ⟨⟨start, divides⟩, off⟩
  · omega
  · omega
  -- All characters of the one run are as far beside those of the other as the first is.
  · have moved : stride ∣ n - first := Nat.dvd_trans (Nat.dvd_of_mod_eq_zero divides) stepped
    have parts : n - lo = (first - lo) + (n - first) := by omega
    have whole := Nat.dvd_of_mod_eq_zero strode
    rw [parts] at whole
    have gap := Nat.mod_eq_zero_of_dvd ((Nat.dvd_add_left moved).mp whole)
    omega

def clears (run other : Nat × Nat × Nat × Int) : Bool :=
  match run with
  | (lo, hi, step, distance) =>
    misses (lo + distance).toNat (hi + distance).toNat (if lo == hi then 0 else step) other &&
      decide (0 ≤ (lo : Int) + distance)

theorem clears_outside (run other : Nat × Nat × Nat × Int) (n : Nat)
    (clear : clears run other = true) (inside : holds run n = true) :
    holds other (n + run.2.2.2).toNat = false := by
  obtain ⟨lo, hi, step, distance⟩ := run
  simp only [clears, holds, Bool.and_eq_true, decide_eq_true_eq, beq_iff_eq] at clear inside ⊢
  obtain ⟨missed, least⟩ := clear
  obtain ⟨⟨above, below⟩, stepped⟩ := inside
  refine misses_outside _ _ _ _ other missed (by omega) (by omega) ?_
  have same : (n + distance).toNat - (lo + distance).toNat = n - lo := by omega
  rw [same]
  split
  · have single : n - lo = 0 := by omega
    exact ⟨0, single⟩
  · exact Nat.dvd_of_mod_eq_zero stepped

def capitals : List (Nat × Nat × Nat × Int) := (0x130, 0x130, 1, 0) :: lowerRuns

theorem runs_clear : ∀ run ∈ lowerRuns, ∀ other ∈ capitals, clears run other = true := by
  have checked : (lowerRuns.all fun run => capitals.all (clears run)) = true := by decide +kernel
  intro run member
  exact List.all_eq_true.mp (List.all_eq_true.mp checked run member)

def Low (c : Char) : Prop := ∀ run ∈ capitals, holds run c.toNat = false

theorem low_checked (c : Char)
    (checked : (capitals.all fun run => !holds run c.toNat) = true) : Low c := by
  intro run member
  simpa using List.all_eq_true.mp checked run member

theorem low_zero : Low '\x00' := low_checked '\x00' (by decide +kernel)

theorem low_moved (c : Char) (run : Nat × Nat × Nat × Int) (member : run ∈ lowerRuns)
    (inside : holds run c.toNat = true) : Low (Char.ofNat (c.toNat + run.2.2.2).toNat) := by
  intro other listed
  have outside := clears_outside run other c.toNat (runs_clear run member other listed) inside
  by_cases valid : (c.toNat + run.2.2.2).toNat.isValidChar
  · rw [Char.ofNat, dif_pos valid]
    exact outside
  · rw [Char.ofNat, dif_neg valid]
    exact low_zero other listed

theorem runs_ascii (run : Nat × Nat × Nat × Int) (member : run ∈ lowerRuns) (n : Nat)
    (ascii : n < 0x80) (inside : holds run n = true) : run = (0x41, 0x5A, 1, 32) := by
  have split : ∀ run ∈ lowerRuns, run = (0x41, 0x5A, 1, 32) ∨ 0x80 ≤ run.1 := by decide +kernel
  rcases split run member with first | later
  · exact first
  · obtain ⟨lo, hi, step, distance⟩ := run
    simp only [holds, Bool.and_eq_true, decide_eq_true_eq] at inside
    omega

theorem lower_char_far (c : Char) (far : ¬ c.toNat < 0x80) :
    lowerChar c = (lowerRuns.find? fun run => holds run c.toNat).elim c fun run =>
      Char.ofNat (c.toNat + run.2.2.2).toNat := by
  unfold lowerChar
  dsimp only
  rw [if_neg far]
  split
  next lo hi step distance found =>
    have same : (lowerRuns.find? fun run => holds run c.toNat) = some (lo, hi, step, distance) :=
      found
    rw [same]
    rfl
  next found =>
    have same : (lowerRuns.find? fun run => holds run c.toNat) = none := found
    rw [same]
    rfl

theorem lower_char_cases (c : Char) : (∃ run ∈ lowerRuns, holds run c.toNat = true ∧
    lowerChar c = Char.ofNat (c.toNat + run.2.2.2).toNat) ∨
      (∀ run ∈ lowerRuns, holds run c.toNat = false) ∧ lowerChar c = c := by
  by_cases ascii : c.toNat < 0x80
  · have own : lowerChar c = if 0x41 ≤ c.toNat && c.toNat ≤ 0x5A then Char.ofNat (c.toNat + 0x20)
        else c := if_pos ascii
    by_cases capital : 0x41 ≤ c.toNat ∧ c.toNat ≤ 0x5A
    · refine .inl ⟨(0x41, 0x5A, 1, 32), List.mem_cons_self, ?_, ?_⟩
      · simp [holds, capital, Nat.mod_one]
      · rw [own, if_pos (by simpa using capital)]
        rfl
    · refine .inr ⟨fun run member => Bool.eq_false_iff.mpr fun inside => ?_, ?_⟩
      · rw [runs_ascii run member c.toNat ascii inside] at inside
        simp only [holds, Bool.and_eq_true, decide_eq_true_eq] at inside
        exact capital inside.1
      · rw [own, if_neg (by simpa using capital)]
  · rw [lower_char_far c ascii]
    cases found : lowerRuns.find? fun run => holds run c.toNat with
    | some run =>
      have inside := List.find?_some found
      exact .inl ⟨run, List.mem_of_find?_eq_some found, inside, rfl⟩
    | none =>
      exact .inr ⟨fun run member => Bool.eq_false_iff.mpr (List.find?_eq_none.mp found run member),
        rfl⟩

theorem low_char (c : Char) (plain : c ≠ '\u0130') : Low (lowerChar c) := by
  rcases lower_char_cases c with ⟨run, member, inside, moved⟩ | ⟨outside, still⟩
  · rw [moved]
    exact low_moved c run member inside
  · rw [still]
    intro run listed
    rcases List.mem_cons.mp listed with rfl | member
    · rw [Bool.eq_false_iff]
      intro inside
      simp only [holds, Bool.and_eq_true, decide_eq_true_eq] at inside
      exact plain (Char.toNat_inj.mp (Nat.le_antisymm inside.1.2 inside.1.1))
    · exact outside run member

theorem low_between (before after : Text) (c : Char) :
    ∀ lowered ∈ lowerBetween before c after, Low lowered := by
  have finals : ∀ lowered ∈ ['\u03C2', '\u03C3', 'i', '\u0307'], Low lowered := by
    simp only [List.forall_mem_cons, List.not_mem_nil, false_implies, implies_true, and_true]
    exact ⟨low_checked _ (by decide +kernel), low_checked _ (by decide +kernel),
      low_checked _ (by decide +kernel), low_checked _ (by decide +kernel)⟩
  intro lowered member
  rw [lowerBetween] at member
  by_cases sigma : (c == '\u03A3') = true
  · rw [if_pos sigma] at member
    apply finals
    rw [List.mem_singleton.mp member]
    split <;> simp
  · rw [if_neg sigma] at member
    by_cases dotted : (c == '\u0130') = true
    · rw [if_pos dotted] at member
      exact finals lowered (List.mem_cons_of_mem _ (List.mem_cons_of_mem _ member))
    · rw [if_neg dotted] at member
      rw [List.mem_singleton.mp member]
      exact low_char c (by simpa using dotted)

theorem between_low (before after : Text) (c : Char) (low : Low c) :
    lowerBetween before c after = [c] := by
  have sigma : c ≠ '\u03A3' := by
    rintro rfl
    exact absurd (low (0x3A3, 0x3AB, 1, 32) (by decide)) (by decide)
  have dotted : c ≠ '\u0130' := by
    rintro rfl
    exact absurd (low (0x130, 0x130, 1, 0) (by decide)) (by decide)
  rw [lowerBetween, if_neg (by simpa using sigma), if_neg (by simpa using dotted)]
  rcases lower_char_cases c with ⟨run, member, inside, _⟩ | ⟨_, still⟩
  · rw [low run (List.mem_cons_of_mem _ member)] at inside
    cases inside
  · rw [still]

theorem low_from (before acc t : Text) (lowered : ∀ c ∈ acc, Low c) :
    ∀ c ∈ lowerFrom before acc t, Low c := by
  induction t generalizing before acc with
  | nil => simpa [lowerFrom] using lowered
  | cons c after ih =>
    apply ih
    intro x member
    rcases List.mem_append.mp member with here | earlier
    · exact low_between before after c x (List.mem_reverse.mp here)
    · exact lowered x earlier

theorem from_low (before acc t : Text) (low : ∀ c ∈ t, Low c) :
    lowerFrom before acc t = acc.reverse ++ t := by
  induction t generalizing before acc with
  | nil => simp [lowerFrom]
  | cons c after ih =>
    rw [lowerFrom, between_low before after c (low c List.mem_cons_self),
      ih _ _ fun x member => low x (List.mem_cons_of_mem c member)]
    simp

theorem low_lower (t : Text) (low : ∀ c ∈ t, Low c) : lower t = t := from_low [] [] t low

theorem low_early (c : Char) (early : c.toNat < 0x41) : Low c := by
  have first : ∀ run ∈ capitals, 0x41 ≤ run.1 := by decide +kernel
  intro run member
  have later := first run member
  obtain ⟨lo, hi, step, distance⟩ := run
  rw [Bool.eq_false_iff]
  intro inside
  simp only [holds, Bool.and_eq_true, decide_eq_true_eq] at inside
  omega

theorem lower_lower (t : Text) : lower (lower t) = lower t :=
  low_lower (lower t) (low_from [] [] t (by simp))

end Courier.Text
