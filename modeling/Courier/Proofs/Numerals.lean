import Courier.Text.Decimal

set_option autoImplicit false

namespace Courier.Decimal

theorem digit_of_char (d : Nat) (small : d < 10) : digit? d.digitChar = some d := by
  have every : ∀ d < 10, digit? (Nat.digitChar d) = some d := by decide
  exact every d small

theorem digits_concat (n : Nat) (t : Text) (c : Char) :
    digits? n (t ++ [c]) = (digits? n t).bind fun m => (digit? c).map (m * 10 + ·) := by
  induction t generalizing n with
  | nil =>
    simp only [List.nil_append, digits?, Option.bind_some]
    cases digit? c <;> rfl
  | cons x t ih =>
    simp only [List.cons_append, digits?]
    cases digit? x with
    | none => rfl
    | some d => exact ih (n * 10 + d)

theorem digits_write (n : Nat) : digits? 0 (write n) = some n := by
  induction n using Nat.strongRecOn with
  | ind n ih =>
    by_cases small : n < 10
    · rw [write, Nat.toDigits_of_lt_base small]
      simp [digits?, digit_of_char n small]
    · have lead := ih (n / 10) (by omega)
      rw [write] at lead ⊢
      rw [Nat.toDigits_of_base_le (by decide) (by omega), digits_concat, lead,
        digit_of_char (n % 10) (Nat.mod_lt n (by decide))]
      simp only [Option.map_some, Option.bind_some, Option.some.injEq]
      omega

theorem nat_write (n : Nat) : nat? (write n) = some n := by
  have whole := digits_write n
  cases text : write n with
  | nil =>
    have filled : 0 < (write n).length := Nat.length_toDigits_pos
    simp [text] at filled
  | cons c rest => simpa [nat?, text] using whole

theorem write_digit (n : Nat) : ∀ c ∈ write n, c.isDigit = true := fun _ member =>
  Nat.isDigit_of_mem_toDigits (by decide) (by decide) member

theorem write_unsigned (n : Nat) (sign : Char) (rest : Text) (text : write n = sign :: rest) :
    sign ≠ '+' ∧ sign ≠ '-' := by
  have digit := write_digit n sign (by rw [text]; exact List.mem_cons_self)
  constructor
  · rintro rfl
    exact absurd digit (by decide)
  · rintro rfl
    exact absurd digit (by decide)

theorem unsigned_write (n : Nat) : unsigned? (write n) = some n := by
  unfold unsigned?
  split
  next rest text => exact absurd rfl (write_unsigned n '+' rest text).1
  next => exact nat_write n

theorem up_to_write (limit n : Nat) (fits : n ≤ limit) : upTo? limit (write n) = some n := by
  simp [upTo?, unsigned_write, fits]

theorem signed_write (i : Int) (low : -(half64 : Int) ≤ i) (high : i < half64) :
    signed64? (writeInt i) = some i := by
  by_cases negative : i < 0
  · rw [writeInt, if_pos negative, signed64?, nat_write]
    have fits : i.natAbs ≤ half64 := by omega
    rw [Option.filter_some_pos (by simpa using fits)]
    change some (-(i.natAbs : Int)) = some i
    congr 1
    omega
  · rw [writeInt, if_neg negative]
    unfold signed64?
    split
    next rest text => exact absurd rfl (write_unsigned i.natAbs '-' rest text).2
    next =>
      have fits : i.natAbs < half64 := by omega
      rw [unsigned_write, Option.filter_some_pos (by simpa using fits), Option.map_some]
      congr 1
      exact Int.natAbs_of_nonneg (by omega)

def Numeric (t : Text) : Prop := t ≠ [] ∧ ∀ c ∈ t, c = '-' ∨ c.isDigit = true

theorem write_numeric (n : Nat) : Numeric (write n) :=
  ⟨Nat.toDigits_ne_nil, fun c member => .inr (write_digit n c member)⟩

theorem write_int_numeric (i : Int) : Numeric (writeInt i) := by
  obtain ⟨filled, digits⟩ := write_numeric i.natAbs
  rw [writeInt]
  split
  · refine ⟨List.cons_ne_nil _ _, fun c member => ?_⟩
    rcases List.mem_cons.mp member with sign | digit
    · exact .inl sign
    · exact digits c digit
  · exact ⟨filled, digits⟩

theorem numeric_early (c : Char) (numeric : c = '-' ∨ c.isDigit = true) :
    0 < c.toNat ∧ c.toNat < 0x41 := by
  rcases numeric with rfl | digit
  · decide
  · obtain ⟨low, high⟩ := Char.isDigit_iff_toNat.mp digit
    change 0x30 ≤ c.toNat at low
    change c.toNat ≤ 0x39 at high
    omega

end Courier.Decimal
