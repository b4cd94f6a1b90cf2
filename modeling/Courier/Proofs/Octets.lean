import Courier.Text.Utf8
import Mathlib.Data.List.Forall2

set_option autoImplicit false

namespace Courier.Utf8

theorem within_iff (lo hi b : UInt8) :
    within lo hi b = true ↔ lo.toNat ≤ b.toNat ∧ b.toNat ≤ hi.toNat := by
  simp [within, UInt8.le_iff_toNat_le]

theorem tail_iff (b : UInt8) : isTail b = true ↔ 0x80 ≤ b.toNat ∧ b.toNat ≤ 0xBF :=
  within_iff 0x80 0xBF b

theorem width_cases (a : UInt8) :
    (a.toNat < 0x80 ∧ width a = 1) ∨
    (0xC2 ≤ a.toNat ∧ a.toNat ≤ 0xDF ∧ width a = 2) ∨
    (0xE0 ≤ a.toNat ∧ a.toNat ≤ 0xEF ∧ width a = 3) ∨
    (0xF0 ≤ a.toNat ∧ a.toNat ≤ 0xF4 ∧ width a = 4) ∨
    (¬ (a.toNat < 0x80 ∨ 0xC2 ≤ a.toNat ∧ a.toNat ≤ 0xF4) ∧ width a = 0) := by
  unfold width
  simp only [within_iff, UInt8.lt_iff_toNat_lt, UInt8.reduceToNat]
  split
  · exact .inl ⟨‹_›, rfl⟩
  · split
    · exact .inr (.inl (by omega))
    · split
      · exact .inr (.inr (.inl (by omega)))
      · split
        · exact .inr (.inr (.inr (.inl (by omega))))
        · exact .inr (.inr (.inr (.inr ⟨by omega, rfl⟩)))

theorem second_iff (a b : UInt8) : isSecond a b = true ↔
    (0x80 ≤ b.toNat ∧ b.toNat ≤ 0xBF) ∧ (a.toNat = 0xE0 → 0xA0 ≤ b.toNat) ∧
      (a.toNat = 0xED → b.toNat ≤ 0x9F) ∧ (a.toNat = 0xF0 → 0x90 ≤ b.toNat) ∧
      (a.toNat = 0xF4 → b.toNat ≤ 0x8F) := by
  unfold isSecond
  simp only [beq_iff_eq, ← UInt8.toNat_inj, UInt8.reduceToNat]
  split
  · simp only [within_iff, UInt8.reduceToNat]
    omega
  · split
    · simp only [within_iff, UInt8.reduceToNat]
      omega
    · split
      · simp only [within_iff, UInt8.reduceToNat]
        omega
      · split
        · simp only [within_iff, UInt8.reduceToNat]
          omega
        · rw [tail_iff]
          omega

def written (n : Nat) : Bytes :=
  if n < 0x80 then [UInt8.ofNat n]
  else if n < 0x800 then [UInt8.ofNat (n / 64 + 0xC0), UInt8.ofNat (n % 64 + 0x80)]
  else if n < 0x10000 then
    [UInt8.ofNat (n / 4096 + 0xE0), UInt8.ofNat (n / 64 % 64 + 0x80), UInt8.ofNat (n % 64 + 0x80)]
  else
    [UInt8.ofNat (n / 262144 + 0xF0), UInt8.ofNat (n / 4096 % 64 + 0x80),
      UInt8.ofNat (n / 64 % 64 + 0x80), UInt8.ofNat (n % 64 + 0x80)]

theorem char_range (c : Char) : c.toNat < 0xD800 ∨ 0xDFFF < c.toNat ∧ c.toNat < 0x110000 :=
  c.valid

theorem char_written (c : Char) : String.utf8EncodeChar c = written c.toNat := by
  have range := char_range c
  rw [String.utf8EncodeChar.eq_1, written]
  change (if c.toNat ≤ 0x7F then [UInt8.ofNat c.toNat] else if c.toNat ≤ 0x7FF then _
    else if c.toNat ≤ 0xFFFF then _ else _) = _
  by_cases one : c.toNat < 0x80
  · rw [if_pos (by omega), if_pos one]
  · by_cases two : c.toNat < 0x800
    · have lead : c.toNat / 64 % 32 = c.toNat / 64 := Nat.mod_eq_of_lt (by omega)
      rw [if_neg (by omega), if_pos (by omega), if_neg one, if_pos two, ← lead]
      rfl
    · by_cases three : c.toNat < 0x10000
      · have lead : c.toNat / 4096 % 16 = c.toNat / 4096 := Nat.mod_eq_of_lt (by omega)
        rw [if_neg (by omega), if_neg (by omega), if_pos (by omega), if_neg one, if_neg two,
          if_pos three, ← lead]
        rfl
      · have lead : c.toNat / 262144 % 8 = c.toNat / 262144 := Nat.mod_eq_of_lt (by omega)
        rw [if_neg (by omega), if_neg (by omega), if_neg (by omega), if_neg one, if_neg two,
          if_neg three, ← lead]
        rfl

theorem code_written (n : Nat) (range : n < 0xD800 ∨ 0xDFFF < n ∧ n < 0x110000) :
    String.utf8EncodeChar (Char.ofNat n) = written n := by
  have valid : n.isValidChar := range
  have same : (Char.ofNat n).toNat = n := by
    rw [Char.ofNat, dif_pos valid]
    rfl
  rw [char_written, same]

theorem octet_eq (n : Nat) (b : UInt8) (same : n = b.toNat) : UInt8.ofNat n = b := by
  rw [same, UInt8.ofNat_toNat]

theorem one_written (a : UInt8) (width : width a = 1) :
    String.utf8EncodeChar (Char.ofNat a.toNat) = [a] := by
  have lead := width_cases a
  rw [code_written _ (by omega), written, if_pos (by omega), octet_eq _ a rfl]

theorem two_written (a b : UInt8) (width : width a = 2) (tail : isTail b = true) :
    String.utf8EncodeChar (Char.ofNat (a.toNat % 32 * 64 + low b)) = [a, b] := by
  have lead := width_cases a
  rw [tail_iff] at tail
  unfold low
  rw [code_written _ (by omega), written, if_neg (by omega), if_pos (by omega),
    octet_eq _ a (by omega), octet_eq _ b (by omega)]

theorem three_written (a b c : UInt8) (width : width a = 3) (second : isSecond a b = true)
    (tail : isTail c = true) :
    String.utf8EncodeChar (Char.ofNat ((a.toNat % 16 * 64 + low b) * 64 + low c)) = [a, b, c] := by
  have lead := width_cases a
  rw [second_iff] at second
  rw [tail_iff] at tail
  unfold low
  rw [code_written _ (by omega), written, if_neg (by omega), if_neg (by omega), if_pos (by omega),
    octet_eq _ a (by omega), octet_eq _ b (by omega), octet_eq _ c (by omega)]

theorem four_written (a b c d : UInt8) (width : width a = 4) (second : isSecond a b = true)
    (tail : isTail c = true) (last : isTail d = true) :
    String.utf8EncodeChar
      (Char.ofNat (((a.toNat % 8 * 64 + low b) * 64 + low c) * 64 + low d)) = [a, b, c, d] := by
  have lead := width_cases a
  rw [second_iff] at second
  rw [tail_iff] at tail last
  unfold low
  rw [code_written _ (by omega), written, if_neg (by omega), if_neg (by omega), if_neg (by omega),
    octet_eq _ a (by omega), octet_eq _ b (by omega), octet_eq _ c (by omega),
    octet_eq _ d (by omega)]

def Piece.octets : Piece → Bytes
  | .char c _ => String.utf8EncodeChar c
  | .bad octets => octets
  | .cut octets => octets

theorem pieces_octets (acc : List Piece) (s : Bytes) :
    (piecesFrom acc s).reverse.flatMap Piece.octets = acc.reverse.flatMap Piece.octets ++ s := by
  fun_induction piecesFrom acc s with
  | case1 => simp
  | case2 acc a s width ih => simp [ih, Piece.octets, one_written a width]
  | case3 acc a width => simp [Piece.octets]
  | case4 acc a width b s tail ih => simp [ih, Piece.octets, two_written a b width tail]
  | case5 acc a width b s tail ih => simp [ih, Piece.octets]
  | case6 acc a width => simp [Piece.octets]
  | case7 acc a width b second => simp [Piece.octets]
  | case8 acc a width b second c s tail ih =>
    simp [ih, Piece.octets, three_written a b c width second tail]
  | case9 acc a width b second c s tail ih => simp [ih, Piece.octets]
  | case10 acc a width b s second ih => simp [ih, Piece.octets]
  | case11 acc a width => simp [Piece.octets]
  | case12 acc a width b second => simp [Piece.octets]
  | case13 acc a width b second c tail => simp [Piece.octets]
  | case14 acc a width b second c tail d s last ih =>
    simp [ih, Piece.octets, four_written a b c d width second tail last]
  | case15 acc a width b second c tail d s last ih => simp [ih, Piece.octets]
  | case16 acc a width b second c s tail ih => simp [ih, Piece.octets]
  | case17 acc a width b s second ih => simp [ih, Piece.octets]
  | case18 acc a s _ _ _ _ ih => simp [ih, Piece.octets]

theorem octet_value (n : Nat) (small : n < 256) : (UInt8.ofNat n).toNat = n := by
  rw [UInt8.toNat_ofNat']
  exact Nat.mod_eq_of_lt small

theorem number_char (c : Char) (n : Nat) (same : n = c.toNat) : Char.ofNat n = c := by
  rw [same, Char.ofNat_toNat]

theorem pieces_one (acc : List Piece) (a : UInt8) (s : Bytes) (wide : width a = 1) :
    piecesFrom acc (a :: s) = piecesFrom (.char (Char.ofNat a.toNat) 1 :: acc) s := by
  rw [piecesFrom.eq_def]
  simp only [wide]

theorem pieces_two (acc : List Piece) (a b : UInt8) (s : Bytes) (wide : width a = 2)
    (tail : isTail b = true) : piecesFrom acc (a :: b :: s) =
      piecesFrom (.char (Char.ofNat (a.toNat % 32 * 64 + low b)) 2 :: acc) s := by
  rw [piecesFrom.eq_def]
  simp only [wide, tail, if_true]

theorem pieces_three (acc : List Piece) (a b c : UInt8) (s : Bytes) (wide : width a = 3)
    (second : isSecond a b = true) (tail : isTail c = true) : piecesFrom acc (a :: b :: c :: s) =
      piecesFrom (.char (Char.ofNat ((a.toNat % 16 * 64 + low b) * 64 + low c)) 3 :: acc) s := by
  rw [piecesFrom.eq_def]
  simp only [wide, second, tail, if_true]

theorem pieces_four (acc : List Piece) (a b c d : UInt8) (s : Bytes) (wide : width a = 4)
    (second : isSecond a b = true) (tail : isTail c = true) (last : isTail d = true) :
    piecesFrom acc (a :: b :: c :: d :: s) =
      piecesFrom
        (.char (Char.ofNat (((a.toNat % 8 * 64 + low b) * 64 + low c) * 64 + low d)) 4 :: acc)
        s := by
  rw [piecesFrom.eq_def]
  simp only [wide, second, tail, last, if_true]

theorem octet_tail (n : Nat) : isTail (UInt8.ofNat (n % 64 + 0x80)) = true := by
  rw [tail_iff, octet_value _ (by omega)]
  omega

theorem octet_low (n : Nat) : low (UInt8.ofNat (n % 64 + 0x80)) = n % 64 := by
  rw [low, octet_value _ (by omega)]
  omega

theorem octet_width (n len : Nat) (small : n < 256) (wide : n < 0x80 ∧ len = 1 ∨
    0xC2 ≤ n ∧ n ≤ 0xDF ∧ len = 2 ∨ 0xE0 ≤ n ∧ n ≤ 0xEF ∧ len = 3 ∨
    0xF0 ≤ n ∧ n ≤ 0xF4 ∧ len = 4) : width (UInt8.ofNat n) = len := by
  have lead := width_cases (UInt8.ofNat n)
  rw [octet_value n small] at lead
  omega

theorem pieces_written (acc : List Piece) (c : Char) (s : Bytes) :
    ∃ n, piecesFrom acc (String.utf8EncodeChar c ++ s) = piecesFrom (.char c n :: acc) s := by
  have range := char_range c
  rw [char_written, written]
  by_cases one : c.toNat < 0x80
  · refine ⟨1, ?_⟩
    rw [if_pos one, List.cons_append, List.nil_append,
      pieces_one _ _ _ (octet_width c.toNat 1 (by omega) (by omega)), octet_value _ (by omega),
      Char.ofNat_toNat]
  · by_cases two : c.toNat < 0x800
    · have wide := octet_width (c.toNat / 64 + 0xC0) 2 (by omega) (by omega)
      refine ⟨2, ?_⟩
      rw [if_neg one, if_pos two, List.cons_append, List.cons_append, List.nil_append,
        pieces_two _ _ _ _ wide (octet_tail _), octet_low, octet_value _ (by omega),
        number_char c _ (by omega)]
    · by_cases three : c.toNat < 0x10000
      · have wide := octet_width (c.toNat / 4096 + 0xE0) 3 (by omega) (by omega)
        have second : isSecond (UInt8.ofNat (c.toNat / 4096 + 0xE0))
            (UInt8.ofNat (c.toNat / 64 % 64 + 0x80)) = true := by
          rw [second_iff, octet_value _ (by omega), octet_value _ (by omega)]
          omega
        refine ⟨3, ?_⟩
        rw [if_neg one, if_neg two, if_pos three, List.cons_append, List.cons_append,
          List.cons_append, List.nil_append, pieces_three _ _ _ _ _ wide second (octet_tail _),
          octet_low, octet_low, octet_value _ (by omega), number_char c _ (by omega)]
      · have wide := octet_width (c.toNat / 262144 + 0xF0) 4 (by omega) (by omega)
        have second : isSecond (UInt8.ofNat (c.toNat / 262144 + 0xF0))
            (UInt8.ofNat (c.toNat / 4096 % 64 + 0x80)) = true := by
          rw [second_iff, octet_value _ (by omega), octet_value _ (by omega)]
          omega
        refine ⟨4, ?_⟩
        rw [if_neg one, if_neg two, if_neg three, List.cons_append, List.cons_append,
          List.cons_append, List.cons_append, List.nil_append,
          pieces_four _ _ _ _ _ _ wide second (octet_tail _) (octet_tail _), octet_low, octet_low,
          octet_low, octet_value _ (by omega), number_char c _ (by omega)]

def Chars (ps : List Piece) (t : Text) : Prop :=
  List.Forall₂ (fun p c => ∃ n, p = Piece.char c n) ps t

theorem encode_pieces (acc : List Piece) (t : Text) :
    ∃ ps, Chars ps t ∧ piecesFrom acc (encode t) = ps.reverse ++ acc := by
  induction t generalizing acc with
  | nil => exact ⟨[], .nil, rfl⟩
  | cons c t ih =>
    obtain ⟨n, first⟩ := pieces_written acc c (encode t)
    obtain ⟨ps, chars, rest⟩ := ih (.char c n :: acc)
    refine ⟨.char c n :: ps, .cons ⟨n, rfl⟩ chars, ?_⟩
    rw [encode, List.flatMap_cons, ← encode, first, rest]
    simp

theorem collect_chars (index : Nat) (acc : Text) (ps : List Piece) (t : Text)
    (chars : Chars ps t) : collect index acc ps = .ok (acc.reverse ++ t) := by
  induction chars generalizing index acc with
  | nil => simp [collect]
  | cons first _ ih =>
    obtain ⟨n, rfl⟩ := first
    rw [collect, ih]
    simp

theorem decode_encode (t : Text) : decode (encode t) = .ok t := by
  obtain ⟨ps, chars, cut⟩ := encode_pieces [] t
  rw [decode, pieces, cut, List.append_nil, List.reverse_reverse, collect_chars 0 [] ps t chars]
  rfl

theorem collect_octets (index : Nat) (acc : Text) (ps : List Piece) (t : Text)
    (collected : collect index acc ps = .ok t) :
    encode t = encode acc.reverse ++ ps.flatMap Piece.octets := by
  induction ps generalizing index acc with
  | nil =>
    cases collected
    simp
  | cons p ps ih =>
    cases p with
    | char c n =>
      rw [ih _ _ collected]
      simp [encode, Piece.octets]
    | bad octets => cases collected
    | cut octets => cases collected

theorem decode_iff (s : Bytes) (t : Text) : decode s = .ok t ↔ s = encode t := by
  constructor
  · intro read
    have whole := pieces_octets [] s
    rw [decode, pieces] at read
    rw [collect_octets 0 [] _ t read, whole]
    rfl
  · rintro rfl
    exact decode_encode t

theorem encode_append (t u : Text) : encode (t ++ u) = encode t ++ encode u :=
  List.flatMap_append

theorem encode_injective : Function.Injective encode := by
  intro t u same
  have read := decode_encode t
  rw [same, decode_encode u, Except.ok.injEq] at read
  exact read.symm

theorem written_ascii (c d : Char) (ascii : d.toNat < 0x80) :
    UInt8.ofNat d.toNat ∈ String.utf8EncodeChar c ↔ c = d := by
  have range := char_range c
  rw [← Char.toNat_inj, char_written, written]
  simp only [← UInt8.toNat_inj, apply_ite (fun l : Bytes => UInt8.ofNat d.toNat ∈ l),
    List.mem_cons, List.not_mem_nil, or_false, UInt8.toNat_ofNat']
  split
  · omega
  · split
    · omega
    · split
      · omega
      · omega

theorem encode_ascii (t : Text) (d : Char) (ascii : d.toNat < 0x80) :
    UInt8.ofNat d.toNat ∈ encode t ↔ d ∈ t := by
  rw [encode, List.mem_flatMap]
  simp only [written_ascii _ d ascii]
  exact ⟨fun ⟨_, member, same⟩ => same ▸ member, fun member => ⟨_, member, rfl⟩⟩

theorem encode_feed (t : Text) : 0x0A ∈ encode t ↔ '\n' ∈ t := encode_ascii t '\n' (by decide)

theorem encode_slash (t : Text) : 0x2F ∈ encode t ↔ '/' ∈ t := encode_ascii t '/' (by decide)

theorem encode_lossy (s : Bytes) (faultless : '\uFFFD' ∉ lossy s) : encode (lossy s) = s := by
  have whole := pieces_octets [] s
  have chars : ∀ p ∈ pieces s, String.utf8EncodeChar p.lossy = p.octets := by
    intro p member
    cases p with
    | char c n => rfl
    | bad octets => exact absurd (List.mem_map_of_mem member) faultless
    | cut octets => exact absurd (List.mem_map_of_mem member) faultless
  rw [encode, lossy, List.flatMap_map, List.flatMap_congr chars]
  exact whole

theorem lossy_ascii (s : Bytes) (d : Char) (ascii : d.toNat < 0x80) (member : d ∈ lossy s) :
    UInt8.ofNat d.toNat ∈ s := by
  obtain ⟨p, listed, same⟩ := List.mem_map.mp member
  have fault : ¬ '\uFFFD'.toNat < 0x80 := by decide
  have octets : UInt8.ofNat d.toNat ∈ p.octets := by
    cases p with
    | char c n => exact (written_ascii c d ascii).mpr same
    | bad octets =>
      rw [← same] at ascii
      exact absurd ascii fault
    | cut octets =>
      rw [← same] at ascii
      exact absurd ascii fault
  have whole : (pieces s).flatMap Piece.octets = s := pieces_octets [] s
  rw [← whole]
  exact List.mem_flatMap_of_mem listed octets

theorem lossy_empty (s : Bytes) : lossy s = [] ↔ s = [] := by
  have whole : (pieces s).flatMap Piece.octets = s := pieces_octets [] s
  rw [lossy, List.map_eq_nil_iff]
  constructor
  · intro none_cut
    rw [← whole, none_cut]
    rfl
  · rintro rfl
    rfl

end Courier.Utf8
