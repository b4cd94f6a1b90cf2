import Courier.Proofs.Casing
import Courier.Proofs.Layers
import Courier.Proofs.Numerals
import Courier.Proofs.Sections

set_option autoImplicit false

namespace Courier

namespace Settings

theorem word_numeric (t : Text) (numeric : Decimal.Numeric t) :
    Decode.word? (Text.lower t) = none := by
  obtain ⟨filled, every⟩ := numeric
  have low : ∀ c ∈ t, Text.Low c := fun c member =>
    Text.low_early c (Decimal.numeric_early c (every c member)).2
  rw [Text.low_lower t low]
  cases t with
  | nil => exact absurd rfl filled
  | cons c rest =>
    have early := (Decimal.numeric_early c (every c List.mem_cons_self)).2
    have apart : ∀ letter : Char, 0x41 ≤ letter.toNat → ∀ word, c :: rest ≠ letter :: word := by
      intro letter later word same
      cases same
      omega
    rw [Decode.word?, if_neg, if_neg]
    · rintro (same | same | same)
      · exact apart 'f' (by decide) _ same
      · exact apart 'o' (by decide) _ same
      · exact apart 'n' (by decide) _ same
    · rintro (same | same | same)
      · exact apart 't' (by decide) _ same
      · exact apart 'o' (by decide) _ same
      · exact apart 'y' (by decide) _ same

section

variable (lo hi : Int) (read? : Text → Option Int) (key : List Step) (origin : Option Text)
  (t : Text) (i : Int)

theorem whole_numeric (numeric : Decimal.Numeric t) (read : read? t = some i) :
    Decode.whole lo hi read? key (.scalar origin (.text t)) = .ok i := by
  rw [Decode.whole, word_numeric t numeric, read]

theorem whole_cases (made : Decode.whole lo hi read? key (.scalar origin (.text t)) = .ok i) :
    i = 0 ∨ i = 1 ∨ read? t = some i := by
  rw [Decode.whole] at made
  split at made
  next b _ =>
    cases made
    cases b <;> simp
  next j _ read =>
    cases made
    exact .inr (.inr read)
  next => cases made

end

variable (key : List Step) (origin : Option Text)

theorem unsigned64_written (n : Nat) (fits : n ≤ Decimal.max64) :
    Decode.unsigned64 key (.scalar origin (.text (Decimal.write n))) = .ok n := by
  have read := whole_numeric 0 Decimal.max64
    (fun t => (Decimal.upTo? Decimal.max64 t).map Int.ofNat) key origin (Decimal.write n) n
    (Decimal.write_numeric n) (by rw [Decimal.up_to_write _ n fits]; rfl)
  rw [Decode.unsigned64, read, ok_bind, if_neg (by omega)]
  rfl

theorem unsigned64_fits (t : Text) (n : Nat)
    (made : Decode.unsigned64 key (.scalar origin (.text t)) = .ok n) : n ≤ Decimal.max64 := by
  obtain ⟨i, whole, kept⟩ := bind_ok _ _ _ made
  split at kept
  next => cases kept
  next positive =>
    cases kept
    rcases whole_cases _ _ _ key origin t i whole with rfl | rfl | read
    · decide
    · decide
    · obtain ⟨m, within, rfl⟩ := Option.map_eq_some_iff.mp read
      rw [Decimal.upTo?, Option.filter_eq_some_iff] at within
      simpa using within.2

theorem unsigned32_written (n : Nat) (fits : n ≤ 0xFFFFFFFF) :
    Decode.unsigned32 key (.scalar origin (.text (Decimal.write n))) = .ok n := by
  have read := unsigned64_written key origin n (Nat.le_trans fits (by decide))
  rw [Decode.unsigned32, read, ok_bind, if_pos fits]

theorem unsigned32_fits (v : Value) (n : Nat) (made : Decode.unsigned32 key v = .ok n) :
    n ≤ 0xFFFFFFFF := by
  obtain ⟨m, _, kept⟩ := bind_ok _ _ _ made
  split at kept
  next fits =>
    cases kept
    exact fits
  next => cases kept

theorem signed32_written (i : Int) (fits : -0x80000000 ≤ i ∧ i < 0x80000000) :
    Decode.signed32 key (.scalar origin (.text (Decimal.writeInt i))) = .ok i := by
  have written : Decimal.signed64? (Decimal.writeInt i) = some i := by
    refine Decimal.signed_write i ?_ ?_ <;> rw [Decimal.half64] <;> omega
  have read := whole_numeric (-Decimal.half64) (Decimal.half64 - 1) Decimal.signed64? key origin
    (Decimal.writeInt i) i (Decimal.write_int_numeric i) written
  rw [Decode.signed32, read, ok_bind, if_pos fits]

theorem signed32_fits (v : Value) (i : Int) (made : Decode.signed32 key v = .ok i) :
    -0x80000000 ≤ i ∧ i < 0x80000000 := by
  obtain ⟨m, _, kept⟩ := bind_ok _ _ _ made
  split at kept
  next fits =>
    cases kept
    exact fits
  next => cases kept

theorem optional_text (t : Text) (n : Option Nat) :
    Decode.optional Decode.unsigned64 key (.scalar origin (.text t)) = .ok n ↔
      ∃ m, n = some m ∧ Decode.unsigned64 key (.scalar origin (.text t)) = .ok m := by
  have opened : Decode.optional Decode.unsigned64 key (.scalar origin (.text t)) =
      some <$> Decode.unsigned64 key (.scalar origin (.text t)) := rfl
  rw [opened]
  cases Decode.unsigned64 key (.scalar origin (.text t)) with
  | error e =>
    constructor
    · intro never
      cases never
    · rintro ⟨m, _, never⟩
      cases never
  | ok m =>
    constructor
    · intro made
      cases made
      exact ⟨m, rfl, rfl⟩
    · rintro ⟨m, rfl, same⟩
      cases same
      rfl

theorem character_text (t : Text) (c : Char)
    (made : Decode.character key (.scalar origin (.text t)) = .ok c) : t = [c] := by
  match t with
  | [] => cases made
  | [d] =>
    cases made
    rfl
  | d :: e :: rest => cases made

theorem text_anywhere (v : Value) (t : Text) :
    Decode.text key v = .ok t ↔ Decode.text [] v = .ok t := by
  cases v with
  | scalar _ s =>
    cases s with
    | null => constructor <;> intro never <;> cases never
    | _ => exact Iff.rfl
  | list _ _ => constructor <;> intro never <;> cases never
  | table _ _ => constructor <;> intro never <;> cases never

def enter (all : Attributes) (e : Text × Value) : Except Misfit Attributes := do
  return all.insert e.1 (← Decode.text (key ++ [.name e.1]) e.2)

theorem enter_ok (all next : Attributes) (e : Text × Value) : enter key all e = .ok next ↔
    ∃ t, Decode.text [] e.2 = .ok t ∧ all.insert e.1 t = next := by
  constructor
  · intro entered
    obtain ⟨t, read, done⟩ := bind_ok _ _ _ entered
    exact ⟨t, (text_anywhere _ _ _).mp read, Except.ok.inj done⟩
  · rintro ⟨t, read, rfl⟩
    exact bind_step ((text_anywhere (key ++ [.name e.1]) e.2 t).mpr read) _

def Entered (es : Layer) (all m : Attributes) : Prop :=
  ∀ name, (es.lookup name).elim (m[name]? = all[name]?) fun v =>
    ∃ t, Decode.text [] v = .ok t ∧ m[name]? = some t

theorem entered_cons (e : Text × Value) (es : Layer) (all m : Attributes)
    (fresh : e.1 ∉ es.map Prod.fst) : Entered (e :: es) all m ↔
      ∃ t, Decode.text [] e.2 = .ok t ∧ Entered es (all.insert e.1 t) m := by
  have absent : es.lookup e.1 = none := by
    rw [List.lookup_eq_none_iff]
    intro other member
    simpa using fun same : e.1 = other.1 => fresh (same ▸ List.mem_map_of_mem member)
  have beside : ∀ (t name : Text), name ≠ e.1 → (all.insert e.1 t)[name]? = all[name]? :=
    fun t name apart => by
      rw [Std.ExtTreeMap.getElem?_insert, if_neg (mt Std.compare_eq_iff_eq.mp (Ne.symm apart))]
  constructor
  · intro said
    have own := said e.1
    rw [lookup_first, if_pos rfl] at own
    obtain ⟨t, read, held⟩ := own
    refine ⟨t, read, fun name => ?_⟩
    have there := said name
    rw [lookup_first] at there
    by_cases here : name = e.1
    · subst here
      rw [absent, Option.elim_none, Std.ExtTreeMap.getElem?_insert_self]
      exact held
    · rwa [if_neg here, ← beside t name here] at there
  · rintro ⟨t, read, said⟩ name
    have there := said name
    rw [lookup_first]
    by_cases here : name = e.1
    · subst here
      rw [absent, Option.elim_none, Std.ExtTreeMap.getElem?_insert_self] at there
      rw [if_pos rfl]
      exact ⟨t, read, there⟩
    · rw [if_neg here, ← beside t name here]
      exact there

theorem enter_all (es : Layer) (all m : Attributes) (nodup : (es.map Prod.fst).Nodup) :
    es.foldlM (enter key) all = .ok m ↔ Entered es all m := by
  induction es generalizing all with
  | nil =>
    constructor
    · intro same name
      cases same
      rfl
    · intro same
      exact congrArg Except.ok (Std.ExtTreeMap.ext_getElem? fun name => (same name).symm)
  | cons e es ih =>
    obtain ⟨fresh, rest⟩ := List.nodup_cons.mp nodup
    rw [List.foldlM_cons, entered_cons e es all m fresh]
    constructor
    · intro made
      obtain ⟨next, first, later⟩ := bind_ok _ _ _ made
      obtain ⟨t, read, rfl⟩ := (enter_ok key all next e).mp first
      exact ⟨t, read, (ih _ rest).mp later⟩
    · rintro ⟨t, read, said⟩
      rw [bind_step ((enter_ok key all _ e).mpr ⟨t, read, rfl⟩)]
      exact (ih _ rest).mpr said

theorem mapping_standard : Setting.Kind.Mapping fun v => (Decode.attributes key v).toOption where
  table v m read := by
    cases v with
    | table _ _ => rfl
    | _ => cases read
  each := by
    refine ⟨fun v => (Decode.text [] v).toOption, fun _ _ => rfl, fun origin es m nodup => ?_⟩
    refine (toOption_ok _ _).trans ((enter_all key es ∅ m nodup).trans
      (forall_congr' fun name => ?_))
    cases es.lookup name with
    | none =>
      rw [Option.elim_none, Std.ExtTreeMap.getElem?_empty]
      cases m[name]? <;> simp
    | some v =>
      rw [Option.elim_some, Option.map_some]
      cases m[name]? <;> simp [toOption_ok]

end Settings

theorem Setting.Kind.standard_converts (k : Kind) (key : List Settings.Step) :
    k.Converts fun v => (k.read key v).toOption := by
  cases k with
  | text => exact fun _ _ => rfl
  | texts => exact fun _ _ => rfl
  | switch => exact fun _ => ⟨rfl, rfl⟩
  | mode => exact fun _ => ⟨rfl, rfl, rfl⟩
  | entries => exact Settings.mapping_standard key
  | character =>
    intro origin t c
    refine (toOption_ok _ _).trans ⟨Settings.character_text key origin t c, ?_⟩
    rintro rfl
    rfl
  | count32 =>
    refine ⟨fun origin n fits => (toOption_ok _ _).mpr ?_, fun origin t n read => ?_⟩
    · exact Settings.unsigned32_written key origin n fits
    · exact Settings.unsigned32_fits key _ n ((toOption_ok _ _).mp read)
  | count64 =>
    refine ⟨fun origin n fits => (toOption_ok _ _).mpr ?_, fun origin t n read => ?_⟩
    · exact Settings.unsigned64_written key origin n fits
    · exact Settings.unsigned64_fits key origin t n ((toOption_ok _ _).mp read)
  | signed32 =>
    refine ⟨fun origin i fits => (toOption_ok _ _).mpr ?_, fun origin t i read => ?_⟩
    · exact Settings.signed32_written key origin i fits
    · exact Settings.signed32_fits key _ i ((toOption_ok _ _).mp read)
  | limit =>
    refine ⟨fun origin n fits => (toOption_ok _ _).mpr ?_, fun origin t n read => ?_⟩
    · obtain ⟨m, fits, rfl⟩ := fits
      exact (Settings.optional_text key origin _ _).mpr
        ⟨m, rfl, Settings.unsigned64_written key origin m fits⟩
    · obtain ⟨m, rfl, made⟩ := (Settings.optional_text key origin t n).mp
        ((toOption_ok _ _).mp read)
      exact ⟨m, Settings.unsigned64_fits key origin t m made, rfl⟩

end Courier
