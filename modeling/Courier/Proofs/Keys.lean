import Courier.Fault
import Courier.Proofs.Acceptance

set_option autoImplicit false

namespace Courier

namespace Text

theorem intercalate_injective (d : Char) (parts others : List Text) (nonempty : parts ≠ [])
    (nonempty' : others ≠ []) (apart : ∀ part ∈ parts, d ∉ part)
    (apart' : ∀ part ∈ others, d ∉ part)
    (same : [d].intercalate parts = [d].intercalate others) : parts = others := by
  rw [← List.splitOn_intercalate d apart nonempty, same,
    List.splitOn_intercalate d apart' nonempty']

end Text

namespace KeyRule

def indices : KeyRule → List Nat
  | .none => []
  | .field i => [i]
  | .composite is => is

def named? (schema row : List Text) (name : Text) : Option Text := (schema.zip row).lookup name

theorem index_of_ok (schema : List Text) (name : Text) (i : Nat) :
    indexOf schema name = .ok i ↔ schema.idxOf? name = some i := by
  rw [indexOf]
  cases schema.idxOf? name with
  | none => simp
  | some k => simp

theorem index_of_error (schema : List Text) (name : Text) (e : UnknownField) :
    indexOf schema name = .error e ↔ name = e.name ∧ name ∉ schema := by
  obtain ⟨other⟩ := e
  rw [indexOf, ← List.idxOf?_eq_none_iff]
  cases schema.idxOf? name with
  | none => simp
  | some k => simp

theorem index_of_known (schema : List Text) (name : Text) :
    (∃ i, indexOf schema name = .ok i) ↔ name ∈ schema := by
  simp only [index_of_ok]
  rw [← Option.isSome_iff_exists, List.isSome_idxOf?]

theorem of_schema_ok (schema keyFields : List Text) (rule : KeyRule) :
    ofSchema schema keyFields = .ok rule ↔
      ∃ is, keyFields.mapM (indexOf schema) = .ok is ∧ rule = ofIndices is := by
  rw [ofSchema]
  cases keyFields.mapM (indexOf schema) with
  | error e => simp [Except.map]
  | ok is => simp [Except.map, eq_comm]

theorem of_schema_error (schema keyFields : List Text) (e : UnknownField) :
    ofSchema schema keyFields = .error e ↔ ∃ before after, keyFields = before ++ e.name :: after ∧
      (∀ name ∈ before, name ∈ schema) ∧ e.name ∉ schema := by
  have passed : ofSchema schema keyFields = .error e ↔
      keyFields.mapM (indexOf schema) = .error e := by
    rw [ofSchema]
    cases keyFields.mapM (indexOf schema) with
    | error fault => simp [Except.map]
    | ok is => simp [Except.map]
  rw [passed, mapM_stop]
  simp only [index_of_error, index_of_known]
  constructor
  · rintro ⟨before, _, after, whole, known, rfl, unknown⟩
    exact ⟨before, after, whole, known, unknown⟩
  · rintro ⟨before, after, whole, known, unknown⟩
    exact ⟨before, e.name, after, whole, known, rfl, unknown⟩

theorem of_schema_known (schema keyFields : List Text) :
    (∃ rule, ofSchema schema keyFields = .ok rule) ↔ ∀ name ∈ keyFields, name ∈ schema := by
  constructor
  · rintro ⟨rule, made⟩
    obtain ⟨is, passed, _⟩ := (of_schema_ok schema keyFields rule).mp made
    have each := ((mapM_passed _ _ _).mp passed).imp fun name i placed =>
      And.intro ((index_of_known schema name).mp ⟨i, placed⟩) placed
    exact ((List.forall₂_and_left _ _).mp each).1
  · intro known
    cases made : ofSchema schema keyFields with
    | ok rule => exact ⟨rule, rfl⟩
    | error e =>
      obtain ⟨before, after, rfl, _, unknown⟩ := (of_schema_error schema keyFields e).mp made
      exact absurd (known e.name (by simp)) unknown

theorem of_indices (is : List Nat) : (ofIndices is).indices = is := by
  match is with
  | [] => rfl
  | [_] => rfl
  | _ :: _ :: _ => rfl

theorem extract_indices (row : List Text) (is : List Nat) : (ofIndices is).extract row =
    if is = [] then Option.none else (is.mapM (value? row)).map [':'].intercalate := by
  match is with
  | [] => rfl
  | [i] =>
    rw [ofIndices, extract, if_neg (List.cons_ne_nil i []), List.mapM_cons]
    cases value? row i with
    | none => rfl
    | some value => simp
  | i :: j :: is =>
    rw [if_neg (List.cons_ne_nil i _)]
    rfl

theorem named_at (schema row : List Text) (same : row.length = schema.length) (name : Text) :
    named? schema row name = (schema.idxOf? name).bind (row[·]?) := by
  induction schema generalizing row with
  | nil => rfl
  | cons first schema ih =>
    cases row with
    | nil => cases same
    | cons value row =>
      have later := ih row (Nat.succ.inj same)
      rw [named?] at later
      rw [named?, List.zip_cons_cons, List.lookup_cons, List.idxOf?_cons]
      by_cases here : name = first
      · simp [here]
      · rw [if_neg (by simpa using Ne.symm here), beq_false_of_ne here, later, Option.bind_map]
        rfl

theorem values_kept (row values : List Text) (is : List Nat)
    (held : List.Forall₂ (fun i value => row[i]? = some value) is values) :
    is.mapM (value? row) = if [] ∈ values then Option.none else some values := by
  induction held with
  | nil => rfl
  | @cons i value is values here _ ih =>
    rw [List.mapM_cons, value?, here, ih]
    cases value with
    | nil => simp
    | cons c value =>
      by_cases empty : [] ∈ values
      · simp [empty]
      · simp [empty, Option.filter]

def keyOf (values : List Text) : Option Text :=
  if values = [] ∨ [] ∈ values then Option.none else some ([':'].intercalate values)

theorem extract_values (row values : List Text) (is : List Nat)
    (held : List.Forall₂ (fun i value => row[i]? = some value) is values) :
    (ofIndices is).extract row = keyOf values := by
  rw [extract_indices, values_kept row values is held, keyOf]
  cases held with
  | nil => rfl
  | @cons i value is values here later =>
    rw [if_neg (List.cons_ne_nil i is)]
    by_cases empty : [] ∈ value :: values
    · rw [if_pos empty, if_pos (.inr empty)]
      rfl
    · rw [if_neg empty, if_neg (by simpa using empty)]
      rfl

theorem key_of_some (values : List Text) (key : Text) : keyOf values = some key ↔
    values ≠ [] ∧ [] ∉ values ∧ key = [':'].intercalate values := by
  unfold keyOf
  by_cases lacking : values = [] ∨ [] ∈ values
  · rw [if_pos lacking]
    grind
  · rw [if_neg lacking, Option.some_inj, eq_comm]
    grind

theorem key_of_injective (values others : List Text) (key key' : Text)
    (apart : ∀ value ∈ values, ':' ∉ value) (apart' : ∀ value ∈ others, ':' ∉ value)
    (made : keyOf values = some key) (made' : keyOf others = some key') :
    key = key' ↔ values = others := by
  obtain ⟨nonempty, _, rfl⟩ := (key_of_some values key).mp made
  obtain ⟨nonempty', _, rfl⟩ := (key_of_some others key').mp made'
  refine ⟨Text.intercalate_injective ':' values others nonempty nonempty' apart apart', ?_⟩
  rintro rfl
  rfl

theorem places_held (schema keyFields row : List Text) (is : List Nat)
    (passed : keyFields.mapM (indexOf schema) = .ok is) (same : row.length = schema.length) :
    ∃ values, keyFields.map (named? schema row) = values.map some ∧
      List.Forall₂ (fun i value => row[i]? = some value) is values := by
  have placed := (mapM_passed _ _ _).mp passed
  induction placed with
  | nil => exact ⟨[], rfl, .nil⟩
  | @cons name i names is here later ih =>
    obtain ⟨values, named, held⟩ := ih ((mapM_passed _ _ _).mpr later)
    have place := (index_of_ok schema name i).mp here
    have within : i < row.length := by
      rw [same]
      exact (List.idxOf?_eq_some_iff.mp place).1
    refine ⟨row[i] :: values, ?_, .cons (List.getElem?_eq_getElem within) held⟩
    rw [List.map_cons, List.map_cons, named, named_at schema row same, place, Option.bind_some,
      List.getElem?_eq_getElem within]

theorem values_same (row other : List Text) (is : List Nat)
    (same : ∀ i ∈ is, other[i]? = row[i]?) : is.mapM (value? other) = is.mapM (value? row) := by
  induction is with
  | nil => rfl
  | cons i is ih =>
    have later := ih fun j member => same j (List.mem_cons_of_mem i member)
    rw [List.mapM_cons, List.mapM_cons, later, value?, value?, same i List.mem_cons_self]

theorem extract_same (rule : KeyRule) (row other : List Text)
    (same : ∀ i ∈ rule.indices, other[i]? = row[i]?) : rule.extract other = rule.extract row := by
  cases rule with
  | none => rfl
  | field i =>
    rw [extract, extract, value?, value?, same i List.mem_cons_self]
  | composite is => rw [extract, extract, values_same row other is same]

-- The key that a rule made from key fields gives a row of the schema.
structure Derives (schema keyFields : List Text) (rule : KeyRule) (row : List Text) : Prop where
  within : ∀ i ∈ rule.indices, i < row.length
  reads : ∀ other : List Text, (∀ i ∈ rule.indices, other[i]? = row[i]?) →
    rule.extract other = rule.extract row
  key : ∃ values, keyFields.map (named? schema row) = values.map some ∧
    rule.extract row = keyOf values

theorem rule_derives (schema keyFields : List Text) (rule : KeyRule)
    (made : ofSchema schema keyFields = .ok rule) (row : List Text)
    (same : row.length = schema.length) : Derives schema keyFields rule row := by
  obtain ⟨is, passed, rfl⟩ := (of_schema_ok schema keyFields rule).mp made
  obtain ⟨values, named, held⟩ := places_held schema keyFields row is passed same
  refine ⟨?_, extract_same (ofIndices is) row, values, named, extract_values row values is held⟩
  rw [of_indices]
  have each := held.imp fun i value here =>
    And.intro (List.getElem?_eq_some_iff.mp here).1 here
  exact ((List.forall₂_and_left _ _).mp each).1

def Plain (schema keyFields row : List Text) : Prop :=
  ∀ name ∈ keyFields, ∀ value ∈ named? schema row name, ':' ∉ value

theorem plain_values (schema keyFields row values : List Text)
    (plain : Plain schema keyFields row)
    (named : keyFields.map (named? schema row) = values.map some) :
    ∀ value ∈ values, ':' ∉ value := by
  intro value member
  have held : some value ∈ keyFields.map (named? schema row) := by
    rw [named]
    exact List.mem_map_of_mem member
  obtain ⟨name, listed, found⟩ := List.mem_map.mp held
  exact plain name listed value found

theorem keys_same_iff (schema keyFields : List Text) (rule : KeyRule)
    (made : ofSchema schema keyFields = .ok rule) (row other : List Text)
    (same : row.length = schema.length) (same' : other.length = schema.length)
    (plain : Plain schema keyFields row) (plain' : Plain schema keyFields other)
    (key key' : Text) (found : rule.extract row = some key)
    (found' : rule.extract other = some key') :
    key = key' ↔ ∀ name ∈ keyFields, named? schema row name = named? schema other name := by
  obtain ⟨values, named, derived⟩ := (rule_derives schema keyFields rule made row same).key
  obtain ⟨others, named', derived'⟩ := (rule_derives schema keyFields rule made other same').key
  rw [key_of_injective values others key key' (plain_values _ _ _ _ plain named)
    (plain_values _ _ _ _ plain' named') (derived.symm.trans found) (derived'.symm.trans found'),
    ← List.map_inj_left, named, named', List.map_inj_right fun _ _ => Option.some.inj]

-- What becomes of key fields under a schema: a fault that names the first one that the schema does
-- not have, or a rule whose keys tell rows apart by their values under the key fields.
structure Resolves (schema keyFields : List Text) : Prop where
  accepted : (∃ rule, ofSchema schema keyFields = .ok rule) ↔ ∀ name ∈ keyFields, name ∈ schema
  refused : ∀ e, ofSchema schema keyFields = .error e ↔
    ∃ before after, keyFields = before ++ e.name :: after ∧ (∀ name ∈ before, name ∈ schema) ∧
      e.name ∉ schema
  reported : ∀ e, ofSchema schema keyFields = .error e →
    (Fault.invalid (.keyField e)).kind = .config ∧ (Fault.invalid (.keyField e)).message =
      "key field '" ++ String.ofList e.name ++ "' is not part of the record schema"
  derived : ∀ rule, ofSchema schema keyFields = .ok rule → ∀ row : List Text,
    row.length = schema.length → Derives schema keyFields rule row
  apart : ∀ rule, ofSchema schema keyFields = .ok rule → ∀ row other : List Text,
    row.length = schema.length → other.length = schema.length → Plain schema keyFields row →
    Plain schema keyFields other → ∀ key key', rule.extract row = some key →
    rule.extract other = some key' →
      (key = key' ↔ ∀ name ∈ keyFields, named? schema row name = named? schema other name)

/-- Key fields are refused at the first unknown name, and keys tell rows apart by the named values.
-/
theorem key_fields_resolve (schema keyFields : List Text) : Resolves schema keyFields where
  accepted := of_schema_known schema keyFields
  refused := of_schema_error schema keyFields
  reported e _ := by
    have told : (Fault.invalid (.keyField e)).message = e.message := rfl
    exact ⟨rfl, told⟩
  derived := rule_derives schema keyFields
  apart := keys_same_iff schema keyFields

example : (ofSchema [['a'], ['b'], ['a']] [['b'], ['a']]).toOption.bind
    (KeyRule.extract [['x'], ['y'], ['z']]) = some ['y', ':', 'x'] := by decide

end KeyRule

end Courier
