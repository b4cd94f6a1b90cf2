import Courier.Proofs.Catalog
import Courier.Proofs.General
import Courier.Settings.Load
import Courier.Text.Lowercase

set_option autoImplicit false

/- What is relied on of a loader, which is not part of this program. How files are found and parsed
   is left to the loader altogether. The premises are that layers are merged name by name with later
   ones over earlier ones (`Layered`), that names of tables come in lower case at every depth and
   other values as they are (`Lowering`), that a variable holds a plain text and its name is a path
   (`FromEnvironment`), that settings are read from tables by the names of sections and fields, with
   what stands where a name is missing (`ByName`), and what texts convert to (`Converts`). -/
namespace Courier

namespace Settings

namespace Value

def isTable : Value → Bool
  | .table _ _ => true
  | _ => false

def at? : List Text → Value → Option Value
  | [], v => some v
  | name :: path, v => (v.entry? name).bind (at? path)

-- A value all of whose tables, down to the lists, have each name once.
inductive Distinct : Value → Prop where
  | scalar (origin : Option Text) (s : Scalar) : Distinct (.scalar origin s)
  | list (origin : Option Text) (vs : List Value) : Distinct (.list origin vs)
  | table (origin : Option Text) (es : List (Text × Value)) (nodup : (es.map Prod.fst).Nodup)
    (each : ∀ e ∈ es, Distinct e.2) : Distinct (.table origin es)

-- A value in which names that are alike in lower case are those of values that are no tables, in a
-- table without tables.
inductive Apart : Value → Prop where
  | leaf (v : Value) (leaf : v.isTable = false) : Apart v
  | flat (origin : Option Text) (es : List (Text × Value))
    (leaves : ∀ e ∈ es, e.2.isTable = false) : Apart (.table origin es)
  | table (origin : Option Text) (es : List (Text × Value))
    (nodup : (es.map fun e => Text.lower e.1).Nodup) (each : ∀ e ∈ es, Apart e.2) :
    Apart (.table origin es)

-- What becomes of a value when `x` is set at a path in it.
structure Sets (path : List Text) (x before after : Value) : Prop where
  here : after.at? path = some x
  apart : ∀ other, ¬ other <+: path → ¬ path <+: other → after.at? other = before.at? other
  above : ∀ other, other <+: path → other ≠ path → ∃ v, after.at? other = some v ∧ v.isTable = true

-- What a value says of a group, in names and not in places.
def Named (v : Value) (g : Setting.Group) : Prop :=
  ∀ x, v.entry? g.name.toList = some x → x.isTable = true

-- Of a group that is said by places nothing stays once one setting of it is said by name, so the
-- others have to be as they are where nothing is said.
def Kept (v : Value) (s : Setting) (c : Settings) : Prop :=
  v.Named s.group ∨ ∀ g : Setting, g.group = s.group → g ≠ s → g.unsaid = some (c.value g)

end Value

-- A name that a path can have in it.
structure Nameable (name : Text) : Prop where
  filled : name ≠ []
  plain : ∀ c ∈ name, c.isAlphanum = true ∨ c = '_' ∨ c = '-'
  low : Text.lower name = name

def dots (path : List Text) : Text := ['.'].intercalate path

def Naming.opening (n : Naming) : Text := Text.lower (n.start ++ n.startSeparator)

def Naming.covers (n : Naming) (name : Text) : Bool := n.opening.isPrefixOf (Text.lower name)

structure Layered {m : Type → Type} (loader : Loader m) : Prop where
  table : ∀ layers, (loader.build layers).isTable = true
  distinct : ∀ layers, (loader.build layers).Distinct
  nothing : ∀ layers, loader.build (layers ++ [[]]) = loader.build layers
  sets : ∀ layers path origin s, path ≠ [] → (∀ name ∈ path, Nameable name) →
    Value.Sets path (.scalar origin s) (loader.build layers)
      (loader.build (layers ++ [[(dots path, .scalar origin s)]]))

structure Lowering {m : Type → Type} (loader : Loader m) (low : Value → Value) : Prop where
  built : ∀ document : Layer, (∀ e ∈ document, '.' ∉ e.1 ∧ '[' ∉ e.1) →
    (Value.table none document).Apart → loader.build [document] = low (.table none document)
  leaf : ∀ v, v.isTable = false → low v = v
  table : ∀ origin es, (Value.table origin es).Apart → (low (.table origin es)).isTable = true
  written : ∀ origin es, (Value.table origin es).Apart → ∀ name x,
    Value.entry? name (low (.table origin es)) = some x →
      ∃ e ∈ es, Text.lower e.1 = name ∧ low e.2 = x
  present : ∀ origin es, (Value.table origin es).Apart → ∀ e ∈ es,
    ∃ x, Value.entry? (Text.lower e.1) (low (.table origin es)) = some x

structure FromEnvironment {m : Type → Type} (loader : Loader m) : Prop where
  nothing : ∀ n, loader.environment n [] = []
  passed : ∀ n env,
    loader.environment n (env.filter fun x => n.covers x.1) = loader.environment n env
  single : ∀ (n : Naming) spelled rest t, Text.lower spelled = n.opening ++ rest →
    ∃ origin, loader.environment n [(spelled, t)] =
      [(Text.replace n.separator ['.'] rest, .scalar origin (.text t))]

structure ByName {m : Type → Type} (loader : Loader m)
    (part : (g : Setting.Group) → Value → Option g.Content)
    (read : (s : Setting) → Value → Option s.Content) : Prop where
  sections : ∀ v c, v.isTable = true → (loader.decode v = .ok c ↔
    ∀ g : Setting.Group, (v.entry? g.name.toList).elim g.unsaid (part g) = some (c.group g))
  fields : ∀ (g : Setting.Group) v (c : Settings), v.isTable = true →
    (part g v = some (c.group g) ↔ ∀ s : Setting, s.group = g →
      (v.entry? s.name.toList).elim s.unsaid (read s) = some (c.value s))

end Settings

namespace Setting.Kind

-- Numbers that are read from texts: those that fit, each from what it is written as.
structure Numeral {α : Type} (fits : α → Prop) (write : α → Text)
    (d : Settings.Value → Option α) : Prop where
  written : ∀ origin a, fits a → d (.scalar origin (.text (write a))) = some a
  within : ∀ origin t a, d (.scalar origin (.text t)) = some a → fits a

-- A table of texts, read text by text.
structure Mapping (d : Settings.Value → Option Attributes) : Prop where
  table : ∀ v m, d v = some m → v.isTable = true
  each : ∃ text : Settings.Value → Option Text,
    (∀ origin t, text (.scalar origin (.text t)) = some t) ∧
      ∀ origin es m, (es.map Prod.fst).Nodup → (d (.table origin es) = some m ↔
        ∀ name, (es.lookup name).map text = m[name]?.map some)

def Converts : (k : Kind) → (Settings.Value → Option k.Content) → Prop
  | text, d => ∀ origin t, d (.scalar origin (.text t)) = some t
  | texts, d => ∀ origin t, d (.scalar origin (.text t)) = none
  | switch, d => ∀ origin, d (.scalar origin (.text "true".toList)) = some true ∧
    d (.scalar origin (.text "false".toList)) = some false
  | count32, d => Numeral count32.Fits Decimal.write d
  | count64, d => Numeral count64.Fits Decimal.write d
  | limit, d =>
    Numeral (fun n => ∃ m ≤ Decimal.max64, n = some m) (Option.elim · [] Decimal.write) d
  | signed32, d => Numeral signed32.Fits Decimal.writeInt d
  | character, d => ∀ origin t c, d (.scalar origin (.text t)) = some c ↔ t = [c]
  | mode, d => ∀ origin, d (.scalar origin (.text "all".toList)) = some .all ∧
    d (.scalar origin (.text "minimal".toList)) = some .minimal ∧
    d (.scalar origin (.text "never".toList)) = some .never
  | entries, d => Mapping d

end Setting.Kind

namespace Settings

variable {m : Type → Type}

namespace Loader

variable {loader : Loader m}

theorem settings_iff (layers : List Layer) (s : Settings) : loader.settings layers = .ok s ↔
    loader.decode (loader.build layers) = .ok s ∧ s.validate = .ok () := by
  have plain : loader.settings layers = (do
      let s ← (loader.decode (loader.build layers)).mapError .refused
      s.validate.mapError .invalid
      return s) := rfl
  rw [plain]
  constructor
  · intro read
    obtain ⟨settings, decoded, rest⟩ := bind_ok _ _ _ read
    obtain ⟨_, checked, done⟩ := bind_ok _ _ _ rest
    cases done
    exact ⟨unmapped _ _ _ decoded, unmapped _ _ _ checked⟩
  · rintro ⟨decoded, valid⟩
    rw [decoded]
    change (s.validate.mapError LoadFault.invalid >>= fun _ => Except.ok s) = .ok s
    rw [valid]
    rfl

theorem settings_nothing (layered : Layered loader) (document : Layer) :
    loader.settings [document, []] = loader.settings [document] := by
  have built := layered.nothing [document]
  rw [List.singleton_append] at built
  rw [settings, built, settings]

theorem load_document [Monad m] [LawfulMonad m] (env : List (Text × Text)) (path : Bytes)
    (document : Layer) (found : loader.document path = pure document) : loader.load env path =
      ExceptT.mk (pure (loader.settings [document, loader.environment naming env])) := by
  rw [load, found, adapt_pure, pure_bind]
  rfl

end Loader

variable {loader : Loader m}

theorem variables_silent (environment : FromEnvironment loader) (n : Naming)
    (env : List (Text × Text)) (silent : ∀ x ∈ env, n.covers x.1 = false) :
    loader.environment n env = [] := by
  have none : env.filter (fun x => n.covers x.1) = [] := by
    simpa [List.filter_eq_nil_iff] using silent
  rw [← environment.passed, none, environment.nothing]

theorem variables_single (environment : FromEnvironment loader) (n : Naming)
    (before after : List (Text × Text)) (spelled t rest : Text)
    (named : Text.lower spelled = n.opening ++ rest)
    (silent : ∀ x ∈ before ++ after, n.covers x.1 = false) :
    ∃ origin, loader.environment n (before ++ (spelled, t) :: after) =
      [(Text.replace n.separator ['.'] rest, .scalar origin (.text t))] := by
  have none : ∀ es : List (Text × Text), (∀ x ∈ es, x ∈ before ++ after) →
      es.filter (fun x => n.covers x.1) = [] := fun es within =>
    List.filter_eq_nil_iff.mpr fun x member => by simp [silent x (within x member)]
  have covered : n.covers spelled = true := by
    rw [Naming.covers, named, List.isPrefixOf_iff_prefix]
    exact List.prefix_append _ _
  have alone : (before ++ (spelled, t) :: after).filter (fun x => n.covers x.1) =
      [(spelled, t)] := by
    rw [List.filter_append, none before fun x => List.mem_append_left after,
      List.nil_append, List.filter_cons, if_pos covered,
      none after fun x => List.mem_append_right before]
  rw [← environment.passed, alone]
  exact environment.single n spelled rest t named

namespace Value

theorem at_single (name : Text) (v : Value) : v.at? [name] = v.entry? name := by
  rw [at?]
  cases v.entry? name <;> rfl

theorem at_append (path : List Text) (name : Text) (v : Value) :
    v.at? (path ++ [name]) = (v.at? path).bind (Value.entry? name) := by
  induction path generalizing v with
  | nil => exact at_single name v
  | cons first path ih =>
    rw [List.cons_append, at?, at?]
    cases v.entry? first with
    | none => rfl
    | some inner => exact ih inner

theorem unnamed_at (v : Value) (s : Setting) (unnamed : ¬ v.Named s.group) :
    v.at? s.path = none := by
  simp only [Named, not_forall] at unnamed
  obtain ⟨x, found, bare⟩ := unnamed
  rw [Setting.path, at?, found, Option.bind_some, at_single]
  cases x with
  | scalar origin t => rfl
  | list origin vs => rfl
  | table origin es => exact absurd rfl bare

theorem distinct_entry (v w : Value) (name : Text) (distinct : v.Distinct)
    (found : v.entry? name = some w) : w.Distinct := by
  cases distinct with
  | scalar origin s => cases found
  | list origin vs => cases found
  | table origin es nodup each =>
    obtain ⟨before, after, split, _⟩ := List.lookup_eq_some_iff.mp found
    have listed : (name, w) ∈ (Value.table origin es).entries := by
      rw [split]
      simp
    exact each (name, w) listed

theorem distinct_at (path : List Text) (v w : Value) (distinct : v.Distinct)
    (found : v.at? path = some w) : w.Distinct := by
  induction path generalizing v with
  | nil =>
    cases found
    exact distinct
  | cons name path ih =>
    obtain ⟨inner, entry, below⟩ := Option.bind_eq_some_iff.mp found
    exact ih inner (distinct_entry v inner name distinct entry) below

end Value

section

variable {part : (g : Setting.Group) → Value → Option g.Content}
  {read : (s : Setting) → Value → Option s.Content} (byName : ByName loader part read)

include byName

theorem section_said (v : Value) (g : Setting.Group) (c : Settings) (named : v.Named g) :
    (v.entry? g.name.toList).elim g.unsaid (part g) = some (c.group g) ↔
      ∀ s : Setting, s.group = g → (v.at? s.path).elim s.unsaid (read s) = some (c.value s) := by
  have inside : ∀ s : Setting, s.group = g →
      v.at? s.path = (v.entry? g.name.toList).bind (Value.entry? s.name.toList) := by
    rintro s rfl
    rw [Setting.path, Value.at?]
    exact congrArg _ (funext fun x => Value.at_single _ x)
  cases found : v.entry? g.name.toList with
  | none =>
    refine (unsaid_group c g).trans (forall₂_congr fun s same => ?_)
    rw [inside s same, found]
    rfl
  | some x =>
    refine (byName.fields g x c (named x found)).trans (forall₂_congr fun s same => ?_)
    rw [inside s same, found]
    rfl

theorem decode_said (v : Value) (s : Setting) (c : Settings) (table : v.isTable = true)
    (named : v.Named s.group) (decoded : loader.decode v = .ok c) :
    (v.at? s.path).elim s.unsaid (read s) = some (c.value s) := by
  have sections := (byName.sections v c table).mp decoded s.group
  exact (section_said byName v s.group c named).mp sections s rfl

-- Values that say all settings but one alike.
structure AlikeBut (s : Setting) (v w : Value) : Prop where
  left : v.isTable = true
  right : w.isTable = true
  named : v.Named s.group
  groups : ∀ g : Setting.Group, g ≠ s.group → v.entry? g.name.toList = w.entry? g.name.toList
  fields : ∀ g : Setting, g.group = s.group → g ≠ s → v.at? g.path = w.at? g.path

theorem decode_change (v w : Value) (s : Setting) (a : s.Content) (c : Settings)
    (alike : AlikeBut s v w) (decoded : loader.decode w = .ok c) :
    loader.decode v = .ok (c.change s a) ↔
      (v.at? s.path).elim s.unsaid (read s) = some a ∧ w.Kept s c := by
  constructor
  · intro changed
    have said : ∀ g : Setting, g.group = s.group →
        (v.at? g.path).elim g.unsaid (read g) = some ((c.change s a).value g) := fun g same =>
      decode_said byName v g _ alike.left (same ▸ alike.named) changed
    refine ⟨by rw [said s rfl, value_change], ?_⟩
    by_cases named : w.Named s.group
    · exact .inl named
    · refine .inr fun g same other => ?_
      have own := said g same
      rwa [alike.fields g same other, Value.unnamed_at w g (same ▸ named),
        value_other c s g a other] at own
  · rintro ⟨said, kept⟩
    refine (byName.sections v _ alike.left).mpr fun g => ?_
    have before := (byName.sections w c alike.right).mp decoded g
    by_cases same : g = s.group
    · subst same
      refine (section_said byName v s.group _ alike.named).mpr fun g group => ?_
      by_cases here : g = s
      · subst here
        rw [said, value_change]
      · rw [alike.fields g group here, value_other c s g a here]
        rcases kept with named | unsaid
        · exact (section_said byName w s.group c named).mp before g group
        · by_cases named : w.Named s.group
          · exact (section_said byName w s.group c named).mp before g group
          · rw [Value.unnamed_at w g (group ▸ named)]
            exact unsaid g group here
    · rw [alike.groups g same, group_other c s a g same]
      exact before

end

end Settings

end Courier
