import Courier.Proofs.Loaders
import Courier.Settings.Sources
import Mathlib.Data.List.Induction
import Mathlib.Data.List.TakeDrop

set_option autoImplicit false

namespace Courier.Settings

theorem lookup_first (n name : Text) (v : Value) (es : List (Text × Value)) :
    ((name, v) :: es).lookup n = if n = name then some v else es.lookup n := by
  rw [List.lookup_cons]
  by_cases same : n = name
  · rw [if_pos same, beq_iff_eq.mpr same]
  · rw [if_neg same, beq_eq_false_iff_ne.mpr same]

theorem lookup_set (name n : Text) (v : Value) (es : List (Text × Value)) :
    (setEntry name v es).lookup n = if n = name then some v else es.lookup n := by
  induction es with
  | nil => exact lookup_first n name v []
  | cons e es ih =>
    obtain ⟨first, w⟩ := e
    rw [setEntry]
    by_cases here : first = name
    · rw [if_pos (beq_iff_eq.mpr here), lookup_first, lookup_first, here]
      by_cases same : n = name
      · rw [if_pos same, if_pos same]
      · rw [if_neg same, if_neg same, if_neg same]
    · rw [if_neg (by simpa using here), lookup_first, lookup_first, ih]
      by_cases same : n = first
      · rw [if_pos same, if_neg (by rwa [same]), if_pos same]
      · rw [if_neg same, if_neg same]

theorem set_member (name : Text) (v : Value) (es : List (Text × Value)) :
    ∀ e ∈ setEntry name v es, e = (name, v) ∨ e ∈ es := by
  induction es with
  | nil => exact fun e member => .inl (List.mem_singleton.mp member)
  | cons first es ih =>
    intro e member
    rw [setEntry] at member
    by_cases here : first.1 = name
    · rw [if_pos (beq_iff_eq.mpr here), here] at member
      exact (List.mem_cons.mp member).imp_right (List.mem_cons_of_mem _)
    · rw [if_neg (by simpa using here)] at member
      rcases List.mem_cons.mp member with rfl | later
      · exact .inr List.mem_cons_self
      · exact (ih e later).imp_right (List.mem_cons_of_mem _)

theorem set_names (name n : Text) (v : Value) (es : List (Text × Value)) :
    n ∈ (setEntry name v es).map Prod.fst ↔ n = name ∨ n ∈ es.map Prod.fst := by
  induction es with
  | nil => simp [setEntry]
  | cons first es ih =>
    rw [setEntry]
    by_cases here : first.1 = name
    · rw [if_pos (beq_iff_eq.mpr here)]
      simp [here]
    · rw [if_neg (by simpa using here), List.map_cons, List.mem_cons, ih, List.map_cons,
        List.mem_cons]
      exact or_left_comm

theorem set_nodup (name : Text) (v : Value) (es : List (Text × Value))
    (nodup : (es.map Prod.fst).Nodup) : ((setEntry name v es).map Prod.fst).Nodup := by
  induction es with
  | nil => simp [setEntry]
  | cons first es ih =>
    obtain ⟨fresh, rest⟩ := List.nodup_cons.mp nodup
    rw [setEntry]
    by_cases here : first.1 = name
    · rw [if_pos (beq_iff_eq.mpr here)]
      exact nodup
    · rw [if_neg (by simpa using here)]
      refine List.nodup_cons.mpr ⟨fun member => ?_, ih rest⟩
      rcases (set_names name first.1 v es).mp member with same | later
      · exact here same
      · exact fresh later

namespace Value

theorem with_table (es : List (Text × Value)) (v : Value) : (v.withEntries es).isTable = true := by
  cases v <;> rfl

theorem with_entries (es : List (Text × Value)) (v : Value) :
    ∃ origin, v.withEntries es = .table origin es := by
  cases v <;> exact ⟨_, rfl⟩

theorem entry_with (n : Text) (es : List (Text × Value)) (v : Value) :
    Value.entry? n (v.withEntries es) = es.lookup n := by
  cases v <;> rfl

def merged (old : Option Value) : Value → Value
  | .table _ es => putAll (old.getD (.table none [])) es
  | v => v

theorem put_merged (name : Text) (target v : Value) :
    put name target v = target.withEntries (setEntry (Text.lower name)
      (merged (target.entry? (Text.lower name)) v) target.entries) := by
  cases v <;> rfl

theorem entry_put (name n : Text) (target v : Value) :
    Value.entry? n (put name target v) =
      if n = Text.lower name then some (merged (target.entry? n) v) else target.entry? n := by
  rw [put_merged, entry_with, lookup_set]
  by_cases same : n = Text.lower name
  · rw [if_pos same, if_pos same, same]
  · rw [if_neg same, if_neg same, entry?]

theorem entry_below (v : Value) (top n : Text) (next : Step) (steps : List Step) (target : Value) :
    Value.entry? n (putAt v (.name top) (next :: steps) target) =
      if n = top then some (putAt v next steps ((target.entry? top).getD nothing))
      else target.entry? n := by
  rw [putAt, alter, entry_with, lookup_set]
  by_cases same : n = top
  · rw [if_pos same, if_pos same]
  · rw [if_neg same, if_neg same, entry?]

theorem putAt_table (v : Value) (top : Text) (steps : List Step) (target : Value) :
    (putAt v (.name top) steps target).isTable = true := by
  cases steps with
  | nil =>
    rw [putAt, put_merged]
    exact with_table _ target
  | cons next steps => exact with_table _ target

theorem keep_putAll {a : Text} (es : List (Text × Value)) (target : Value)
    (apart : ∀ e ∈ es, Text.lower e.1 ≠ a) :
    Value.entry? a (putAll target es) = target.entry? a := by
  induction es generalizing target with
  | nil => rfl
  | cons e es ih =>
    have first := apart e List.mem_cons_self
    rw [putAll, ih _ fun other member => apart other (List.mem_cons_of_mem e member), entry_put,
      if_neg (Ne.symm first)]

theorem putAll_append (target : Value) (es more : List (Text × Value)) :
    putAll target (es ++ more) = putAll (putAll target es) more := by
  induction es generalizing target with
  | nil => rfl
  | cons e es ih => exact ih (put e.1 target e.2)

theorem distinct_entries (v : Value) (distinct : v.Distinct) :
    (v.entries.map Prod.fst).Nodup ∧ ∀ e ∈ v.entries, e.2.Distinct := by
  cases distinct with
  | scalar _ _ => exact ⟨List.nodup_nil, by simp [entries]⟩
  | list _ _ => exact ⟨List.nodup_nil, by simp [entries]⟩
  | table _ es nodup each => exact ⟨nodup, each⟩

theorem distinct_default (v d : Value) (name : Text) (distinct : v.Distinct)
    (default : d.Distinct) : ((v.entry? name).getD d).Distinct := by
  cases found : v.entry? name with
  | none => exact default
  | some w => exact distinct_entry v w name distinct found

theorem distinct_set (v w : Value) (name : Text) (distinct : v.Distinct) (own : w.Distinct) :
    (v.withEntries (setEntry name w v.entries)).Distinct := by
  obtain ⟨nodup, each⟩ := distinct_entries v distinct
  obtain ⟨origin, filled⟩ := with_entries (setEntry name w v.entries) v
  rw [filled]
  refine .table origin _ (set_nodup name w _ nodup) fun e member => ?_
  rcases set_member name w _ e member with rfl | earlier
  · exact own
  · exact each e earlier

mutual

theorem distinct_put (name : Text) (target : Value) (distinct : target.Distinct) :
    (v : Value) → (put name target v).Distinct
  | .scalar o s => distinct_set target _ _ distinct (.scalar o s)
  | .list o vs => distinct_set target _ _ distinct (.list o vs)
  | .table _ es =>
    have inner := distinct_default target _ (Text.lower name) distinct
      (.table none [] List.nodup_nil (by simp))
    distinct_set target _ _ distinct (distinct_putAll _ inner es)

theorem distinct_putAll (target : Value) (distinct : target.Distinct) :
    (es : List (Text × Value)) → (putAll target es).Distinct
  | [] => distinct
  | (name, v) :: rest => distinct_putAll _ (distinct_put name target distinct v) rest

end

theorem distinct_index (f : Value → Value) (i : Int) (target : Value) :
    (alter f (.index i) target).Distinct := by
  rw [alter]
  split <;> cases target <;> exact .list _ _

theorem distinct_putAt (x : Value) (step : Step) (steps : List Step) (target : Value)
    (distinct : target.Distinct) : (putAt x step steps target).Distinct := by
  induction steps generalizing step target with
  | nil =>
    cases step with
    | name n => exact distinct_put n target distinct x
    | index i => exact distinct_index _ i target
  | cons next steps ih =>
    cases step with
    | name n =>
      have inner := distinct_default target nothing n distinct (.scalar _ _)
      exact distinct_set target _ n distinct (ih next _ inner)
    | index i => exact distinct_index _ i target

theorem build_append (layers : List Layer) (layer : Layer) :
    build (layers ++ [layer]) = layer.foldl set (build layers) := by
  rw [build, List.foldl_append]
  rfl

theorem fold_set (p : Value → Prop) (kept : ∀ v e, p v → p (v.set e)) (layer : Layer) (v : Value)
    (start : p v) : p (layer.foldl set v) := by
  induction layer generalizing v with
  | nil => exact start
  | cons e layer ih => exact ih _ (kept v e start)

theorem build_keeps (p : Value → Prop) (start : p (.table none []))
    (kept : ∀ v e, p v → p (v.set e)) (layers : List Layer) : p (build layers) := by
  induction layers using List.reverseRecOn with
  | nil => exact start
  | append_singleton layers layer ih =>
    rw [build_append]
    exact fold_set p kept layer _ ih

theorem sets_below (x : Value) (name : Text) (path : List Text) (inner target after : Value)
    (table : after.isTable = true)
    (entry : ∀ n, after.entry? n = if n = name then some inner else target.entry? n)
    (below : Sets path x ((target.entry? name).getD nothing) inner) :
    Sets (name :: path) x target after := by
  constructor
  · rw [at?, entry, if_pos rfl]
    exact below.here
  · intro other short long
    cases other with
    | nil => exact absurd List.nil_prefix short
    | cons n rest =>
      rw [at?, at?, entry]
      by_cases same : n = name
      · subst same
        rw [List.prefix_cons_inj] at short long
        rw [if_pos rfl, Option.bind_some, below.apart rest short long]
        cases rest with
        | nil => exact absurd List.nil_prefix short
        | cons _ _ => cases target.entry? n <;> rfl
      · rw [if_neg same]
  · intro other short apart
    cases other with
    | nil => exact ⟨after, rfl, table⟩
    | cons n rest =>
      obtain ⟨rfl, inside⟩ := List.cons_prefix_cons.mp short
      rw [at?, entry, if_pos rfl]
      exact below.above rest inside fun same => apart (by rw [same])

theorem sets_here (x target : Value) : Sets [] x target x where
  here := rfl
  apart _ _ long := absurd List.nil_prefix long
  above _ short apart := absurd (List.prefix_nil.mp short) apart

theorem putAt_sets (origin : Option Text) (s : Scalar) (name : Text) (path : List Text)
    (target : Value) (low : ∀ n ∈ name :: path, Text.lower n = n) :
    Sets (name :: path) (.scalar origin s) target
      (putAt (.scalar origin s) (.name name) (path.map .name) target) := by
  induction path generalizing name target with
  | nil =>
    refine sets_below _ name [] _ target _ (putAt_table _ _ _ _) (fun n => ?_) (sets_here _ _)
    rw [List.map_nil, putAt, entry_put, low name List.mem_cons_self]
    rfl
  | cons next path ih =>
    have rest := ih next ((target.entry? name).getD nothing)
      fun n member => low n (List.mem_cons_of_mem _ member)
    refine sets_below _ name _ _ target _ (putAt_table _ _ _ _) (fun n => ?_) rest
    rw [List.map_cons, entry_below]

end Value

namespace Path

theorem alphanum_plain (c : Char) (plain : c.isAlphanum = true ∨ c = '_' ∨ c = '-') :
    isPlain c = true := by
  rcases plain with letter | rfl | rfl
  · have sorts : ((c.isUpper || c.isLower) || c.isDigit) = true := letter
    rw [Bool.or_eq_true, Bool.or_eq_true] at sorts
    rcases sorts with (upper | lower) | digit
    · have bounds : 'A' ≤ c ∧ c ≤ 'Z' := of_decide_eq_true upper
      have within : ('A' ≤ c && c ≤ 'Z') = true := by simpa using bounds
      simp only [isPlain, within, Bool.or_true, Bool.true_or]
    · have within : ('a' ≤ c && c ≤ 'z') = true := lower
      simp only [isPlain, within, Bool.true_or]
    · have within : ('0' ≤ c && c ≤ '9') = true := digit
      simp only [isPlain, within, Bool.or_true, Bool.true_or]
  · rfl
  · rfl

def trail (names : List Text) : Text := names.flatMap ('.' :: ·)

theorem dots_trail (name : Text) (names : List Text) :
    dots (name :: names) = name ++ trail names := by
  induction names generalizing name with
  | nil => simp [dots, trail]
  | cons next names ih =>
    have rest := ih next
    rw [dots] at rest ⊢
    rw [List.intercalate_cons_cons, rest]
    simp [trail]

theorem span_name (name : Text) (names : List Text) (plain : ∀ c ∈ name, isPlain c = true) :
    (name ++ trail names).span isPlain = (name, trail names) := by
  have stop : (trail names).takeWhile isPlain = [] ∧
      (trail names).dropWhile isPlain = trail names := by
    cases names with
    | nil => exact ⟨rfl, rfl⟩
    | cons next names => exact ⟨rfl, rfl⟩
  rw [List.span_eq_takeWhile_dropWhile, List.takeWhile_append_of_pos plain,
    List.dropWhile_append_of_pos plain, stop.1, stop.2, List.append_nil]

theorem steps_trail (names : List Text) (each : ∀ name ∈ names, Nameable name) (fuel : Nat)
    (enough : names.length ≤ fuel) : steps? fuel (trail names) = some (names.map .name) := by
  induction names generalizing fuel with
  | nil => cases fuel <;> rfl
  | cons name names ih =>
    obtain ⟨filled, plain, _⟩ := each name List.mem_cons_self
    cases fuel with
    | zero => cases enough
    | succ fuel =>
      have rest := ih (fun n member => each n (List.mem_cons_of_mem _ member)) fuel
        (Nat.le_of_succ_le_succ enough)
      have parted := span_name name names fun c member => alphanum_plain c (plain c member)
      have opened : trail (name :: names) = '.' :: (name ++ trail names) := rfl
      rw [opened, steps?, parted]
      cases name with
      | nil => exact absurd rfl filled
      | cons c letters =>
        dsimp only
        rw [rest]
        rfl

theorem trail_long (names : List Text) : names.length ≤ (trail names).length := by
  induction names with
  | nil => exact Nat.le_refl 0
  | cons name names ih =>
    have opened : trail (name :: names) = '.' :: (name ++ trail names) := rfl
    rw [opened, List.length_cons, List.length_cons, List.length_append]
    omega

theorem of_text_dots (name : Text) (names : List Text) (each : ∀ n ∈ name :: names, Nameable n) :
    ofText (dots (name :: names)) = ⟨name, names.map .name⟩ := by
  obtain ⟨filled, plain, _⟩ := each name List.mem_cons_self
  have parted := span_name name names fun c member => alphanum_plain c (plain c member)
  have steps := steps_trail names (fun n member => each n (List.mem_cons_of_mem _ member)) _
    (trail_long names)
  rw [dots_trail, ofText, parted]
  cases name with
  | nil => exact absurd rfl filled
  | cons c letters =>
    dsimp only
    rw [steps]

theorem of_text_undotted (name : Text) (undotted : '.' ∉ name ∧ '[' ∉ name) :
    ofText name = ⟨name, []⟩ := by
  rw [ofText, List.span_eq_takeWhile_dropWhile]
  have whole := List.takeWhile_append_dropWhile (p := isPlain) (l := name)
  have stop := List.head?_dropWhile_not isPlain name
  generalize name.takeWhile isPlain = top at whole ⊢
  generalize name.dropWhile isPlain = rest at whole stop ⊢
  cases top with
  | nil => rfl
  | cons c letters =>
    cases rest with
    | nil =>
      rw [List.append_nil] at whole
      subst whole
      rfl
    | cons d more =>
      have member : d ∈ name := by
        rw [← whole]
        simp
      have dot : d ≠ '.' := fun same => undotted.1 (same ▸ member)
      have bracket : d ≠ '[' := fun same => undotted.2 (same ▸ member)
      simp [steps?, dot, bracket]

end Path

namespace Value

theorem fold_undotted (document : Layer) (target : Value)
    (undotted : ∀ e ∈ document, '.' ∉ e.1 ∧ '[' ∉ e.1) :
    document.foldl set target = putAll target document := by
  induction document generalizing target with
  | nil => rfl
  | cons e document ih =>
    have path := Path.of_text_undotted e.1 (undotted e List.mem_cons_self)
    rw [List.foldl_cons, ih _ fun other member => undotted other (List.mem_cons_of_mem e member),
      set, path]
    rfl

theorem putAll_table (es : Layer) (target : Value) (table : target.isTable = true) :
    (putAll target es).isTable = true := by
  induction es generalizing target with
  | nil => exact table
  | cons e es ih => exact ih _ (putAt_table e.2 e.1 [] target)

theorem apart_pairwise {origin : Option Text} {es : Layer} (apart : (Value.table origin es).Apart) :
    es.Pairwise fun a b => b.2.isTable = true → Text.lower a.1 ≠ Text.lower b.1 := by
  cases apart with
  | leaf _ leaf => cases leaf
  | flat _ _ leaves =>
    refine List.pairwise_of_forall_mem_list fun a _ b member table => ?_
    rw [leaves b member] at table
    cases table
  | table _ _ nodup _ =>
    refine (List.pairwise_map.mp nodup).imp ?_
    intro a b apart _
    exact apart

theorem putAll_concat (es : Layer) (e : Text × Value)
    (apart : e.2.isTable = true → ∀ a ∈ es, Text.lower a.1 ≠ Text.lower e.1) (name : Text) :
    Value.entry? name (putAll (.table none []) (es ++ [e])) =
      if name = Text.lower e.1 then some (merged none e.2)
      else Value.entry? name (putAll (.table none []) es) := by
  have fresh : merged (Value.entry? (Text.lower e.1) (putAll (.table none []) es)) e.2 =
      merged none e.2 := by
    cases value : e.2 with
    | table origin inner =>
      rw [keep_putAll es _ (apart (by rw [value]; rfl))]
      rfl
    | _ => rfl
  rw [putAll_append, putAll, putAll, entry_put]
  by_cases here : name = Text.lower e.1
  · rw [if_pos here, if_pos here, here, fresh]
  · rw [if_neg here, if_neg here]

theorem putAll_entry (es : Layer) (apart : es.Pairwise fun a b => b.2.isTable = true →
    Text.lower a.1 ≠ Text.lower b.1) (name : Text) :
    (∀ x, Value.entry? name (putAll (.table none []) es) = some x →
      ∃ e ∈ es, Text.lower e.1 = name ∧ merged none e.2 = x) ∧
      ((∃ e ∈ es, Text.lower e.1 = name) →
        ∃ x, Value.entry? name (putAll (.table none []) es) = some x) := by
  induction es using List.reverseRecOn with
  | nil =>
    constructor
    · intro x never
      cases never
    · rintro ⟨_, never, _⟩
      cases never
  | append_singleton es e ih =>
    obtain ⟨earlier, _, last⟩ := List.pairwise_append.mp apart
    obtain ⟨written, present⟩ := ih earlier
    rw [putAll_concat es e (fun table a member => last a member e (by simp) table) name]
    by_cases here : name = Text.lower e.1
    · rw [if_pos here]
      exact ⟨fun x same => ⟨e, by simp, here.symm, Option.some.inj same⟩, fun _ => ⟨_, rfl⟩⟩
    · rw [if_neg here]
      refine ⟨fun x found => ?_, fun ⟨other, member, same⟩ => ?_⟩
      · obtain ⟨other, member, same⟩ := written x found
        exact ⟨other, List.mem_append_left _ member, same⟩
      · rcases List.mem_append.mp member with before | last
        · exact present ⟨other, before, same⟩
        · cases List.mem_singleton.mp last
          exact absurd same.symm here

end Value

namespace Loader

variable {m : Type → Type} [Monad m] (known : List Notation) (store : Files.Store m)

theorem standard_layered : Layered (standard known store) where
  table layers := Value.build_keeps (·.isTable = true) rfl
    (fun v e _ => Value.putAt_table e.2 _ _ v) layers
  distinct layers := Value.build_keeps Value.Distinct (.table none [] List.nodup_nil (by simp))
    (fun v e distinct => Value.distinct_putAt e.2 _ _ v distinct) layers
  nothing layers := Value.build_append layers []
  sets layers path origin s filled each := by
    cases path with
    | nil => exact absurd rfl filled
    | cons name names =>
      have built : Value.build (layers ++ [[(dots (name :: names), .scalar origin s)]]) =
          Value.putAt (.scalar origin s) (.name name) (names.map .name) (Value.build layers) := by
        rw [Value.build_append, List.foldl_cons, List.foldl_nil, Value.set,
          Path.of_text_dots name names each]
      change Value.Sets _ _ (Value.build layers) (Value.build _)
      rw [built]
      exact Value.putAt_sets origin s name names _ fun n member => (each n member).low

theorem standard_lowering : Lowering (standard known store) (Value.merged none) where
  built document undotted _ := by
    change Value.build [document] = Value.putAll (.table none []) document
    rw [Value.build, List.foldl_cons, List.foldl_nil]
    exact Value.fold_undotted document _ undotted
  leaf v leaf := by
    cases v with
    | table _ _ => cases leaf
    | _ => rfl
  table _ es _ := Value.putAll_table es _ rfl
  written _ es apart name x := (Value.putAll_entry es (Value.apart_pairwise apart) name).1 x
  present _ es apart e member :=
    (Value.putAll_entry es (Value.apart_pairwise apart) _).2 ⟨e, member, rfl⟩

theorem standard_environment : FromEnvironment (standard known store) where
  nothing _ := rfl
  passed n env := by
    change ofEnvironment n _ = ofEnvironment n env
    rw [ofEnvironment, ofEnvironment, List.filterMap_filter]
    refine List.filterMap_congr fun (name, value) _ => ?_
    dsimp only
    by_cases covered : n.covers name = true
    · exact if_pos covered
    · rw [if_neg covered]
      rw [Naming.covers, Naming.opening, ← List.isSome_isPrefixOf?_eq_isPrefixOf,
        Option.not_isSome_iff_eq_none] at covered
      rw [ofVariable?, covered]
      rfl
  single n spelled rest t named := by
    refine ⟨some "the environment".toList, ?_⟩
    change ofEnvironment n _ = _
    have counts : ofVariable? n spelled t = some (Text.replace n.separator ['.'] rest,
        .scalar (some "the environment".toList) (.text t)) := by
      rw [ofVariable?, named, Naming.opening, List.isPrefixOf?_eq_some_iff_append_eq.mpr rfl]
      rfl
    simp [ofEnvironment, counts]

theorem standard_document [LawfulMonad m] (path found : Bytes) (n : Notation) (content : Bytes)
    (layer : Layer) (located : find known store path = pure (found, n))
    (stored : store.read found = pure content)
    (written : layerOf (Utf8.lossy found) n content = .ok layer) :
    (standard known store).document path = pure layer := by
  have read : readLayer known store path = pure layer := by
    rw [readLayer, located, pure_bind]
    dsimp only
    rw [stored, adapt_pure, pure_bind, written]
    rfl
  change (readLayer known store path).adapt SourceFault.message = _
  rw [read, adapt_pure]

end Loader

end Courier.Settings
