import Courier.Record.Fields
import Courier.Record.Writer
import Mathlib.Data.List.Forall2

set_option autoImplicit false

namespace Courier.Text

theorem trim_subset (t : Text) : ∀ c ∈ trim t, c ∈ t := by
  intro c member
  rw [trim, List.mem_reverse] at member
  have below := (List.dropWhile_sublist _).subset member
  rw [List.mem_reverse] at below
  exact (List.dropWhile_sublist _).subset below

theorem mem_between (d : Char) (parts : List Text) (t : Text)
    (member : t ∈ parts.intersperse [d]) : t = [d] ∨ t ∈ parts := by
  obtain ⟨i, inside, rfl⟩ := List.getElem_of_mem member
  rw [List.getElem_intersperse]
  split
  · exact .inr (List.getElem_mem _)
  · exact .inl rfl

end Courier.Text

namespace Courier.Fields

variable {d : Char} {trim : Bool}

def State.follow (done : List Text) (s : State) : State :=
  { s with complete := s.complete ++ done }

theorem outside_follow (done : List Text) (s : State) (c : Char) :
    outside d trim (s.follow done) c = (outside d trim s c).follow done := by
  unfold outside
  rw [apply_ite (State.follow done), apply_ite (State.follow done), apply_ite (State.follow done)]
  rfl

theorem step_follow (done : List Text) (s : State) (c : Char) :
    step d trim (s.follow done) c = (step d trim s c).follow done := by
  obtain ⟨complete, place, field⟩ := s
  cases place with
  | bare => exact outside_follow done _ c
  | after => exact outside_follow done _ c
  | inside =>
    unfold step
    rw [apply_ite (State.follow done)]
    rfl
  | quote =>
    unfold step
    rw [apply_ite (State.follow done), ← outside_follow]
    rfl

theorem fold_follow (done : List Text) (s : State) (line : Text) :
    line.foldl (step d trim) (s.follow done) = (line.foldl (step d trim) s).follow done := by
  induction line generalizing s with
  | nil => rfl
  | cons c line ih => rw [List.foldl_cons, List.foldl_cons, step_follow, ih]

theorem finish_follow (done : List Text) (s : State) :
    (s.follow done).finish? trim = (s.finish? trim).map (done.reverse ++ ·) := by
  change (if (s.place == .inside) = true then none
    else some (s.close trim :: (s.complete ++ done)).reverse) = _
  unfold State.finish?
  by_cases inside : (s.place == .inside) = true
  · rw [if_pos inside, if_pos inside]
    rfl
  · rw [if_neg inside, if_neg inside, Option.map_some, List.reverse_cons, List.reverse_cons,
      List.reverse_append, List.append_assoc]

theorem finish_iff (s : State) (fields : List Text) : s.finish? trim = some fields ↔
    s.place ≠ .inside ∧ fields = (s.close trim :: s.complete).reverse := by
  unfold State.finish?
  by_cases inside : s.place = .inside
  · simp [inside]
  · rw [if_neg (by simpa using inside), Option.some_inj]
    exact ⟨fun same => ⟨inside, same.symm⟩, fun ⟨_, same⟩ => same.symm⟩

theorem step_unquoted (s : State) (c : Char) (same : d = '"') (bare : s.place = .bare) :
    (step d trim s c).place = .bare := by
  subst same
  obtain ⟨complete, place, field⟩ := s
  subst bare
  by_cases delimiter : c = '"'
  · simp [step, outside, delimiter]
  · simp [step, outside, delimiter]

theorem fold_unquoted (s : State) (line : Text) (same : d = '"') (bare : s.place = .bare) :
    (line.foldl (step d trim) s).place = .bare := by
  induction line generalizing s with
  | nil => exact bare
  | cons c line ih => exact ih (step d trim s c) (step_unquoted s c same bare)

theorem step_delimiter (s : State) (outer : s.place ≠ .inside)
    (unquoted : d = '"' → s.place = .bare) :
    step d trim s d = State.follow (s.close trim :: s.complete) {} := by
  obtain ⟨complete, place, field⟩ := s
  cases place with
  | inside => exact absurd rfl outer
  | bare => simp [step, outside, State.follow]
  | after => simp [step, outside, State.follow]
  | quote =>
    have plain : d ≠ '"' := fun same => Place.noConfusion (unquoted same)
    simp [step, outside, State.follow, plain, State.close]

theorem split_append (a b : Text) (fields : List Text) (split : split? d trim a = some fields) :
    split? d trim (a ++ d :: b) = (split? d trim b).map (fields ++ ·) := by
  obtain ⟨outer, rfl⟩ := (finish_iff _ _).mp split
  have unquoted : d = '"' → (a.foldl (step d trim) {}).place = .bare := fun same =>
    fold_unquoted {} a same rfl
  rw [split?, List.foldl_append, List.foldl_cons, step_delimiter _ outer unquoted, fold_follow,
    finish_follow, split?]

theorem split_join (parts values : List Text) (nonempty : parts ≠ [])
    (split : List.Forall₂ (fun part value => split? d trim part = some [value]) parts values) :
    split? d trim ([d].intercalate parts) = some values := by
  induction split with
  | nil => exact absurd rfl nonempty
  | @cons part value parts values first later ih =>
    cases later with
    | nil => rwa [List.intercalate_singleton]
    | @cons next _ rest _ second later =>
      rw [List.intercalate_cons_cons, ← List.append_cons, split_append part _ [value] first,
        ih (List.cons_ne_nil _ _)]
      rfl

theorem fold_escape (done : List Text) (field value : Text) :
    (Writer.escape value).foldl (step d trim) { complete := done, place := .inside, field } =
      { complete := done, place := .inside, field := value.reverse ++ field } := by
  induction value generalizing field with
  | nil => rfl
  | cons c value ih =>
    rw [Writer.escape, List.flatMap_cons, ← Writer.escape, List.foldl_append, List.reverse_cons,
      List.append_assoc]
    by_cases doubled : c = '"'
    · subst doubled
      exact ih ('"' :: field)
    · have one : [c].foldl (step d trim) { complete := done, place := .inside, field } =
          { complete := done, place := .inside, field := c :: field } := by
        simp [step, doubled]
      rw [if_neg (by simpa using doubled), one, ih]
      rfl

theorem split_quote (value : Text) (plain : d ≠ '"') :
    split? d trim (Writer.quote value) = some [value] := by
  have opened : step d trim {} '"' = { place := .inside } := by
    simp [step, outside, Ne.symm plain, Text.allBlank]
  rw [split?, Writer.quote, List.cons_append, List.foldl_cons, opened, List.foldl_append,
    fold_escape]
  simp [step, State.finish?, State.close]

theorem fold_plain (done : List Text) (field value : Text)
    (plain : ∀ c ∈ value, c ≠ d ∧ c ≠ '"') :
    value.foldl (step d trim) { complete := done, field } =
      { complete := done, field := value.reverse ++ field } := by
  induction value generalizing field with
  | nil => rfl
  | cons c value ih =>
    obtain ⟨apart, bare⟩ := plain c List.mem_cons_self
    have one : step d trim { complete := done, field } c =
        { complete := done, field := c :: field } := by
      simp [step, outside, apart, bare]
    rw [List.foldl_cons, one, ih _ fun other member => plain other (List.mem_cons_of_mem c member)]
    simp

theorem split_plain (value : Text) (plain : ∀ c ∈ value, c ≠ d ∧ c ≠ '"') :
    split? d trim value = some [if trim then Text.trim value else value] := by
  rw [split?, fold_plain [] [] value plain]
  cases trim with
  | false => simp [State.finish?, State.close]
  | true => simp [State.finish?, State.close]

structure State.All (p : Char → Prop) (s : State) : Prop where
  complete : ∀ value ∈ s.complete, ∀ c ∈ value, p c
  field : ∀ c ∈ s.field, p c

variable {p : Char → Prop}

theorem close_all (s : State) (all : s.All p) : ∀ c ∈ s.close trim, p c := by
  intro c member
  unfold State.close at member
  split at member
  · exact all.field c (List.mem_reverse.mp (Text.trim_subset _ c member))
  · exact all.field c (List.mem_reverse.mp member)

theorem push_all (s : State) (place : Place) (c : Char) (all : s.All p) (one : p c) :
    State.All p { s with place, field := c :: s.field } := by
  refine ⟨all.complete, ?_⟩
  intro other member
  rcases List.mem_cons.mp member with rfl | member
  · exact one
  · exact all.field other member

theorem outside_all (s : State) (c : Char) (all : s.All p) (one : p c) :
    (outside d trim s c).All p := by
  unfold outside
  split
  · refine ⟨?_, by simp⟩
    intro value member
    rcases List.mem_cons.mp member with rfl | member
    · exact close_all s all
    · exact all.complete value member
  · split
    · exact ⟨all.complete, by simp⟩
    · split
      · exact all
      · exact push_all s s.place c all one

theorem step_all (s : State) (c : Char) (all : s.All p) (one : p c) :
    (step d trim s c).All p := by
  obtain ⟨complete, place, field⟩ := s
  cases place with
  | bare => exact outside_all _ c all one
  | after => exact outside_all _ c all one
  | inside =>
    unfold step
    simp only
    split
    · exact ⟨all.complete, all.field⟩
    · exact push_all _ _ c all one
  | quote =>
    unfold step
    simp only
    split
    · exact push_all _ _ c all one
    · exact outside_all _ c ⟨all.complete, all.field⟩ one

theorem fold_all (s : State) (line : Text) (all : s.All p) (every : ∀ c ∈ line, p c) :
    (line.foldl (step d trim) s).All p := by
  induction line generalizing s with
  | nil => exact all
  | cons c line ih =>
    exact ih _ (step_all s c all (every c List.mem_cons_self)) fun other member =>
      every other (List.mem_cons_of_mem c member)

theorem split_all (line : Text) (fields : List Text) (split : split? d trim line = some fields)
    (every : ∀ c ∈ line, p c) : ∀ value ∈ fields, ∀ c ∈ value, p c := by
  obtain ⟨_, rfl⟩ := (finish_iff _ _).mp split
  have all : (line.foldl (step d trim) {}).All p := fold_all {} line ⟨by simp, by simp⟩ every
  intro value member
  rcases List.mem_cons.mp (List.mem_reverse.mp member) with rfl | member
  · exact close_all _ all
  · exact all.complete value member

end Courier.Fields
