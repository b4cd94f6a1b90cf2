import Mathlib.Data.List.Forall2

set_option autoImplicit false

namespace Courier

theorem ok_bind {ε α β : Type} (a : α) (f : α → Except ε β) : (Except.ok a >>= f) = f a := rfl

theorem bind_step {ε α β : Type} {x : Except ε α} {a : α} (made : x = .ok a)
    (f : α → Except ε β) : (x >>= f) = f a := by
  rw [made]
  rfl

theorem bind_ok {ε α β : Type} (x : Except ε α) (f : α → Except ε β) (b : β)
    (ran : (x >>= f) = .ok b) : ∃ a, x = .ok a ∧ f a = .ok b := by
  cases x with
  | error fault => cases ran
  | ok a => exact ⟨a, rfl, ran⟩

theorem unmapped {ε δ α : Type} (f : ε → δ) (x : Except ε α) (a : α)
    (mapped : x.mapError f = .ok a) : x = .ok a := by
  cases x with
  | error e => cases mapped
  | ok b =>
    cases mapped
    rfl

theorem toOption_ok {ε α : Type} (x : Except ε α) (a : α) : x.toOption = some a ↔ x = .ok a := by
  cases x <;> simp [Except.toOption]

theorem run_bind_ok {ε δ α β : Type} (x : ExceptT ε (StateM δ) α) (f : α → ExceptT ε (StateM δ) β)
    (d d'' : δ) (b : β) (ran : (x >>= f).run.run d = (.ok b, d'')) :
    ∃ a d', x.run.run d = (.ok a, d') ∧ (f a).run.run d' = (.ok b, d'') := by
  change (ExceptT.bindCont f (x.run.run d).1).run (x.run.run d).2 = _ at ran
  cases first : (x.run.run d).1 with
  | error fault =>
    rw [first] at ran
    cases ran
  | ok a =>
    rw [first] at ran
    exact ⟨a, (x.run.run d).2, Prod.ext first rfl, ran⟩

theorem adapt_pure {m : Type → Type} [Monad m] [LawfulMonad m] {ε δ α : Type} (f : ε → δ) (a : α) :
    (pure a : ExceptT ε m α).adapt f = pure a := by
  change Except.mapError f <$> (pure (Except.ok a) : m _) = _
  rw [map_pure]
  rfl

theorem foldlM_grows {α β ε : Type} (f g : β → α → Except ε β)
    (more : ∀ b a b', f b a = .ok b' → g b a = .ok b') (l : List α) (b b' : β)
    (led : l.foldlM f b = .ok b') : l.foldlM g b = .ok b' := by
  induction l generalizing b with
  | nil => exact led
  | cons a l ih =>
    rw [List.foldlM_cons] at led ⊢
    obtain ⟨next, first, rest⟩ := bind_ok _ _ b' led
    rw [more b a next first]
    exact ih next rest

theorem mapM_numbered {α β ε : Type} (f : α × Nat → Except ε β) (reads : α → β → Prop)
    (agrees : ∀ x i y, f (x, i) = .ok y ↔ reads x y) (xs : List α) (n : Nat) (ys : List β) :
    (xs.zipIdx n).mapM f = .ok ys ↔ List.Forall₂ reads xs ys := by
  induction xs generalizing n ys with
  | nil =>
    rw [List.forall₂_nil_left_iff]
    constructor
    · intro passed
      cases passed
      rfl
    · rintro rfl
      rfl
  | cons x xs ih =>
    rw [List.zipIdx_cons, List.mapM_cons, List.forall₂_cons_left_iff]
    constructor
    · intro passed
      cases first : f (x, n) with
      | error e =>
        rw [first] at passed
        cases passed
      | ok y =>
        rw [first] at passed
        cases rest : (xs.zipIdx (n + 1)).mapM f with
        | error e =>
          rw [rest] at passed
          cases passed
        | ok later =>
          rw [rest] at passed
          cases passed
          exact ⟨y, later, (agrees x n y).mp first, (ih (n + 1) later).mp rest, rfl⟩
    · rintro ⟨y, later, first, rest, rfl⟩
      rw [(agrees x n y).mpr first, (ih (n + 1) later).mpr rest]
      rfl

theorem mapM_passed {α β ε : Type} (f : α → Except ε β) (xs : List α) (ys : List β) :
    xs.mapM f = .ok ys ↔ List.Forall₂ (fun x y => f x = .ok y) xs ys := by
  have numbered := mapM_numbered (f ∘ Prod.fst) (fun x y => f x = .ok y)
    (fun _ _ _ => Iff.rfl) xs 0 ys
  rwa [← List.mapM_map, List.zipIdx_map_fst] at numbered

theorem mapM_cons_error {α β ε : Type} (f : α → Except ε β) (first : α) (xs : List α) (e : ε) :
    (first :: xs).mapM f = .error e ↔
      f first = .error e ∨ ∃ y, f first = .ok y ∧ xs.mapM f = .error e := by
  rw [List.mapM_cons]
  cases f first with
  | error fault =>
    constructor
    · intro stopped
      cases stopped
      exact .inl rfl
    · rintro (same | ⟨y, never, _⟩)
      · cases same
        rfl
      · cases never
  | ok y =>
    have rest : (Except.ok y >>= fun y => xs.mapM f >>= fun ys => pure (y :: ys)) = .error e ↔
        xs.mapM f = .error e := by
      cases xs.mapM f with
      | error fault => rfl
      | ok ys => simp [bind, Except.bind, pure, Except.pure]
    rw [rest]
    constructor
    · exact fun stopped => .inr ⟨y, rfl, stopped⟩
    · rintro (never | ⟨_, _, stopped⟩)
      · cases never
      · exact stopped

theorem mapM_stop {α β ε : Type} (f : α → Except ε β) (xs : List α) (e : ε) :
    xs.mapM f = .error e ↔ ∃ before x after, xs = before ++ x :: after ∧
      (∀ earlier ∈ before, ∃ y, f earlier = .ok y) ∧ f x = .error e := by
  induction xs with
  | nil => simp [pure, Except.pure]
  | cons first xs ih =>
    rw [mapM_cons_error, ih]
    constructor
    · rintro (failed | ⟨y, fine, before, x, after, rfl, passed, failed⟩)
      · exact ⟨[], first, xs, rfl, by simp, failed⟩
      · exact ⟨first :: before, x, after, rfl, List.forall_mem_cons.mpr ⟨⟨y, fine⟩, passed⟩, failed⟩
    · rintro ⟨before, x, after, same, passed, failed⟩
      cases before with
      | nil =>
        cases same
        exact .inl failed
      | cons other before =>
        cases same
        obtain ⟨⟨y, fine⟩, rest⟩ := List.forall_mem_cons.mp passed
        exact .inr ⟨y, fine, before, x, after, rfl, rest, failed⟩

theorem filterMap_filter {α β : Type} (f : α → Option β) (l : List α) :
    List.Forall₂ (fun a b => f a = some b) (l.filter fun a => (f a).isSome) (l.filterMap f) := by
  induction l with
  | nil => exact .nil
  | cons a l ih =>
    cases seen : f a with
    | none => simpa [seen] using ih
    | some b => simpa [seen] using ih

theorem filterMap_at {α β : Type} (f : α → Option β) (l : List α) (j : Nat) (b : β)
    (found : (l.filterMap f)[j]? = some b) :
    ∃ a, (l.filter fun a => (f a).isSome)[j]? = some a ∧ f a = some b := by
  obtain ⟨within, rfl⟩ := List.getElem?_eq_some_iff.mp found
  have all := filterMap_filter f l
  have here : j < (l.filter fun a => (f a).isSome).length := by
    rw [all.length_eq]
    exact within
  exact ⟨_, List.getElem?_eq_getElem here, all.get here within⟩

theorem paired_source {α β : Type} {related : α → β → Prop} (xs : List α) (ys : List β)
    (pairs : List.Forall₂ related xs ys) : ∀ y ∈ ys, ∃ x ∈ xs, related x y := by
  induction pairs with
  | nil => simp
  | @cons x y xs ys first _ ih =>
    intro other member
    rcases List.mem_cons.mp member with rfl | later
    · exact ⟨x, List.mem_cons_self, first⟩
    · obtain ⟨source, listed, pair⟩ := ih other later
      exact ⟨source, List.mem_cons_of_mem x listed, pair⟩

theorem paired_through {α β γ : Type} {first : α → β → Prop} {second : β → γ → Prop}
    {xs : List α} {ys : List β} {zs : List γ} (left : List.Forall₂ first xs ys)
    (right : List.Forall₂ second ys zs) :
    List.Forall₂ (fun x z => ∃ y, first x y ∧ second y z) xs zs := by
  induction left generalizing zs with
  | nil =>
    cases right
    exact .nil
  | @cons x y xs ys here _ ih =>
    cases right with
    | cons there later => exact .cons ⟨y, here, there⟩ (ih later)

end Courier
