import Courier.Publish.Ledger

set_option autoImplicit false

namespace Courier.Positions

variable {α β : Type}

def Views (m : Std.ExtTreeMap Nat β) (l : List α) (view : α → Option β) : Prop :=
  ∀ i : Nat, m[i]? = l[i]?.bind view

theorem views_map {γ : Type} (m : Std.ExtTreeMap Nat β) (l : List α) (view : α → Option β)
    (f : α → γ) (other : γ → Option β) (views : Views m l view)
    (kept : ∀ a ∈ l, other (f a) = view a) : Views m (l.map f) other := by
  intro i
  rw [views i, List.getElem?_map]
  cases found : l[i]? with
  | none => rfl
  | some a => exact (kept a (List.mem_of_getElem? found)).symm

theorem map_bind (l : List α) (f : α → α) (view : α → Option β) (i : Nat) :
    (l.map f)[i]?.bind view = l[i]?.bind fun a => view (f a) := by
  rw [List.getElem?_map, Option.bind_map]
  rfl

theorem bind_concat (l : List α) (a : α) (view : α → Option β) (i : Nat) :
    (l ++ [a])[i]?.bind view = if i = l.length then view a else l[i]?.bind view := by
  by_cases last : i = l.length
  · simp [last]
  · rw [if_neg last]
    by_cases before : i < l.length
    · rw [List.getElem?_append_left before]
    · rw [List.getElem?_eq_none (by simp; omega), List.getElem?_eq_none (by omega)]

theorem bind_skip (l : List α) (a : α) (view : α → Option β) (unseen : view a = none) (i : Nat) :
    (l ++ [a])[i]?.bind view = l[i]?.bind view := by
  rw [bind_concat, unseen]
  split
  · rename_i last
    rw [List.getElem?_eq_none (by omega)]
    rfl
  · rfl

theorem views_skip (m : Std.ExtTreeMap Nat β) (l : List α) (view : α → Option β) (a : α)
    (views : Views m l view) (unseen : view a = none) : Views m (l ++ [a]) view := by
  intro i
  rw [bind_skip l a view unseen, views i]

theorem views_insert (m : Std.ExtTreeMap Nat β) (l : List α) (view : α → Option β) (a : α) (b : β)
    (views : Views m l view) (seen : view a = some b) :
    Views (m.insert l.length b) (l ++ [a]) view := by
  intro i
  rw [bind_concat, seen, Std.ExtTreeMap.getElem?_insert]
  by_cases last : i = l.length
  · simp [last]
  · rw [if_neg last, if_neg (by simpa [Nat.compare_eq_eq] using Ne.symm last), views i]

theorem zipIdx_ordered (l : List α) : l.zipIdx.Pairwise fun x y => x.2 < y.2 := by
  have ranged : (l.zipIdx.map Prod.snd).Pairwise (· < ·) := by
    rw [List.zipIdx_map_snd]
    exact List.pairwise_lt_range'
  exact List.pairwise_map.mp ranged

def listing (l : List α) (view : α → Option β) : List (Nat × β) :=
  l.zipIdx.filterMap fun (a, i) => (view a).map (Prod.mk i)

theorem mem_listing (l : List α) (view : α → Option β) (i : Nat) (b : β) :
    (i, b) ∈ listing l view ↔ l[i]?.bind view = some b := by
  simp only [listing, List.mem_filterMap, Prod.exists, Option.map_eq_some_iff, Prod.mk.injEq,
    List.mk_mem_zipIdx_iff_getElem?, Option.bind_eq_some_iff]
  constructor
  · rintro ⟨a, j, found, c, seen, rfl, rfl⟩
    exact ⟨a, found, seen⟩
  · rintro ⟨a, found, seen⟩
    exact ⟨a, i, found, b, seen, rfl, rfl⟩

theorem listing_ordered (l : List α) (view : α → Option β) :
    (listing l view).Pairwise fun x y => x.1 < y.1 := by
  apply List.Pairwise.filterMap _ _ (zipIdx_ordered l)
  rintro ⟨a, i⟩ ⟨b, j⟩ less x hx y hy
  obtain ⟨_, _, rfl⟩ := Option.map_eq_some_iff.mp hx
  obtain ⟨_, _, rfl⟩ := Option.map_eq_some_iff.mp hy
  exact less

theorem listing_values (l : List α) (view : α → Option β) :
    (listing l view).map Prod.snd = l.filterMap view := by
  have pairs (n : Nat) : ((l.zipIdx n).filterMap fun (a, i) => (view a).map (Prod.mk i)).map
      Prod.snd = l.filterMap view := by
    induction l generalizing n with
    | nil => rfl
    | cons a l ih =>
      simp only [List.zipIdx_cons, List.filterMap_cons]
      cases view a with
      | none => exact ih (n + 1)
      | some b => simpa using ih (n + 1)
  exact pairs 0

theorem map_ordered (m : Std.ExtTreeMap Nat β) : m.toList.Pairwise fun x y => x.1 < y.1 :=
  m.ordered_keys_toList.imp fun less => Nat.compare_eq_lt.mp less

theorem toList_unique (m : Std.ExtTreeMap Nat β) (entries : List (Nat × β))
    (ordered : entries.Pairwise fun x y => x.1 < y.1)
    (same : ∀ (i : Nat) (b : β), (i, b) ∈ entries ↔ m[i]? = some b) : m.toList = entries := by
  have distinct {entries : List (Nat × β)} (ordered : entries.Pairwise fun x y => x.1 < y.1) :
      entries.Nodup := ordered.imp fun less same => by simp [same] at less
  have shuffled : m.toList.Perm entries := by
    rw [List.perm_ext_iff_of_nodup (distinct (map_ordered m)) (distinct ordered)]
    rintro ⟨i, b⟩
    rw [Std.ExtTreeMap.mem_toList_iff_getElem?_eq_some, same]
  refine shuffled.eq_of_pairwise ?_ (map_ordered m) ordered
  intro x y _ _ less greater
  omega

theorem views_toList (m : Std.ExtTreeMap Nat β) (l : List α) (view : α → Option β)
    (views : Views m l view) : m.toList = listing l view := by
  refine toList_unique m _ (listing_ordered l view) fun i b => ?_
  rw [mem_listing, views i]

theorem views_values (m : Std.ExtTreeMap Nat β) (l : List α) (view : α → Option β)
    (views : Views m l view) : m.toList.map Prod.snd = l.filterMap view := by
  rw [views_toList m l view views, listing_values]

theorem views_size (m : Std.ExtTreeMap Nat β) (l : List α) (view : α → Option β)
    (views : Views m l view) : m.size = (l.filterMap view).length := by
  rw [← Std.ExtTreeMap.length_toList, ← views_values m l view views, List.length_map]

theorem views_mem_keys (m : Std.ExtTreeMap Nat β) (l : List α) (view : α → Option β)
    (views : Views m l view) (i : Nat) : i ∈ m.keys ↔ (l[i]?.bind view).isSome := by
  rw [Std.ExtTreeMap.mem_keys, ← views i, Std.ExtTreeMap.mem_iff_isSome_getElem?]

theorem views_count (m : Std.ExtTreeMap Nat β) (l : List α)
    (view : α → Option β) (views : Views m l view) (i : Nat) :
    m.keys.count i = if (l[i]?.bind view).isSome then 1 else 0 := by
  rw [m.nodup_keys.count]
  simp only [views_mem_keys m l view views]

end Courier.Positions
