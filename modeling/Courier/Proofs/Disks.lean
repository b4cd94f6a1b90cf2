import Courier.Files.Disk
import Courier.Proofs.General
import Courier.Proofs.Paths

set_option autoImplicit false

namespace Courier.Files.Disk

theorem node_set (d : Disk) (names : List Bytes) (node : Node) (filled : names ≠ []) :
    (d.set names node).node? names = some node := by
  rw [node?, if_neg (by simpa using filled), set, Std.ExtTreeMap.getElem?_insert_self]

theorem node_set_other (d : Disk) (names other : List Bytes) (node : Node) (apart : names ≠ other) :
    (d.set names node).node? other = d.node? other := by
  have elsewhere : ¬ compare names other = .eq := mt Std.compare_eq_iff_eq.mp apart
  rw [node?, node?, set, Std.ExtTreeMap.getElem?_insert, if_neg elsewhere]

structure Grows (d d' : Disk) : Prop where
  here : d'.here = d.here
  directories : ∀ names, d.node? names = some .directory → d'.node? names = some .directory

-- A later disk, with all that was on the other one.
structure ExtendedBy (d d' : Disk) : Prop where
  here : d'.here = d.here
  nodes : ∀ names node, d.node? names = some node → d'.node? names = some node

theorem extended_grows {d d' : Disk} (extended : d.ExtendedBy d') : d.Grows d' :=
  ⟨extended.here, fun names => extended.nodes names .directory⟩

theorem extended_same (d : Disk) : d.ExtendedBy d := ⟨rfl, fun _ _ found => found⟩

theorem ExtendedBy.trans {d d' d'' : Disk} (extended : d.ExtendedBy d')
    (later : d'.ExtendedBy d'') : d.ExtendedBy d'' :=
  ⟨later.here.trans extended.here, fun names node found =>
    later.nodes names node (extended.nodes names node found)⟩

theorem set_extended (d : Disk) (names : List Bytes) (node : Node) (free : d.node? names = none) :
    d.ExtendedBy (d.set names node) := by
  refine ⟨rfl, ?_⟩
  intro other held found
  rw [node_set_other d names other node]
  · exact found
  · rintro rfl
    rw [free] at found
    cases found

theorem make_extended (d d' : Disk) (path : Bytes) (made : d.makeDirectory path = .ok d') :
    d.ExtendedBy d' := by
  rw [makeDirectory] at made
  obtain ⟨target, _, ended⟩ := bind_ok _ _ d' made
  cases target with
  | directory names => cases ended
  | entry names closed =>
    dsimp only at ended
    split at ended
    · cases ended
    · rename_i free
      cases ended
      exact d.set_extended names .directory (by simpa using free)

theorem ensure_extended (d d' : Disk) (path : Bytes) (made : d.ensureDirectory path = .ok d') :
    d.ExtendedBy d' := by
  rw [ensureDirectory] at made
  cases first : d.makeDirectory path with
  | ok next =>
    rw [first] at made
    cases made
    exact d.make_extended d' path first
  | error trouble =>
    rw [first] at made
    dsimp only at made
    split at made
    · cases made
      exact d.extended_same
    · cases made

theorem settle_extended (d : Disk) (path : Bytes) :
    d.ExtendedBy (d.settle (d.ensureDirectory path)).2 := by
  cases made : d.ensureDirectory path with
  | ok d' => exact d.ensure_extended d' path made
  | error trouble => exact d.extended_same

theorem make_first_extended (d : Disk) (paths : List Bytes) :
    d.ExtendedBy (d.makeFirst paths).2 := by
  induction paths generalizing d with
  | nil => exact d.extended_same
  | cons path above ih =>
    rw [makeFirst]
    split
    · exact d.extended_same
    · split
      · have before := ih d
        split
        · rename_i made
          rw [made] at before
          exact before.trans (settle_extended _ path)
        · exact before
      · exact d.settle_extended path

theorem enter_grows {d d' : Disk} (grows : d.Grows d') (directory : List Bytes) (step : Bytes)
    (entered : List Bytes) (led : d.enter directory step = .ok entered) :
    d'.enter directory step = .ok entered := by
  rw [enter] at led ⊢
  by_cases here : step == [dot]
  · rw [if_pos here] at led ⊢
    exact led
  rw [if_neg here] at led ⊢
  by_cases above : step == up
  · rw [if_pos above] at led ⊢
    exact led
  rw [if_neg above] at led ⊢
  by_cases long : longestName < step.length
  · rw [if_pos long] at led
    cases led
  rw [if_neg long] at led ⊢
  cases found : d.node? (directory ++ [step]) with
  | none =>
    rw [found] at led
    cases led
  | some node =>
    rw [found] at led
    cases node with
    | directory =>
      rw [grows.directories _ found]
      exact led
    | file content => cases led

theorem follow_grows {d d' : Disk} (grows : d.Grows d') (path : Bytes) (target : Target)
    (led : d.follow path = .ok target) : d'.follow path = .ok target := by
  rw [follow] at led ⊢
  by_cases empty : path.isEmpty
  · rw [if_pos empty] at led
    cases led
  rw [if_neg empty] at led ⊢
  by_cases zero : path.contains 0
  · rw [if_pos zero] at led
    cases led
  rw [if_neg zero] at led ⊢
  by_cases long : longestPath < path.length
  · rw [if_pos long] at led
    cases led
  rw [if_neg long, grows.here]
  rw [if_neg long] at led
  cases last : ((parts path).filter (· != [])).getLast? with
  | none =>
    simp only [last] at led ⊢
    exact led
  | some name =>
    simp only [last] at led ⊢
    obtain ⟨directory, walked, arrived⟩ := bind_ok _ _ target led
    rw [foldlM_grows d.enter d'.enter (fun b a b' => enter_grows grows b a b') _ _ _ walked]
    exact arrived

theorem write_entry (d d' : Disk) (path content : Bytes) (wrote : d.write path content = .ok d') :
    ∃ names, d.follow path = .ok (.entry names false) ∧ d.node? names ≠ some .directory ∧
      d' = d.set names (.file content) := by
  rw [write] at wrote
  obtain ⟨target, led, ended⟩ := bind_ok _ _ d' wrote
  cases target with
  | directory names => cases ended
  | entry names closed =>
    dsimp only at ended
    split at ended
    · cases ended
    · rename_i free
      rw [Bool.or_eq_true, not_or, beq_iff_eq, Bool.not_eq_true] at free
      cases ended
      exact ⟨names, by rw [led, free.1], free.2, rfl⟩

theorem read_entry (d : Disk) (path content : Bytes) (names : List Bytes)
    (led : d.follow path = .ok (.entry names false)) (held : d.node? names = some (.file content)) :
    d.read path = .ok content := by
  rw [read, find?, led]
  simp only [bind, Except.bind, held]
  rfl

-- What has been written to a disk: each path leads to a file, which holds what was written by a
-- path that leads there too.
def Stored (d : Disk) (log : List (Bytes × Bytes)) : Prop :=
  ∀ path content, (path, content) ∈ log → ∃ names author latest, (author, latest) ∈ log ∧
    d.follow path = .ok (.entry names false) ∧ d.follow author = .ok (.entry names false) ∧
    d.node? names = some (.file latest)

theorem stored_extended {d d' : Disk} {log : List (Bytes × Bytes)} (extended : d.ExtendedBy d')
    (stored : d.Stored log) : d'.Stored log := by
  intro path content member
  obtain ⟨names, author, latest, written, led, authored, held⟩ := stored path content member
  have stays := follow_grows (extended_grows extended)
  exact ⟨names, author, latest, written, stays _ _ led, stays _ _ authored, extended.nodes _ _ held⟩

theorem stored_write {d d' : Disk} {log : List (Bytes × Bytes)} (path content : Bytes)
    (wrote : d.write path content = .ok d') (stored : d.Stored log) :
    d'.Stored (log ++ [(path, content)]) := by
  obtain ⟨names, led, free, rfl⟩ := d.write_entry d' path content wrote
  have filled : names ≠ [] := by
    rintro rfl
    exact free rfl
  have now := d.node_set names (.file content) filled
  have grows : d.Grows (d.set names (.file content)) := by
    refine ⟨rfl, ?_⟩
    intro other held
    rw [d.node_set_other names other]
    · exact held
    · rintro rfl
      exact free held
  have stays := follow_grows grows
  have last : (path, content) ∈ log ++ [(path, content)] := by simp
  intro path' content' member
  rcases List.mem_append.mp member with earlier | new
  · obtain ⟨names', author, latest, written, led', authored, held⟩ := stored path' content' earlier
    by_cases same : names = names'
    · rw [← same] at led'
      exact ⟨names, path, content, last, stays _ _ led', stays _ _ led, now⟩
    · refine ⟨names', author, latest, List.mem_append_left _ written, stays _ _ led',
        stays _ _ authored, ?_⟩
      rw [d.node_set_other names names' _ same]
      exact held
  · cases List.mem_singleton.mp new
    exact ⟨names, path, content, last, stays _ _ led, stays _ _ led, now⟩

theorem stored_read {d : Disk} {log : List (Bytes × Bytes)} (stored : d.Stored log)
    (path content : Bytes) (member : (path, content) ∈ log)
    (only : ∀ author latest, (author, latest) ∈ log → d.follow author = d.follow path →
      latest = content) : d.read path = .ok content := by
  obtain ⟨names, author, latest, written, led, authored, held⟩ := stored path content member
  have same := only author latest written (authored.trans led.symm)
  rw [same] at held
  exact d.read_entry path content names led held

theorem enter_segment (d : Disk) (directory : List Bytes) (n : Bytes) (entered : List Bytes)
    (segment : Segment n) (led : d.enter directory n = .ok entered) :
    entered = directory ++ [n] := by
  rw [enter, if_neg (by simpa using segment.away.1), if_neg (by simpa using segment.away.2)] at led
  split at led
  · cases led
  · split at led
    · cases led
      rfl
    · cases led
    · cases led

theorem follow_join (d : Disk) (directory n : Bytes) (segment : Segment n) (target : Target)
    (led : d.follow (join directory n) = .ok target) :
    ∃ base,
      (way directory).foldlM d.enter (if isAbsolute directory then [] else d.here) = .ok base ∧
      target = .entry (base ++ [n]) false := by
  have names := way_join directory n segment
  rw [way] at names
  have closed := last_join directory n segment
  rw [follow] at led
  split at led
  · cases led
  · split at led
    · cases led
    · split at led
      · cases led
      · rw [names, absolute_join directory n segment] at led
        simp only [List.getLast?_concat, List.dropLast_concat] at led
        obtain ⟨base, walked, arrived⟩ := bind_ok _ _ target led
        refine ⟨base, walked, ?_⟩
        rw [arrive, if_neg (by simpa using segment.away.1),
          if_neg (by simpa using segment.away.2)] at arrived
        split at arrived
        · cases arrived
        · cases arrived
          rw [beq_eq_false_iff_ne.mpr closed]

end Courier.Files.Disk
