import Courier.Proofs.Docket
import Courier.Proofs.Positions

set_option autoImplicit false

namespace Courier.Docket

variable {s : Docket}

theorem accepted_sent (docketed : TrackerDocketed s) (k : Nat) (o : Offer)
    (found : s.offers[k]? = some o)
    (accepted : o.isAccepted = true) : ∃ call, o = ⟨o.record, .accepted, some call⟩ ∧
      call.isHanded = true ∧ s.tracker.format.render o.record = .ok call.message.payload := by
  have sound := docketed.sound o (List.mem_of_getElem? found)
  obtain ⟨r, result, called⟩ := o
  cases result with
  | accepted =>
    obtain ⟨call, rfl, handed, rendered⟩ := sound
    exact ⟨call, rfl, handed, rendered⟩
  | deferred back => cases accepted
  | rejected back fault => cases accepted

theorem mem_outstanding (o : Offer) : o ∈ s.outstanding ↔
    ∃ k, s.offers[k]? = some o ∧ o.isAccepted = true ∧ k ∉ s.returned := by
  simp only [outstanding, List.mem_map, List.mem_filter, Prod.exists, exists_and_right,
    exists_eq_right, List.mk_mem_zipIdx_iff_getElem?, Bool.and_eq_true, Bool.not_eq_true',
    List.contains_eq_mem, decide_eq_false_iff_not]

theorem outstanding_apart (docketed : TrackerDocketed s) :
    (s.outstanding.map (·.record.ordinal)).Nodup := by
  rw [outstanding, List.map_map]
  refine List.pairwise_map.mpr (((Positions.zipIdx_ordered s.offers).filter _).imp_of_mem ?_)
  rintro ⟨o, k⟩ ⟨o', k'⟩ here there less same
  obtain ⟨member, held⟩ := List.mem_filter.mp here
  obtain ⟨member', held'⟩ := List.mem_filter.mp there
  simp only [Bool.and_eq_true, Bool.not_eq_true', List.contains_eq_mem,
    decide_eq_false_iff_not] at held held'
  have found := List.mk_mem_zipIdx_iff_getElem?.mp member
  have found' := List.mk_mem_zipIdx_iff_getElem?.mp member'
  obtain ⟨call, sent, _⟩ := accepted_sent docketed k o found held.1
  obtain ⟨call', sent', _⟩ := accepted_sent docketed k' o' found' held'.1
  have one := docketed.alone k k' _ _ call call' (sent ▸ found) (sent' ▸ found') held.2 held'.2 same
  exact Nat.ne_of_lt less one

theorem slots_outstanding (docketed : TrackerDocketed s) :
    s.tracker.inFlight.keys.Perm (s.outstanding.map (·.record.ordinal)) := by
  rw [List.perm_ext_iff_of_nodup s.tracker.inFlight.nodup_keys (outstanding_apart docketed)]
  intro i
  rw [Std.ExtTreeMap.mem_keys, Std.ExtTreeMap.mem_iff_isSome_getElem?, Option.isSome_iff_exists,
    List.mem_map]
  constructor
  · rintro ⟨f, found⟩
    obtain ⟨k, call, sent, ordinal, _, out⟩ := (docketed.held i f).mp found
    exact ⟨_, (mem_outstanding _).mpr ⟨k, sent, rfl, out⟩, ordinal⟩
  · rintro ⟨o, member, rfl⟩
    obtain ⟨k, found, accepted, out⟩ := (mem_outstanding o).mp member
    obtain ⟨call, sent, _⟩ := accepted_sent docketed k o found accepted
    exact ⟨⟨o.record, call.message.payload⟩,
      (docketed.held o.record.ordinal _).mpr ⟨k, call, sent ▸ found, rfl, rfl, out⟩⟩

namespace Sample

-- One slot; the first record comes back as failed, is offered again until there is room, and is
-- delivered.
def acts : List Act :=
  [.submit Courier.Sample.records[0], .submit Courier.Sample.records[2],
    .event (.resolve 0 .crashed), .event (.run 0), .poll, .submit Courier.Sample.records[1],
    .submit Courier.Sample.records[0], .submit Courier.Sample.records[0], .event (.run 2)]

def docket : Docket := start Courier.Sample.publisher.format ['t'] ∅ 1 Courier.Sample.client

end Sample

end Courier.Docket
