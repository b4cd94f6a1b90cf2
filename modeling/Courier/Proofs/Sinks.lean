import Courier.Files.Sink
import Courier.Proofs.Disks
import Courier.Proofs.Naming

set_option autoImplicit false

namespace Courier.Files

theorem plain_segment (t : Text) (plain : Plain t) : Segment (Utf8.encode t) := by
  have single : Utf8.encode ['.'] = [dot] := by decide
  have double : Utf8.encode ['.', '.'] = up := by decide
  have none_left : Utf8.encode [] = [] := rfl
  refine ⟨?_, ?_, ?_, ?_⟩
  · exact mt (Utf8.encode_slash t).mp plain.whole
  · rw [← none_left]
    exact mt (Utf8.encode_injective ·) plain.filled
  · rw [← single]
    exact mt (Utf8.encode_injective ·) plain.entry.1
  · rw [← double]
    exact mt (Utf8.encode_injective ·) plain.entry.2

theorem relationship_segment (r : Relationship) : Segment (Utf8.encode r.name.toList) := by
  cases r with
  | success => exact ⟨by decide, by decide, by decide, by decide⟩
  | failure => exact ⟨by decide, by decide, by decide, by decide⟩

theorem relationship_injective (r r' : Relationship)
    (same : Utf8.encode r.name.toList = Utf8.encode r'.name.toList) : r = r' := by
  have names := Utf8.encode_injective same
  cases r <;> cases r' <;> first | rfl | exact absurd names (by decide)

theorem ending_plain (t : Text) (plain : Plain t) : Plain (t ++ sidecarEnding) := by
  have long : (t ++ sidecarEnding).length = t.length + 16 := by
    rw [List.length_append]
    rfl
  have ending : '/' ∉ sidecarEnding := by decide
  refine ⟨?_, ?_, ?_, ?_⟩
  · intro same
    rw [same] at long
    cases long
  · intro member
    rcases List.mem_append.mp member with name | after
    · exact plain.whole name
    · exact ending after
  · intro same
    rw [same] at long
    cases long
  · intro same
    rw [same] at long
    cases long

namespace Sink

def files (s : Sink) (name : Text) (a : Artifact) : List (Bytes × Bytes) :=
  [(s.contentPath a.relationship name, a.content),
    (s.sidecarPath a.relationship name, Utf8.encode (s.describe a.attributes))]

def writeAll {m : Type → Type} [Monad m] (s : Sink) (store : Store m) :
    List (Text × Artifact) → ExceptT Trouble m Unit
  | [] => return
  | (name, a) :: rest => do
    let _ ← s.write store name a
    s.writeAll store rest

def outcome (s : Sink) (d : Disk) (written : List (Text × Artifact)) : Except Trouble Unit × Disk :=
  (s.writeAll Disk.store written).run.run d

theorem settle_ok (d d' : Disk) (result : Except Trouble Disk)
    (settled : d.settle result = (.ok (), d')) : result = .ok d' := by
  cases result with
  | ok next =>
    cases settled
    rfl
  | error trouble => cases settled

theorem write_files (s : Sink) (d d' : Disk) (name : Text) (a : Artifact) (path : Bytes)
    (wrote : (s.write Disk.store name a).run.run d = (.ok path, d')) :
    ∃ made next, d.ExtendedBy made ∧
      made.write (s.contentPath a.relationship name) a.content = .ok next ∧
      next.write (s.sidecarPath a.relationship name) (Utf8.encode (s.describe a.attributes)) =
        .ok d' := by
  obtain ⟨_, made, directories, wrote⟩ := run_bind_ok _ _ d d' path wrote
  obtain ⟨_, next, content, wrote⟩ := run_bind_ok _ _ made d' path wrote
  obtain ⟨_, _, sidecar, wrote⟩ := run_bind_ok _ _ next d' path wrote
  cases wrote
  refine ⟨made, next, ?_, settle_ok made next _ content, settle_ok next d' _ sidecar⟩
  have extended := d.make_first_extended (withAncestors (s.directory a.relationship))
  have same : made = (d.makeDirectories (s.directory a.relationship)).2 :=
    (congrArg Prod.snd directories).symm
  rw [same]
  exact extended

theorem write_all_files (s : Sink) (d d' : Disk) (written : List (Text × Artifact))
    (log : List (Bytes × Bytes)) (stored : d.Stored log)
    (wrote : (s.writeAll Disk.store written).run.run d = (.ok (), d')) :
    d'.Stored (log ++ written.flatMap fun (name, a) => s.files name a) := by
  induction written generalizing d log with
  | nil =>
    cases wrote
    simpa using stored
  | cons first rest ih =>
    obtain ⟨name, a⟩ := first
    obtain ⟨path, between, own, others⟩ := run_bind_ok _ _ d d' () wrote
    obtain ⟨made, next, extended, content, sidecar⟩ := s.write_files d between name a path own
    have now := Disk.stored_write _ _ sidecar (Disk.stored_write _ _ content
      (Disk.stored_extended extended stored))
    have whole := ih between _ now others
    simpa [files] using whole

theorem content_led (s : Sink) (d : Disk) (r : Relationship) (t : Text) (plain : Plain t)
    (target : Disk.Target) (led : d.follow (s.contentPath r t) = .ok target) :
    ∃ root, (way s.root).foldlM d.enter (if isAbsolute s.root then [] else d.here) = .ok root ∧
      target = .entry (root ++ [Utf8.encode r.name.toList, Utf8.encode t]) false := by
  have own := relationship_segment r
  obtain ⟨base, walked, rfl⟩ := d.follow_join _ _ (plain_segment t plain) target led
  rw [directory, way_join _ _ own, absolute_join _ _ own, List.foldlM_append] at walked
  obtain ⟨root, there, entered⟩ := bind_ok _ _ base walked
  obtain ⟨_, last, ended⟩ := bind_ok _ _ base entered
  cases ended
  refine ⟨root, there, ?_⟩
  rw [d.enter_segment root _ base own last, List.append_assoc]
  rfl

theorem content_apart (s : Sink) (d : Disk) (r r' : Relationship) (t t' : Text) (plain : Plain t)
    (plain' : Plain t') (target : Disk.Target) (led : d.follow (s.contentPath r t) = .ok target)
    (together : d.follow (s.contentPath r' t') = d.follow (s.contentPath r t)) :
    r' = r ∧ t' = t := by
  rw [led] at together
  obtain ⟨root, walked, place⟩ := s.content_led d r t plain target led
  obtain ⟨root', walked', place'⟩ := s.content_led d r' t' plain' target together
  rw [walked] at walked'
  cases walked'
  rw [place] at place'
  injection place' with names
  have ends := List.append_cancel_left names
  simp only [List.cons.injEq, and_true] at ends
  exact ⟨relationship_injective r' r ends.1.symm, Utf8.encode_injective ends.2.symm⟩

end Sink

end Courier.Files
