import Courier.Proofs.Sinks

set_option autoImplicit false

namespace Courier.Files

def assigned (names : List Text) (outputs : List (List Artifact)) : List (Text × Artifact) :=
  (names.zip outputs).flatMap fun (name, output) => output.map fun a => (name, a)

theorem assigned_named (names : List Text) (outputs : List (List Artifact)) (name : Text)
    (a : Artifact) (member : (name, a) ∈ assigned names outputs) : name ∈ names := by
  obtain ⟨⟨own, output⟩, paired, listed⟩ := List.mem_flatMap.mp member
  obtain ⟨_, _, same⟩ := List.mem_map.mp listed
  cases same
  exact (List.of_mem_zip paired).1

theorem assigned_distinct (names : List Text) (outputs : List (List Artifact))
    (separate : names.Nodup)
    (distinct : ∀ output ∈ outputs, (output.map Artifact.relationship).Nodup) :
    ((assigned names outputs).map fun (name, a) => (name, a.relationship)).Nodup := by
  induction names generalizing outputs with
  | nil => exact List.nodup_nil
  | cons name names ih =>
    cases outputs with
    | nil => exact List.nodup_nil
    | cons output outputs =>
      obtain ⟨new, rest⟩ := List.nodup_cons.mp separate
      have own := distinct output List.mem_cons_self
      have others := ih outputs rest fun given member => distinct given
        (List.mem_cons_of_mem _ member)
      have split : assigned (name :: names) (output :: outputs) =
          (output.map fun a => (name, a)) ++ assigned names outputs := rfl
      rw [split, List.map_append, List.map_map, List.nodup_append]
      refine ⟨?_, others, ?_⟩
      · have pairs := own.map fun _ _ same => congrArg Prod.snd (same : (name, _) = (name, _))
        rw [List.map_map] at pairs
        exact pairs
      · rintro key here key' there rfl
        obtain ⟨a, _, rfl⟩ := List.mem_map.mp here
        obtain ⟨⟨other, b⟩, listed, same⟩ := List.mem_map.mp there
        have alike : other = name := congrArg Prod.fst same
        exact new (alike ▸ assigned_named names outputs other b listed)

theorem assigned_same {names : List Text} {outputs : List (List Artifact)} (separate : names.Nodup)
    (distinct : ∀ output ∈ outputs, (output.map Artifact.relationship).Nodup) (name : Text)
    (a b : Artifact) (here : (name, a) ∈ assigned names outputs)
    (there : (name, b) ∈ assigned names outputs) (same : a.relationship = b.relationship) :
    a = b := by
  have keys := assigned_distinct names outputs separate distinct
  have pairs := List.inj_on_of_nodup_map keys here there (by dsimp only; rw [same])
  exact congrArg Prod.snd pairs

def Sink.log (s : Sink) (written : List (Text × Artifact)) : List (Bytes × Bytes) :=
  written.flatMap fun (name, a) => s.files name a

theorem logged_iff (s : Sink) (written : List (Text × Artifact)) (path content : Bytes) :
    (path, content) ∈ s.log written ↔ ∃ name a, (name, a) ∈ written ∧
      (path = s.contentPath a.relationship name ∧ content = a.content ∨
        path = s.contentPath a.relationship (name ++ sidecarEnding) ∧
          content = Utf8.encode (s.describe a.attributes)) := by
  rw [Sink.log, List.mem_flatMap]
  constructor
  · rintro ⟨⟨name, a⟩, member, listed⟩
    refine ⟨name, a, member, ?_⟩
    simpa [Sink.files, Sink.sidecarPath] using listed
  · rintro ⟨name, a, member, listed⟩
    refine ⟨(name, a), member, ?_⟩
    simpa [Sink.files, Sink.sidecarPath] using listed

structure Filed (s : Sink) (d : Disk) (written : List (Text × Artifact)) : Prop where
  plain : ∀ name a, (name, a) ∈ written → Plain name
  same : ∀ name a b, (name, a) ∈ written → (name, b) ∈ written →
    a.relationship = b.relationship → a = b
  stored : d.Stored (s.log written)

variable {s : Sink} {d : Disk} {written : List (Text × Artifact)}

theorem filed_authors (filed : Filed s d written) (r : Relationship) (t : Text) (content : Bytes)
    (plain : Plain t) (logged : (s.contentPath r t, content) ∈ s.log written)
    (author latest : Bytes) (member : (author, latest) ∈ s.log written)
    (together : d.follow author = d.follow (s.contentPath r t)) :
    ∃ name a, (name, a) ∈ written ∧ a.relationship = r ∧
      (name = t ∧ latest = a.content ∨
        name ++ sidecarEnding = t ∧ latest = Utf8.encode (s.describe a.attributes)) := by
  obtain ⟨_, _, _, _, led, _, _⟩ := filed.stored _ _ logged
  obtain ⟨name, a, listed, ⟨rfl, rfl⟩ | ⟨rfl, rfl⟩⟩ := (logged_iff s _ author latest).mp member
  · obtain ⟨same, alike⟩ := s.content_apart d r a.relationship t name plain
      (filed.plain name a listed) _ led together
    exact ⟨name, a, listed, same, .inl ⟨alike, rfl⟩⟩
  · obtain ⟨same, alike⟩ := s.content_apart d r a.relationship t (name ++ sidecarEnding) plain
      (ending_plain name (filed.plain name a listed)) _ led together
    exact ⟨name, a, listed, same, .inr ⟨alike, rfl⟩⟩

theorem filed_content (filed : Filed s d written) (name : Text) (a : Artifact)
    (member : (name, a) ∈ written)
    (only : ∀ other b, (other, b) ∈ written → b.relationship = a.relationship →
      other ++ sidecarEnding = name → Utf8.encode (s.describe b.attributes) = a.content) :
    d.read (s.contentPath a.relationship name) = .ok a.content := by
  have logged := (logged_iff s written _ _).mpr ⟨name, a, member, .inl ⟨rfl, rfl⟩⟩
  refine Disk.stored_read filed.stored _ _ logged ?_
  intro author latest written together
  obtain ⟨other, b, listed, same, ⟨rfl, rfl⟩ | ⟨alike, rfl⟩⟩ := filed_authors filed a.relationship
    name a.content (filed.plain name a member) logged author latest written together
  · rw [filed.same other b a listed member same]
  · exact only other b listed same alike

theorem filed_attributes (filed : Filed s d written) (name : Text) (a : Artifact)
    (member : (name, a) ∈ written)
    (only : ∀ other b, (other, b) ∈ written → b.relationship = a.relationship →
      other = name ++ sidecarEnding → b.content = Utf8.encode (s.describe a.attributes)) :
    d.read (s.sidecarPath a.relationship name) =
      .ok (Utf8.encode (s.describe a.attributes)) := by
  have logged := (logged_iff s written _ _).mpr ⟨name, a, member, .inr ⟨rfl, rfl⟩⟩
  refine Disk.stored_read filed.stored _ _ logged ?_
  intro author latest written together
  obtain ⟨other, b, listed, same, ⟨alike, rfl⟩ | ⟨alike, rfl⟩⟩ := filed_authors filed a.relationship
    (name ++ sidecarEnding) _ (ending_plain name (filed.plain name a member)) logged author latest
    written together
  · exact only other b listed same alike
  · have named : other = name := List.append_cancel_right alike
    subst named
    rw [filed.same other b a listed member same]

-- What a disk holds after artifacts have been written to it. A content file can only have become
-- the attributes of an artifact whose name with the ending is its own, and attributes only the
-- content of such an artifact.
structure Preserved (s : Sink) (d : Disk) (written : List (Text × Artifact)) : Prop where
  content : ∀ name a, (name, a) ∈ written →
    (∀ other b, (other, b) ∈ written → b.relationship = a.relationship →
      other ++ sidecarEnding = name → Utf8.encode (s.describe b.attributes) = a.content) →
    d.read (s.contentPath a.relationship name) = .ok a.content
  attributes : ∀ name a, (name, a) ∈ written →
    (∀ other b, (other, b) ∈ written → b.relationship = a.relationship →
      other = name ++ sidecarEnding → b.content = Utf8.encode (s.describe a.attributes)) →
    d.read (s.sidecarPath a.relationship name) = .ok (Utf8.encode (s.describe a.attributes))
  all : (∀ name a, (name, a) ∈ written →
      d.read (s.contentPath a.relationship name) = .ok a.content ∧
      d.read (s.sidecarPath a.relationship name) =
        .ok (Utf8.encode (s.describe a.attributes))) ↔
    ∀ name a other b, (name, a) ∈ written → (other, b) ∈ written →
      b.relationship = a.relationship → other = name ++ sidecarEnding →
      b.content = Utf8.encode (s.describe a.attributes)

theorem filed_preserved (filed : Filed s d written) : Preserved s d written := by
  refine ⟨filed_content filed, filed_attributes filed, ?_, ?_⟩
  · rintro kept name a other b member listed same rfl
    have content := (kept _ b listed).1
    rw [same] at content
    exact Except.ok.inj (content.symm.trans (kept name a member).2)
  · intro agree name a member
    refine ⟨filed_content filed name a member ?_, filed_attributes filed name a member ?_⟩
    · intro other b listed same alike
      exact (agree other b name a listed member same.symm alike.symm).symm
    · intro other b listed same alike
      exact agree name a other b member listed same alike

/-- The artifacts of all inputs stay as they were written just if none of them goes where the
attributes of another one went. -/
theorem artifacts_preserved (s : Sink) (d : Disk) (paths : List Bytes) (names : List Text)
    (outputs : List (List Artifact)) (named : artifactNames paths = .ok names)
    (distinct : ∀ output ∈ outputs, (output.map Artifact.relationship).Nodup)
    (wrote : (s.outcome d (assigned names outputs)).1 = .ok ()) :
    Preserved s (s.outcome d (assigned names outputs)).2 (assigned names outputs) := by
  have given := artifact_names_given paths names named
  refine filed_preserved ⟨?_, ?_, ?_⟩
  · intro name a member
    exact given.plain name (assigned_named names outputs name a member)
  · intro name a b
    exact assigned_same given.distinct distinct name a b
  · exact s.write_all_files d _ (assigned names outputs) []
      (by intro path content member; cases member) (Prod.ext wrote rfl)

namespace Sample

def sink : Sink := ⟨Utf8.encode "out".toList, Sidecar.write⟩

-- The file name of the second input is the name of the attribute file of the first one.
def paths : List Bytes :=
  [Utf8.encode "a.csv".toList, Utf8.encode "a.csv.attributes.json".toList]

def names : List Text := ["a.csv".toList, "a.csv.attributes.json".toList]

def lost : Artifact := { relationship := .failure, content := [120, 10] }

def outputs : List (List Artifact) := [[lost], [{ lost with content := [121, 10] }]]

end Sample

theorem sample_preserved :
    artifactNames Sample.paths = .ok Sample.names ∧
      (∀ output ∈ Sample.outputs, (output.map Artifact.relationship).Nodup) ∧
      (Sample.sink.outcome Disk.fresh (assigned Sample.names Sample.outputs)).1 = .ok () ∧
      Preserved Sample.sink
        (Sample.sink.outcome Disk.fresh (assigned Sample.names Sample.outputs)).2
        (assigned Sample.names Sample.outputs) := by
  have named : artifactNames Sample.paths = .ok Sample.names := rfl
  have distinct : ∀ output ∈ Sample.outputs, (output.map Artifact.relationship).Nodup := by decide
  have wrote : (Sample.sink.outcome Disk.fresh (assigned Sample.names Sample.outputs)).1 =
      .ok () := by decide +kernel
  exact ⟨named, distinct, wrote, artifacts_preserved Sample.sink Disk.fresh
    Sample.paths Sample.names
    Sample.outputs named distinct wrote⟩

theorem attributes_overwritten : ¬ ∀ (paths : List Bytes) (names : List Text)
    (outputs : List (List Artifact)), artifactNames paths = .ok names →
      (∀ output ∈ outputs, (output.map Artifact.relationship).Nodup) →
      (Sample.sink.outcome Disk.fresh (assigned names outputs)).1 = .ok () →
      ∀ name a, (name, a) ∈ assigned names outputs →
        (Sample.sink.outcome Disk.fresh (assigned names outputs)).2.read
            (Sample.sink.contentPath a.relationship name) = .ok a.content ∧
          (Sample.sink.outcome Disk.fresh (assigned names outputs)).2.read
            (Sample.sink.sidecarPath a.relationship name) =
              .ok (Utf8.encode (Sample.sink.describe a.attributes)) := by
  intro keeps
  have member : ("a.csv".toList, Sample.lost) ∈ assigned Sample.names Sample.outputs :=
    List.mem_cons_self
  have kept := keeps Sample.paths Sample.names Sample.outputs rfl (by decide)
    (by decide +kernel) _ _
    member
  have taken : (Sample.sink.outcome Disk.fresh (assigned Sample.names Sample.outputs)).2.read
      (Sample.sink.sidecarPath .failure "a.csv".toList) = .ok [121, 10] := by decide +kernel
  have both := taken.symm.trans kept.2
  exact absurd both (by decide +kernel)

end Courier.Files
