import Courier.Proofs.Fleet

set_option autoImplicit false

namespace Courier

open Rehearsal

inductive Deed where
  | openBatch (input : Input)
  | cycle (number : Nat)
  | acknowledge (call : Nat) (signal : Signal)
  | settle

def Deed.perform (x : Exchange) : Deed → Exchange
  | .openBatch input => x.openBatch input
  | .cycle number => ((x.cycle number).map Prod.snd).getD x
  | .acknowledge call signal => (x.acknowledge call signal).2
  | .settle => x.settle

structure Aboard (x : Exchange) (f : Fleet) : Prop where
  publisher : x.publisher = f.publisher
  client : x.client = f.client
  batches : x.batches.toList = f.members.map Member.batch

variable {x : Exchange} {f : Fleet}

theorem aboard_open (aboard : Aboard x f) (input : Input) :
    Aboard (x.openBatch input) (f.step (.launch input)) where
  publisher := aboard.publisher
  client := aboard.client
  batches := by
    simp [Exchange.openBatch, Fleet.step, Member.launch, aboard.batches, aboard.publisher]

theorem aboard_cycle (aboard : Aboard x f) (number : Nat) :
    Aboard (Deed.perform x (.cycle number)) (f.step (.cycle number)) := by
  have same : x.batches[number]? = f.members[number]?.map Member.batch := by
    rw [← List.getElem?_map, ← aboard.batches, Array.getElem?_toList]
  cases found : f.members[number]? with
  | none =>
    rw [found, Option.map_none] at same
    simp only [Deed.perform, Exchange.cycle, same, Fleet.step, found]
    exact aboard
  | some m =>
    rw [found, Option.map_some] at same
    simp only [Deed.perform, Exchange.cycle, same, Fleet.step, found, Option.map_some,
      Option.getD_some, aboard.client]
    refine ⟨aboard.publisher, rfl, ?_⟩
    simp [aboard.batches, List.map_set, Member.cycle]

theorem aboard_events (aboard : Aboard x f) (events : List Tracker.Event) (queue : RunQueue) :
    Aboard { x with batches := x.applyAll events, queue } (f.run (events.map .event)) := by
  induction events generalizing x f with
  | nil =>
    refine ⟨aboard.publisher, aboard.client, Eq.trans ?_ aboard.batches⟩
    simp [Exchange.applyAll, Tracker.applyAll]
  | cons e events ih =>
    have next : Aboard { x with batches := x.applyAll [e] } (f.step (.event e)) := by
      refine ⟨aboard.publisher, aboard.client, ?_⟩
      simp [Exchange.applyAll, aboard.batches, Fleet.step, Member.hear, Tracker.applyAll]
    have all := ih next
    refine ⟨all.publisher, all.client, ?_⟩
    rw [List.map_cons, Fleet.run, List.foldl_cons]
    exact Eq.trans (by simp [Exchange.applyAll, Tracker.applyAll]) all.batches

theorem aboard_deed (aboard : Aboard x f) (deed : Deed) :
    ∃ acts, Aboard (deed.perform x) (f.run acts) := by
  cases deed with
  | openBatch input => exact ⟨[.launch input], aboard_open aboard input⟩
  | cycle number => exact ⟨[.cycle number], aboard_cycle aboard number⟩
  | acknowledge call signal =>
    by_cases taken : (x.script.isManual call && x.any (·.isOpen call)) = true
    · refine ⟨[.event (.resolve call signal)], ?_⟩
      rw [Deed.perform, Exchange.acknowledge, if_pos taken]
      exact aboard_events aboard [.resolve call signal] _
    · refine ⟨[], ?_⟩
      rw [Deed.perform, Exchange.acknowledge, if_neg taken]
      exact aboard
  | settle => exact ⟨_, aboard_events aboard _ _⟩

theorem exchange_aboard (script : Script) (p : Publisher) (deeds : List Deed) :
    ∃ acts, Aboard (deeds.foldl Deed.perform (Exchange.new script p))
      ((Fleet.start p script.client).run acts) := by
  have steps (x : Exchange) (f : Fleet) (aboard : Aboard x f) :
      ∃ acts, Aboard (deeds.foldl Deed.perform x) (f.run acts) := by
    induction deeds generalizing x f with
    | nil => exact ⟨[], aboard⟩
    | cons deed deeds ih =>
      obtain ⟨acts, next⟩ := aboard_deed aboard deed
      obtain ⟨more, last⟩ := ih _ _ next
      refine ⟨acts ++ more, ?_⟩
      rw [Fleet.run, List.foldl_append]
      exact last
  exact steps _ _ ⟨rfl, rfl, rfl⟩

end Courier
