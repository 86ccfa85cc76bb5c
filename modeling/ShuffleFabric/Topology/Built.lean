import ShuffleFabric.Records.Sound
import ShuffleFabric.Topology.Validate

/-!
# ShuffleFabric.Topology.Built

Topologies that come out of the constructor and the mutating member functions, called with
selections in canonical form.

A topology does not check that form (a list selection is searched as a sorted one and counted
up to the first partition outside the shuffle); whoever reads a selection from bytes does.
-/

namespace ShuffleFabric

open Lib

namespace Topology

/-- The selection of a call is in canonical form. -/
def Call.Canonical : Call → Prop
  | .registerConsumer _ _ _ selection => selection.Canonical
  | _ => True

/-- Made by calls whose selections are in canonical form. -/
inductive Built : Topology → Prop
  | make (shuffle : ShuffleId) (shuffleGeneration : ShuffleGeneration) (partitionCount : UInt32)
      (limits : Limits) : Built (make shuffle shuffleGeneration partitionCount limits)
  | call {t t' : Topology} (built : Built t) (call : Call) (canonical : call.Canonical)
      (attempt : t.attempt call = .ok t') : Built t'

/-- What is known of a topology that was built. -/
structure Sound (t : Topology) : Prop where
  consistent : t.Consistent
  tallied : t.Tallied
  canonical : ∀ entry ∈ t.selections, entry.1.Canonical

/-- A call appends at most the selection it carries. -/
theorem selections_attempt {t t' : Topology} {call : Call} (h : t.attempt call = .ok t') :
    t'.selections = t.selections ∨ ∃ id incarnation endpoint selection,
      call = .registerConsumer id incarnation endpoint selection ∧
        t'.selections = t.selections ++ [(selection, selection.canonicalKey)] := by
  cases call with
  | registerProducer id incarnation endpoint =>
      obtain ⟨-, ⟨-, -, -, -, rfl⟩ | ⟨-, rfl⟩⟩ := registerProducer_cases h
      · exact .inl rfl
      · exact .inl rfl
  | registerConsumer id incarnation endpoint selection =>
      obtain ⟨-, pattern, t₁, hintern, hcases⟩ := registerConsumer_cases h
      have hselections : t'.selections = t₁.selections := by
        rcases hcases with ⟨-, -, -, -, -, rfl⟩ | ⟨-, rfl⟩
        · rfl
        · exact selections_enlist _ _ _
      rw [hselections]
      rcases internPattern_cases hintern with ⟨-, rfl⟩ | ⟨-, -, -, rfl⟩
      · exact .inl rfl
      · exact .inr ⟨id, incarnation, endpoint, selection, rfl, selections_interned t selection⟩
  | setProducerState id incarnation state | withdrawProducer id incarnation =>
      obtain ⟨-, -, -, ⟨-, rfl⟩ | ⟨-, rfl⟩⟩ := setProducerState_cases h
      · exact .inl rfl
      · exact .inl rfl
  | setConsumerState id incarnation state | withdrawConsumer id incarnation =>
      obtain ⟨-, -, -, ⟨-, rfl⟩ | ⟨-, rfl⟩⟩ := setConsumerState_cases h
      · exact .inl rfl
      · exact .inl (selections_shifted _ _ _)

theorem Built.sound {t : Topology} (h : t.Built) : t.Sound := by
  induction h with
  | make =>
      refine ⟨consistent_of_empty rfl rfl rfl rfl rfl rfl, tallied_make _ _ _ _, ?_⟩
      intro entry hentry
      cases hentry
  | @call t t' built call canonical hattempt ih =>
      have hperform : t.perform call = t' := by rw [perform, hattempt]
      obtain ⟨hconsistent, htallied, -⟩ := hperform ▸ perform_keeps ih.consistent ih.tallied call
      refine ⟨hconsistent, htallied, fun entry hentry => ?_⟩
      obtain hsame | ⟨id, incarnation, endpoint, selection, rfl, hnew⟩ := selections_attempt hattempt
      · exact ih.canonical entry (hsame ▸ hentry)
      · rw [hnew, List.mem_append, List.mem_singleton] at hentry
        rcases hentry with hentry | rfl
        · exact ih.canonical entry hentry
        · exact canonical

end Topology

end ShuffleFabric
