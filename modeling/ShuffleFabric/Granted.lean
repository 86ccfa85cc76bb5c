import ShuffleFabric.Incarnation
import ShuffleFabric.InFlight

/-!
# ShuffleFabric.Granted

Where the manifests of a coordinator come from, and whom a grant is for.

A manifest is accepted by `publish_manifest` only; and what a wave looks at of a partition is
what its manifest says.
-/

namespace ShuffleFabric

open Lib Action

namespace DispatchGrant

/-- The participant on one side of a grant. -/
def participant (grant : DispatchGrant) : ParticipantKind → UInt64
  | .producer => grant.producer
  | .consumer => grant.consumer

/-- The incarnation that participant was granted under. -/
def incarnation (grant : DispatchGrant) : ParticipantKind → IncarnationId
  | .producer => grant.producerIncarnation
  | .consumer => grant.consumerIncarnation

end DispatchGrant

namespace Coordinator

/-! ## Manifests -/

/-- What a call does to the accepted manifests. -/
inductive ManifestStep (c : Coordinator) (call : Call) (c' : Coordinator) : Prop
  | kept (manifests : c'.manifests = c.manifests) (facts : c'.facts = c.facts)
  | accepted (manifest accepted : PartitionManifest) (call_eq : call = .publishManifest manifest)
      (check : c.checkPublish manifest = .ok accepted)
      (manifests : c'.manifests = c.manifests.insert accepted.partition accepted)
      (facts : c'.facts = c.facts.insert accepted.partition (factsOf accepted))

/-- The look at the end of the shuffle leaves the manifests. -/
theorem Noted.manifests {c c' : Coordinator} (h : Noted c c') :
    c'.manifests = c.manifests ∧ c'.facts = c.facts := by
  cases h with
  | incomplete => exact ⟨rfl, rfl⟩
  | unstored => exact ⟨rfl, rfl⟩
  | completed =>
      rw [entered_eq]
      exact ⟨rfl, rfl⟩

/-- So does a reading. -/
theorem manifests_recordPressure (c : Coordinator) (intent : CongestionIntent) :
    (c.recordPressure intent).manifests = c.manifests ∧
      (c.recordPressure intent).facts = c.facts := by
  unfold recordPressure
  simp only
  split <;> exact ⟨rfl, rfl⟩

/-- `publish_manifest` is the call that moves the manifests. -/
theorem Transition.manifests {c c' : Coordinator} {call : Call} {answer : Result Reply}
    (h : Transition c call answer c') : ManifestStep c call c' := by
  cases h with
  | refused => exact .kept rfl rfl
  | unstored => exact .kept rfl rfl
  | halfOpened request =>
      rw [opening, epochAdvanced_eq]
      exact .kept rfl rfl
  | opened request =>
      rw [entered_eq, opening, epochAdvanced_eq]
      exact .kept rfl rfl
  | cancelledBefore => exact .kept rfl rfl
  | cancelled reason =>
      rw [entered_eq]
      exact .kept rfl rfl
  | ticked => exact .kept rfl rfl
  | registered _ record t t' =>
      obtain ⟨producers, consumers, pending, heq⟩ := (c.persisted
        (DurableRecord.participant record).encode).joinedBy_eq t t' record
      rw [heq]
      exact .kept rfl rfl
  | stateSet kind id incarnation state t t' =>
      obtain ⟨producers, consumers, pending, heq⟩ := (c.persisted (DurableRecord.participant
        (c.stateChange t kind id incarnation state)).encode).joinedBy_eq t t'
        (c.stateChange t kind id incarnation state)
      rw [heq]
      exact .kept rfl rfl
  | published manifest accepted ledger hcheck => exact .accepted manifest accepted rfl hcheck rfl rfl
  | unretired manifest accepted e hcheck => exact .accepted manifest accepted rfl hcheck rfl rfl
  | nothingLeft => exact .kept rfl rfl
  | unplanned => exact .kept rfl rfl
  | planned t scheduler scheduler' plan =>
      obtain ⟨grants, bytes, heq, -⟩ :=
        exists_foldl_admitGrant plan.grants { c with scheduler := scheduler' }
      rw [heq]
      exact .kept rfl rfl
  | committed request receipt ledger _ _ _ _ hnoted =>
      exact .kept hnoted.manifests.1 hnoted.manifests.2
  | failed attempt code record ledger _ _ _ _ hnoted =>
      have hcharged := hnoted.manifests
      rw [charged, advanceClock_eq] at hcharged
      exact .kept hcharged.1 hcharged.2
  | pressured intent =>
      exact .kept (c.manifests_recordPressure intent).1 (c.manifests_recordPressure intent).2

/-- What is known about a partition is what its accepted manifest says. -/
def Described (c : Coordinator) : Prop :=
  ∀ p : PartitionId, c.facts[p]? = (c.manifests[p]?).map factsOf

/-- A manifest that is accepted brings its facts with it. -/
theorem Described.insert {c c' : Coordinator} (h : c.Described) {accepted : PartitionManifest}
    (hmanifests : c'.manifests = c.manifests.insert accepted.partition accepted)
    (hfacts : c'.facts = c.facts.insert accepted.partition (factsOf accepted)) : c'.Described := by
  intro p
  rw [hmanifests, hfacts, Std.ExtTreeMap.getElem?_insert, Std.ExtTreeMap.getElem?_insert]
  split
  · rfl
  · exact h p

theorem Described.congr {c c' : Coordinator} (h : c.Described)
    (hmanifests : c'.manifests = c.manifests) (hfacts : c'.facts = c.facts) : c'.Described := by
  intro p
  rw [hmanifests, hfacts]
  exact h p

/-- A record that is applied keeps the facts with the manifests. -/
theorem Applied.described {c c' : Coordinator} {record : DurableRecord} (h : Applied c record c')
    (hc : c.Described) : c'.Described := by
  cases h with
  | epoch record =>
      rw [epochAdvanced_eq]
      exact hc.congr rfl rfl
  | state record =>
      rw [entered_eq]
      exact hc.congr rfl rfl
  | participant record t t' =>
      obtain ⟨producers, consumers, pending, heq⟩ := c.joinedBy_eq t t' record
      rw [heq]
      exact hc.congr rfl rfl
  | manifest record t ledger => exact hc.insert rfl rfl
  | commit record receipt ledger =>
      rw [advanceClock_eq]
      exact hc.congr rfl rfl
  | failure record ledger =>
      rw [charged, advanceClock_eq]
      exact hc.congr rfl rfl

/-- What is recovered was rebuilt from records. -/
theorem Described.recover {snapshot : Bytes} {journal : List Bytes} {historyIncomplete : Bool}
    {c c' : Coordinator} (hc : c.Regular)
    (h : (recover snapshot journal historyIncomplete).exec c = (.ok (), c')) : c'.Described := by
  obtain ⟨replayed, scratch, hregular, hdescribed, hdemote, -, rfl, -, -⟩ :=
    recover_rebuilt (P := Described) hc h (fun p => by simp [make])
      (fun d d' _ record _ hd _ happlied => happlied.described hd) fun d ledger hd => hd
  obtain ⟨topology, producers, consumers, pending, rfl⟩ := demote_frame hregular hdemote
  refine hdescribed.congr ?_ ?_
  · show (equipped c _).opening.manifests = replayed.manifests
    rw [opening, epochAdvanced_eq]
    rfl
  · show (equipped c _).opening.facts = replayed.facts
    rw [opening, epochAdvanced_eq]
    rfl

/-- Neither a call nor a recovery parts the facts from the manifests. -/
theorem MoveStep.described {c c' : Coordinator} {m : Move} {answer : Result Reply}
    (h : MoveStep c m answer c') (hregular : c.Regular) (hc : c.Described) : c'.Described := by
  cases h with
  | called call _ _ htransition =>
      cases htransition.manifests with
      | kept hmanifests hfacts => exact hc.congr hmanifests hfacts
      | accepted _ accepted _ _ hmanifests hfacts => exact hc.insert hmanifests hfacts
  | unrecovered => exact hc.congr rfl rfl
  | recovered snapshot journal historyIncomplete _ hrun => exact .recover hregular hrun

/-- In every state the facts are those of the manifests. -/
theorem described_of_run {limits : Limits} {sink : Option Sink}
    {events : List (Event Coordinator Move (Result Reply))} {c : Coordinator}
    (run : Run move (make limits sink) events c) : c.Described := by
  induction run with
  | nil => exact fun p => by simp [make]
  | @snoc events c run m ih => exact (move_step (regular_of_run run) m).described (regular_of_run run) ih

/-! ## What a grant is for -/

/-- The edge is required: the consumer is registered, not withdrawn, and selects the
partition. -/
def Requires (c : Coordinator) (partition : PartitionId) (consumer : ConsumerId) : Prop :=
  ∃ t record, c.topology = some t ∧ t.findConsumer consumer = some record ∧
    countsTowardRequirement record.state ∧ (t.pattern record.pattern).covers partition

end Coordinator

end ShuffleFabric
