import ShuffleFabric.Records.Canonical
import ShuffleFabric.Regular
import ShuffleFabric.Topology.Fan

/-!
# ShuffleFabric.Enrolment

Every topology a coordinator holds was built by registrations and state changes whose
selections are in canonical form, in its own life or in one it recovered.

The records of a live coordinator are read back before they are applied, so both lives pass
through the same decoder.
-/

namespace ShuffleFabric

open Lib Action

namespace Coordinator

/-! ## What a step does to the topology -/

/-- What a move does to the topology: nothing, a new one, or one participant more or changed, whose
selection was read back from a record and is therefore sorted. -/
inductive TopologyStep (c c' : Coordinator) : Prop
  | kept (topology : c'.topology = c.topology)
  | made (shuffle : ShuffleId) (shuffleGeneration : ShuffleGeneration) (partitionCount : UInt32)
      (topology : c'.topology =
        some (Topology.make shuffle shuffleGeneration partitionCount c.limits))
  | placed (t t' : Topology) (record : ParticipantRecord) (topology : c.topology = some t)
      (canonical : record.selection.Canonical) (placed : place t record = .ok t')
      (topology' : c'.topology = some t')

/-- A step of a coordinator with the same topology. -/
theorem TopologyStep.of_kept {c d c' : Coordinator} (h : TopologyStep d c')
    (htopology : d.topology = c.topology) (hlimits : d.limits = c.limits) : TopologyStep c c' := by
  cases h with
  | kept h => exact .kept (h.trans htopology)
  | made shuffle generation count h => exact .made shuffle generation count (hlimits ▸ h)
  | placed t t' record h hcanonical hplace h' =>
      exact .placed t t' record (htopology ▸ h) hcanonical hplace h'

/-- A lifecycle record makes a topology when it opens the shuffle, and else leaves it. -/
theorem topologyStep_entered (c : Coordinator) (record : ShuffleStateRecord) :
    TopologyStep c (c.entered record) := by
  rw [entered_eq]
  by_cases hopen : record.state = .open
  · simp only [hopen, if_true]
    cases ht : c.topology with
    | some t =>
        refine .kept ?_
        simp [openFrom, ht]
    | none =>
        refine .made record.shuffle record.generation record.partitionCount ?_
        simp only [openFrom, ht, Option.getD_none]
        rfl
  · simp only [hopen, if_false]
    exact .kept rfl

/-- The look at the end of a shuffle leaves the topology. -/
theorem Noted.topologyStep {c c' : Coordinator} (h : Noted c c') : TopologyStep c c' := by
  cases h with
  | incomplete => exact .kept rfl
  | unstored => exact .kept rfl
  | completed =>
      exact (topologyStep_entered (c.persisted
        (DurableRecord.shuffleState c.completion).encode) c.completion).of_kept rfl rfl

/-- A participant that joins is placed in the topology there is. -/
theorem topologyStep_joinedBy {c : Coordinator} {bytes : Bytes} {t t' : Topology}
    {record : ParticipantRecord} (ht : c.topology = some t)
    (hcanonical : record.selection.Canonical) (hplace : place t record = .ok t') :
    TopologyStep c ((c.persisted bytes).joinedBy t t' record) :=
  .placed t t' record ht hcanonical hplace (topology_joinedBy _ t t' record)

/-- A selection that was made durable was read back, and only a sorted one is. -/
theorem canonical_of_storeAnswer {c : Coordinator} {record : ParticipantRecord}
    (hmeasured : Measured (.participant record))
    (h : c.storeAnswer (.participant record) = .ok ()) : record.selection.Canonical :=
  (storeAnswer_ok hmeasured h).2.2.2.2.2.2

/-- A call keeps the topology, opens one, or applies one participant record to it. -/
theorem Transition.topologyStep {c c' : Coordinator} {call : Call} {answer : Result Reply}
    (h : Transition c call answer c') : TopologyStep c c' := by
  cases h with
  | refused | unstored | cancelledBefore | ticked | published | unretired | nothingLeft
  | unplanned => exact .kept rfl
  | halfOpened request e =>
      obtain ⟨-, htopology, -, -⟩ := c.opening_frame
      exact .kept htopology
  | opened request =>
      obtain ⟨-, htopology, hlimits, -⟩ := c.opening_frame
      exact (topologyStep_entered (c.opening.persisted (DurableRecord.shuffleState
        (stateRecord request .open .ok c.opening.clock)).encode) _).of_kept htopology hlimits
  | cancelled reason =>
      exact (topologyStep_entered (c.persisted (DurableRecord.shuffleState
        (stateRecord c.request .cancelled reason c.clock)).encode) _).of_kept rfl rfl
  | registered _ record t t' hregistration hopen hanswer hregister =>
      have hplace := place_of_active (active_of_registration hregistration) hregister
      exact topologyStep_joinedBy (ensureOpen_ok hopen).2
        (canonical_of_storeAnswer (measured_of_registerFrom hregister) hanswer) hplace
  | stateSet kind id incarnation state t t' hopen hcheck hanswer hplace =>
      exact topologyStep_joinedBy (ensureOpen_ok hopen).2
        (canonical_of_storeAnswer (measured_of_place hplace) hanswer) hplace
  | planned t scheduler scheduler' plan =>
      exact .kept (foldl_admitGrant_frame plan.grants { c with scheduler := scheduler' }).2.1
  | committed request receipt ledger _ hcheck hsink hcommit hnoted =>
      exact hnoted.topologyStep.of_kept rfl rfl
  | failed attempt code record ledger _ hcheck hsink hfailure hnoted =>
      refine hnoted.topologyStep.of_kept ?_ ?_ <;>
      · rw [charged, advanceClock_eq]
        rfl
  | pressured intent =>
      refine .kept ?_
      unfold recordPressure
      simp only
      split <;> rfl

/-- A record of the journal, on replay. -/
theorem Applied.topologyStep {c c' : Coordinator} {record : DurableRecord} {bytes : Bytes}
    (hdecode : decodeRecord c.limits bytes = .ok record) (h : Applied c record c') :
    TopologyStep c c' := by
  cases h with
  | epoch record =>
      rw [epochAdvanced_eq]
      exact .kept rfl
  | state record => exact topologyStep_entered c record
  | participant record t t' ht hplace =>
      exact .placed t t' record ht (canonical_of_decodeRecord hdecode) hplace
        (topology_joinedBy c t t' record)
  | manifest record t ledger => exact .kept rfl
  | commit record receipt ledger =>
      rw [advanceClock_eq]
      exact .kept rfl
  | failure record ledger =>
      rw [charged, advanceClock_eq]
      exact .kept rfl

/-! ## Every topology was built -/

/-- The topology of the coordinator, if it has one, was built. -/
def Enrolled (c : Coordinator) : Prop := ∀ t, c.topology = some t → t.Built

/-- A registration of either kind is a step of what was built. -/
theorem built_registerFrom {t t' : Topology} {record : ParticipantRecord} (ht : t.Built)
    (hcanonical : record.selection.Canonical) (h : registerFrom t record = .ok t') : t'.Built := by
  unfold registerFrom at h
  split at h
  · exact .call ht (.registerProducer _ _ _) trivial h
  · exact .call ht (.registerConsumer _ _ _ _) hcanonical h

/-- A change of state is a step of what was built. -/
theorem built_setStateFrom {t t' : Topology} {record : ParticipantRecord} (ht : t.Built)
    (h : setStateFrom t record = .ok t') : t'.Built := by
  unfold setStateFrom at h
  split at h
  · exact .call ht (.setProducerState _ _ _) trivial h
  · exact .call ht (.setConsumerState _ _ _) trivial h

/-- So is what replay makes of a participant record. -/
theorem built_place {t t' : Topology} {record : ParticipantRecord} (ht : t.Built)
    (hcanonical : record.selection.Canonical) (h : place t record = .ok t') : t'.Built := by
  obtain ⟨registered, hregister, h⟩ := bind_eq_ok.mp h
  have hregistered := built_registerFrom ht hcanonical hregister
  by_cases hactive : record.state = .active
  · rw [if_pos hactive] at h
    cases h
    exact hregistered
  · rw [if_neg hactive] at h
    exact built_setStateFrom hregistered h

/-- Every step keeps the topology built. -/
theorem TopologyStep.enrolled {c c' : Coordinator} (h : TopologyStep c c') (hc : c.Enrolled) :
    c'.Enrolled := by
  intro t' ht'
  cases h with
  | kept h => exact hc t' (h ▸ ht')
  | made shuffle generation count h =>
      rw [h] at ht'
      cases ht'
      exact .make shuffle generation count c.limits
  | placed t _ record ht hcanonical hplace h =>
      rw [h] at ht'
      cases ht'
      exact built_place (hc t ht) hcanonical hplace

/-- Recovery demotes the producers one by one, by changes of state. -/
theorem demoteProducers_enrolled {records : List ProducerRecord} {c c' : Coordinator}
    {suspect suspect' : UInt32} (hc : c.Enrolled)
    (h : demoteProducers records c suspect = .ok (c', suspect')) : c'.Enrolled := by
  induction records generalizing c suspect with
  | nil =>
      cases h
      exact hc
  | cons record records ih =>
      unfold demoteProducers at h
      split at h
      · exact ih hc h
      · cases ht : c.topology with
        | none =>
            rw [ht] at h
            cases h
            exact hc
        | some t =>
            rw [ht] at h
            obtain ⟨demoted, hset, h⟩ := bind_eq_ok.mp h
            refine ih ?_ h
            rintro _ ⟨⟩
            exact .call (hc t ht) (.setProducerState _ _ _) trivial hset

/-- It demotes the consumers in the same way. -/
theorem demoteConsumers_enrolled {records : List ConsumerRecord} {c c' : Coordinator}
    {suspect suspect' : UInt32} (hc : c.Enrolled)
    (h : demoteConsumers records c suspect = .ok (c', suspect')) : c'.Enrolled := by
  induction records generalizing c suspect with
  | nil =>
      cases h
      exact hc
  | cons record records ih =>
      unfold demoteConsumers at h
      split at h
      · exact ih hc h
      · cases ht : c.topology with
        | none =>
            rw [ht] at h
            cases h
            exact hc
        | some t =>
            rw [ht] at h
            obtain ⟨demoted, hset, h⟩ := bind_eq_ok.mp h
            refine ih ?_ h
            rintro _ ⟨⟩
            exact .call (hc t ht) (.setConsumerState _ _ _) trivial hset

/-- Both loops of the demotion together. -/
theorem Enrolled.demote {c c' : Coordinator} (hc : c.Enrolled) (h : c.demote = .ok c') :
    c'.Enrolled := by
  obtain ⟨⟨d, suspect⟩, hproducers, h⟩ := bind_eq_ok.mp h
  obtain ⟨⟨d', suspect'⟩, hconsumers, h⟩ := bind_eq_ok.mp h
  cases h
  have henrolled := demoteConsumers_enrolled (demoteProducers_enrolled hc hproducers) hconsumers
  exact henrolled

/-- The topology a recovery adopts was built by the records it replayed. -/
theorem Enrolled.recover {snapshot : Bytes} {journal : List Bytes} {historyIncomplete : Bool}
    {c c' : Coordinator} (hc : c.Regular)
    (h : (recover snapshot journal historyIncomplete).exec c = (.ok (), c')) : c'.Enrolled := by
  obtain ⟨replayed, scratch, -, henrolled, hdemote, -, rfl, -, -⟩ :=
    recover_rebuilt (P := Enrolled) hc h (fun _ h => by cases h)
      (fun _ _ _ _ _ hd hdecode happlied => (happlied.topologyStep hdecode).enrolled hd)
      fun _ _ hd => hd
  obtain ⟨-, htopology, -, -⟩ := (c.equipped scratch).opening_frame
  intro t ht
  have ht : (c.equipped scratch).opening.topology = some t := ht
  rw [htopology] at ht
  exact henrolled.demote hdemote t ht

/-- Whatever happened to a coordinator, its topology was built. -/
theorem enrolled_of_run {limits : Limits} {sink : Option Sink}
    {events : List (Event Coordinator Move (Result Reply))} {c : Coordinator}
    (run : Run move (make limits sink) events c) : c.Enrolled := by
  have hboth : c.Regular ∧ c.Enrolled := by
    refine run.invariant (P := fun c => c.Regular ∧ c.Enrolled)
      ⟨regular_make limits sink, fun _ h => (by cases h)⟩ fun d m hd => ⟨hd.1.move m, ?_⟩
    generalize hanswer : (d.move m).1 = answer
    generalize hd' : (d.move m).2 = d'
    have hstep : MoveStep d m answer d' := hanswer ▸ hd' ▸ move_step hd.1 m
    cases hstep with
    | called call _ _ htransition => exact htransition.topologyStep.enrolled hd.2
    | unrecovered => exact hd.2
    | recovered snapshot journal historyIncomplete _ hrun => exact .recover hd.1 hrun
  exact hboth.2

/-! ## The closed forms -/

/-- The edges a topology requires: a partition, and a consumer that counts and covers it. -/
def edgePairs (t : Topology) : Set (Nat × ConsumerRecord) :=
  {pair | pair.1 < t.partitionCount.toNat ∧ pair.2 ∈ t.consumers ∧ pair.2.state ≠ .withdrawn ∧
    (t.pattern pair.2.pattern).covers (UInt64.ofNat pair.1) = true}

/-- The required edges, partition by partition. -/
theorem ncard_edgePairs {t : Topology} (ht : t.Consistent) :
    (edgePairs t).ncard = ∑ p ∈ Finset.range t.partitionCount.toNat,
      (t.requiring (UInt64.ofNat p)).length := by
  have hnodup : t.consumers.Nodup := (ht.consumers_sorted.nodup_keys).of_map
  have hpairs := ncard_pairs (Finset.range t.partitionCount.toNat) hnodup fun p c =>
    countsTowardRequirement c.state && (t.pattern c.pattern).covers (UInt64.ofNat p)
  simp only [Finset.mem_range, Bool.and_eq_true, countsTowardRequirement, bne_iff_ne] at hpairs
  rw [edgePairs, hpairs]
  refine Finset.sum_congr rfl fun p _ => ?_
  rw [Topology.requiring, Topology.counting, List.filter_filter]
  congr 2
  funext c
  rw [Bool.and_comm]
  rfl

/-- Whatever happened to a coordinator, if its planned edges can be counted they are the pairs
that are required, and as many as the consumers counted partition by partition. -/
theorem planned_edges {limits : Limits} {sink : Option Sink}
    {events : List (Event Coordinator Move (Result Reply))} {c : Coordinator} {t : Topology}
    {edges : UInt64} (run : Run move (make limits sink) events c) (ht : c.topology = some t)
    (hedges : t.plannedEdgeCount = .ok edges) :
    edges.toNat = (edgePairs t).ncard ∧
      (∃ fan : Nat → UInt32,
        (∀ p < t.partitionCount.toNat, t.fanOut (UInt64.ofNat p) = .ok (fan p)) ∧
        edges.toNat = ∑ p ∈ Finset.range t.partitionCount.toNat, (fan p).toNat) ∧
      edges.toNat = ∑ p ∈ Finset.range t.partitionCount.toNat,
        t.coveringConsumerCount (UInt64.ofNat p) ∧
      edges.toNat = ∑ p ∈ Finset.range t.partitionCount.toNat,
        (t.coveringConsumers (UInt64.ofNat p)).length ∧
      ∀ partition, (t.coveringConsumers partition).Nodup := by
  have hsound := (enrolled_of_run run t ht).sound
  have hconsistent := hsound.consistent
  have htotal := (Topology.plannedEdgeCount_eq_ok hconsistent).mp hedges
  rw [Topology.requiredEdges_eq hsound] at htotal
  have hinside : ∀ p, p < t.partitionCount.toNat →
      UInt64.ofNat p < t.partitionCount.toUInt64 := by
    intro p hp
    rw [UInt64.lt_iff_toNat_lt, Topology.toNat_ofNat_of_mem_range hp]
    exact hp
  refine ⟨?_, ?_, ?_, ?_, Topology.nodup_coveringConsumers hconsistent⟩
  · rw [htotal, ncard_edgePairs hconsistent]
  · have hfan : ∀ p, ∃ fan, p < t.partitionCount.toNat → t.fanOut (UInt64.ofNat p) = .ok fan ∧
        fan.toNat = (t.requiring (UInt64.ofNat p)).length := by
      intro p
      by_cases hp : p < t.partitionCount.toNat
      · obtain ⟨fan, hfan, hcount⟩ := Topology.fanOut_eq hsound (hinside p hp)
        exact ⟨fan, fun _ => ⟨hfan, hcount⟩⟩
      · exact ⟨0, fun hlt => absurd hlt hp⟩
    choose fan hfan using hfan
    refine ⟨fan, fun p hp => (hfan p hp).1, ?_⟩
    rw [htotal]
    exact Finset.sum_congr rfl fun p hp => ((hfan p (Finset.mem_range.mp hp)).2).symm
  · rw [htotal]
    exact Finset.sum_congr rfl fun p hp =>
      (Topology.coveringConsumerCount_eq hconsistent (hinside p (Finset.mem_range.mp hp))).symm
  · rw [htotal]
    exact Finset.sum_congr rfl fun p hp =>
      (Topology.length_coveringConsumers hconsistent (hinside p (Finset.mem_range.mp hp))).symm

/-- Two consumers, one of all four partitions and one of two of them. -/
def fewConsumers : List Move :=
  [.call (.openShuffle (smallOpen 4)), .call (.registerProducer 1 1 []),
    .call (.registerConsumer 2 1 [] {}),
    .call (.registerConsumer 3 1 [] { kind := .range, first := 1, last := 3 })]

/-- Three consumers on four partitions, with selections of each kind. -/
theorem planned_edges_small : ∃ t,
    (final move (make {} (some acceptAll)) fewConsumers).topology = some t ∧
      (edgePairs t).ncard = 6 := by
  have hplanned : (final move (make {} (some acceptAll)) fewConsumers).topology.map
      Topology.plannedEdgeCount = some (.ok 6) := by
    decide +kernel
  obtain ⟨t, ht, hedges⟩ := Option.map_eq_some_iff.mp hplanned
  exact ⟨t, ht, ((planned_edges (Run.of_inputs _ _ fewConsumers) ht hedges).1).symm⟩

/-- Whatever happened to a coordinator, the fan-in of a registered consumer is the number of
producers that own a partition it requires. -/
theorem fan_in {limits : Limits} {sink : Option Sink}
    {events : List (Event Coordinator Move (Result Reply))} {c : Coordinator} {t : Topology}
    {id : ConsumerId} {record : ConsumerRecord} (run : Run move (make limits sink) events c)
    (ht : c.topology = some t) (hfind : t.findConsumer id = some record) :
    ∃ fan, t.fanIn id = .ok fan ∧
      fan.toNat = {owner | ∃ p, (t.pattern record.pattern).covers p = true ∧
        t.ownerOf p = .ok owner}.ncard ∧
      (t.activeProducers = [] → fan = 0) := by
  obtain ⟨fan, hfan, hcard⟩ := Topology.fanIn_eq (enrolled_of_run run t ht).sound hfind
  refine ⟨fan, hfan, hcard, fun hnone => ?_⟩
  rw [Topology.sources_of_no_producer hnone, Set.ncard_empty] at hcard
  exact UInt32.toNat_inj.mp hcard

/-- A consumer whose partitions all have one owner. -/
theorem fan_in_small : ∃ t record,
    (final move (make {} (some acceptAll)) fewConsumers).topology = some t ∧
      t.findConsumer 3 = some record ∧
      {owner | ∃ p, (t.pattern record.pattern).covers p = true ∧
        t.ownerOf p = .ok owner}.ncard = 1 := by
  have hfan : (final move (make {} (some acceptAll)) fewConsumers).topology.map
      (fun t => (t.fanIn 3, (t.findConsumer 3).isSome)) = some (.ok 1, true) := by
    decide +kernel
  obtain ⟨t, ht, hfan⟩ := Option.map_eq_some_iff.mp hfan
  obtain ⟨hfan, hsome⟩ := Prod.mk.inj hfan
  obtain ⟨record, hfind⟩ := Option.isSome_iff_exists.mp hsome
  obtain ⟨fan, hfan', hcard, -⟩ := fan_in (Run.of_inputs _ _ fewConsumers) ht hfind
  rw [hfan] at hfan'
  cases hfan'
  exact ⟨t, record, ht, hfind, hcard.symm⟩

end Coordinator

end ShuffleFabric
