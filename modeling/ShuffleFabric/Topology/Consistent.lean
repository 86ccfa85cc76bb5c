import ShuffleFabric.Topology

/-!
# ShuffleFabric.Topology.Consistent

What every topology keeps: the participants sorted by identifier, each with an
identifier and an incarnation, and a pattern table in which the canonical key of a
selection leads back to its index.

Each mutating operation is first inverted (`registerProducer_cases` and so on): what a
successful call found, and which of a few updates it made.  The updates are the only
places where the invariant is proved again.
-/

namespace ShuffleFabric

open Lib

namespace Topology

/-! ## What the operations do -/

/-- A producer is found under its own identifier. -/
theorem id_of_findProducer {t : Topology} {id : ProducerId} {record : ProducerRecord}
    (h : t.findProducer id = some record) : record.id = id := (mem_of_search h).2

/-- A consumer is found under its own identifier. -/
theorem id_of_findConsumer {t : Topology} {id : ConsumerId} {record : ConsumerRecord}
    (h : t.findConsumer id = some record) : record.id = id := (mem_of_search h).2

/-- What the checks of `register_producer` ask for: identifiers that are set, an endpoint within its
bound, room for one more, and no second incarnation beside a live one. -/
theorem checkProducerRegistration_ok {t : Topology} {id : ProducerId} {incarnation : IncarnationId}
    {endpoint : Bytes} (h : t.checkProducerRegistration id incarnation endpoint = .ok ()) :
    id ≠ 0 ∧ incarnation ≠ 0 ∧ endpoint.length ≤ t.limits.maxEndpointBytes.toNat ∧
      (t.findProducer id = none → t.producers.length < t.limits.maxParticipants.toNat) ∧
      ∀ existing, t.findProducer id = some existing → existing.incarnation = incarnation →
        existing.endpoint = endpoint := by
  simp only [checkProducerRegistration, bind_eq_ok, refuseIf_eq_ok, exists_const] at h
  obtain ⟨hid, hincarnation, hendpoint, h⟩ := h
  refine ⟨hid, hincarnation, by omega, fun hnone => ?_, fun existing hsome hsame => ?_⟩
  · rw [hnone] at h
    simp only [refuseIf_eq_ok] at h
    omega
  · rw [hsome] at h
    simp only [refuseIf_eq_ok, not_and, not_not] at h
    exact h hsame

/-- A successful registration of a producer either found it as it is, or put a new active
incarnation in its place. -/
theorem registerProducer_cases {t t' : Topology} {id : ProducerId} {incarnation : IncarnationId}
    {endpoint : Bytes} (h : t.registerProducer id incarnation endpoint = .ok t') :
    t.checkProducerRegistration id incarnation endpoint = .ok () ∧
      ((∃ existing, t.findProducer id = some existing ∧ existing.incarnation = incarnation ∧
          existing.endpoint = endpoint ∧ t' = t) ∨
        (∀ existing, t.findProducer id = some existing → existing.incarnation ≠ incarnation) ∧
          t' = t.putProducer ⟨id, incarnation, .active, endpoint⟩) := by
  obtain ⟨u, hcheck, h⟩ := bind_eq_ok.mp h
  refine ⟨hcheck, ?_⟩
  cases hfind : t.findProducer id with
  | none =>
      simp only [hfind] at h
      split at h
      · cases h
      · cases h
        exact .inr ⟨fun _ hsome => (by cases hsome), rfl⟩
  | some existing =>
      simp only [hfind] at h
      split at h
      · next hsame =>
          split at h
          · cases h
          · next hendpoint =>
              cases h
              exact .inl ⟨existing, rfl, hsame, not_not.mp hendpoint, rfl⟩
      · next hother =>
          cases h
          refine .inr ⟨?_, by rw [id_of_findProducer hfind]⟩
          rintro _ ⟨⟩
          exact hother

/-- The checks of a registration are all it depends on. -/
theorem registerProducer_of_check {t : Topology} {id : ProducerId} {incarnation : IncarnationId}
    {endpoint : Bytes} (h : t.checkProducerRegistration id incarnation endpoint = .ok ()) :
    ∃ t', t.registerProducer id incarnation endpoint = .ok t' := by
  obtain ⟨-, -, -, hroom, hendpoint⟩ := checkProducerRegistration_ok h
  unfold registerProducer
  simp only [h, bind, Except.bind]
  cases hfind : t.findProducer id with
  | none =>
      simp only
      rw [if_neg (by have := hroom hfind; omega)]
      exact ⟨_, rfl⟩
  | some existing =>
      simp only
      split
      · next hsame =>
          rw [if_neg (by simpa using hendpoint existing hfind hsame)]
          exact ⟨_, rfl⟩
      · exact ⟨_, rfl⟩

/-- A change of state is for the registered incarnation, and it is nothing or one record. -/
theorem setProducerState_cases {t t' : Topology} {id : ProducerId} {incarnation : IncarnationId}
    {state : ParticipantState} (h : t.setProducerState id incarnation state = .ok t') :
    ∃ record, t.findProducer id = some record ∧ record.incarnation = incarnation ∧
      (record.state = state ∧ t' = t ∨
        record.state ≠ state ∧ t' = t.putProducer { record with state }) := by
  obtain ⟨u, hcheck, h⟩ := bind_eq_ok.mp h
  simp only [checkParticipantState, bind_eq_ok, refuseIf_eq_ok, exists_const] at hcheck
  cases hfind : t.findProducer id with
  | none =>
      rw [hfind] at hcheck
      cases hcheck.2
  | some record =>
      simp only [hfind, refuseIf_eq_ok, not_not] at hcheck h
      refine ⟨record, rfl, hcheck.2, ?_⟩
      split at h
      · next hsame =>
          cases h
          exact .inl ⟨hsame, rfl⟩
      · next hother =>
          cases h
          exact .inr ⟨hother, rfl⟩

/-- The topology with a pattern appended to its table. -/
def interned (t : Topology) (selection : PartitionSelection) : Topology :=
  ({ t with
    patterns := t.patterns ++ [{ selection, key := selection.canonicalKey }]
    patternIndex := t.patternIndex.insertIfNew selection.canonicalKey t.patterns.length
    internedSelectionItems := t.internedSelectionItems + selection.internedItems } :
      Topology).rebuildPatternOrder

/-- A selection is known under its canonical key, or it is new and appended. -/
theorem internPattern_cases {t t' : Topology} {selection : PartitionSelection} {pattern : Nat}
    (h : t.internPattern selection = .ok (pattern, t')) :
    t.patternIndex[selection.canonicalKey]? = some pattern ∧ t' = t ∨
      t.patternIndex[selection.canonicalKey]? = none ∧ t.checkNewPattern selection = .ok () ∧
        pattern = t.patterns.length ∧ t' = t.interned selection := by
  unfold internPattern at h
  cases hindex : t.patternIndex[selection.canonicalKey]? with
  | some index =>
      simp only [hindex, pure_eq_ok] at h
      cases h
      exact .inl ⟨rfl, rfl⟩
  | none =>
      simp only [hindex, bind_eq_ok, pure_eq_ok] at h
      obtain ⟨u, hcheck, h⟩ := h
      cases h
      exact .inr ⟨rfl, hcheck, rfl, rfl⟩

/-- The topology with a consumer record in place and under its pattern. -/
def enlist (t : Topology) (previous : Option ConsumerRecord) (record : ConsumerRecord) : Topology :=
  let t :=
    match previous with
    | some existing => t.removeConsumerFromPattern existing.pattern record.id
    | none => t
  ((t.putConsumer record).addConsumerToPattern record.pattern record.id).bumpGeneration

/-- What the checks of `register_consumer` ask for; a consumer also needs partitions and a selection
that is within them. -/
theorem checkConsumerRegistration_ok {t : Topology} {id : ConsumerId} {incarnation : IncarnationId}
    {endpoint : Bytes} {selection : PartitionSelection}
    (h : t.checkConsumerRegistration id incarnation endpoint selection = .ok ()) :
    id ≠ 0 ∧ incarnation ≠ 0 ∧ endpoint.length ≤ t.limits.maxEndpointBytes.toNat ∧
      t.partitionCount ≠ 0 ∧ t.checkSelection selection = .ok () ∧
      (t.findConsumer id = none → t.consumers.length < t.limits.maxParticipants.toNat) ∧
      (t.patternIndex[selection.canonicalKey]? = none → t.checkNewPattern selection = .ok ()) := by
  simp only [checkConsumerRegistration, bind_eq_ok, refuseIf_eq_ok, exists_const] at h
  obtain ⟨hid, hincarnation, hendpoint, hcount, u, hselection, hroom, hpattern⟩ := h
  refine ⟨hid, hincarnation, by omega, hcount, hselection, fun hnone => ?_, fun hnone => ?_⟩
  · rw [hnone] at hroom
    simpa using hroom
  · rw [hnone] at hpattern
    exact hpattern

/-- A successful registration of a consumer either found it as it is, or put a new active
record in its place. -/
theorem registerConsumer_cases {t t' : Topology} {id : ConsumerId} {incarnation : IncarnationId}
    {endpoint : Bytes} {selection : PartitionSelection}
    (h : t.registerConsumer id incarnation endpoint selection = .ok t') :
    t.checkConsumerRegistration id incarnation endpoint selection = .ok () ∧
      ∃ pattern t₁, t.internPattern selection = .ok (pattern, t₁) ∧
        ((∃ existing, t.findConsumer id = some existing ∧ existing.incarnation = incarnation ∧
            existing.pattern = pattern ∧ existing.endpoint = endpoint ∧ t' = t₁) ∨
          (∀ existing, t.findConsumer id = some existing → ¬(existing.incarnation = incarnation ∧
            existing.pattern = pattern ∧ existing.endpoint = endpoint)) ∧
          t' = t₁.enlist (t.findConsumer id) ⟨id, incarnation, .active, endpoint, pattern⟩) := by
  obtain ⟨u, hcheck, h⟩ := bind_eq_ok.mp h
  obtain ⟨⟨pattern, t₁⟩, hintern, h⟩ := bind_eq_ok.mp h
  refine ⟨hcheck, pattern, t₁, hintern, ?_⟩
  have hconsumers : t₁.findConsumer id = t.findConsumer id := by
    rcases internPattern_cases hintern with ⟨-, rfl⟩ | ⟨-, -, -, rfl⟩ <;> rfl
  simp only [hconsumers] at h
  cases hfind : t.findConsumer id with
  | none =>
      simp only [hfind] at h
      cases h
      exact .inr ⟨fun _ hsome => (by cases hsome), rfl⟩
  | some existing =>
      simp only [hfind] at h
      split at h
      · next hsame =>
          cases h
          exact .inl ⟨existing, rfl, hsame.1, hsame.2.1, hsame.2.2, rfl⟩
      · next hother =>
          cases h
          refine .inr ⟨?_, ?_⟩
          · rintro _ ⟨⟩
            exact hother
          · rw [enlist, ← id_of_findConsumer hfind]

/-- A consumer that passes the checks is registered. -/
theorem registerConsumer_of_check {t : Topology} {id : ConsumerId} {incarnation : IncarnationId}
    {endpoint : Bytes} {selection : PartitionSelection}
    (h : t.checkConsumerRegistration id incarnation endpoint selection = .ok ()) :
    ∃ t', t.registerConsumer id incarnation endpoint selection = .ok t' := by
  obtain ⟨-, -, -, -, -, -, hnew⟩ := checkConsumerRegistration_ok h
  obtain ⟨pattern, t₁, hintern⟩ : ∃ pattern t₁, t.internPattern selection = .ok (pattern, t₁) := by
    unfold internPattern
    cases hindex : t.patternIndex[selection.canonicalKey]? with
    | some index =>
        simp only [hindex]
        exact ⟨_, _, rfl⟩
    | none =>
        simp only [hindex, hnew hindex, bind, Except.bind]
        exact ⟨_, _, rfl⟩
  unfold registerConsumer
  simp only [h, hintern, bind, Except.bind]
  cases t₁.findConsumer id with
  | none => exact ⟨_, rfl⟩
  | some existing =>
      simp only
      split <;> exact ⟨_, rfl⟩

/-- The topology with a consumer's state changed, and its pattern's list with it. -/
def shifted (t : Topology) (record : ConsumerRecord) (state : ParticipantState) : Topology :=
  let moved := t.putConsumer { record with state }
  bumpGeneration <|
    if countsTowardRequirement record.state ∧ ¬countsTowardRequirement state then
      moved.removeConsumerFromPattern record.pattern record.id
    else if ¬countsTowardRequirement record.state ∧ countsTowardRequirement state then
      moved.addConsumerToPattern record.pattern record.id
    else moved

/-- A change of a consumer's state also moves it in or out of the list of its pattern. -/
theorem setConsumerState_cases {t t' : Topology} {id : ConsumerId} {incarnation : IncarnationId}
    {state : ParticipantState} (h : t.setConsumerState id incarnation state = .ok t') :
    ∃ record, t.findConsumer id = some record ∧ record.incarnation = incarnation ∧
      (record.state = state ∧ t' = t ∨ record.state ≠ state ∧ t' = t.shifted record state) := by
  obtain ⟨u, hcheck, h⟩ := bind_eq_ok.mp h
  simp only [checkParticipantState, bind_eq_ok, refuseIf_eq_ok, exists_const] at hcheck
  cases hfind : t.findConsumer id with
  | none =>
      rw [hfind] at hcheck
      cases hcheck.2
  | some record =>
      simp only [hfind, refuseIf_eq_ok, not_not] at hcheck h
      refine ⟨record, rfl, hcheck.2, ?_⟩
      split at h
      · next hsame =>
          cases h
          exact .inl ⟨hsame, rfl⟩
      · next hother =>
          cases h
          exact .inr ⟨hother, by rw [shifted, id_of_findConsumer hfind]⟩

/-! ## The invariant -/

/-- The pattern table without the consumers in it. -/
def selections (t : Topology) : List (PartitionSelection × Bytes) :=
  t.patterns.map fun entry => (entry.selection, entry.key)

/-- Every topology a coordinator holds. -/
structure Consistent (t : Topology) : Prop where
  producers_sorted : Sorted ProducerRecord.id t.producers
  consumers_sorted : Sorted ConsumerRecord.id t.consumers
  producers : ∀ p ∈ t.producers, p.id ≠ 0 ∧ p.incarnation ≠ 0 ∧
    p.endpoint.length ≤ t.limits.maxEndpointBytes.toNat
  consumers : ∀ c ∈ t.consumers, c.id ≠ 0 ∧ c.incarnation ≠ 0 ∧
    c.endpoint.length ≤ t.limits.maxEndpointBytes.toNat ∧ c.pattern < t.selections.length
  partitioned : t.consumers ≠ [] → t.partitionCount ≠ 0
  valid : ∀ entry ∈ t.selections, t.checkSelection entry.1 = .ok ()
  keys : ∀ (i : Nat) (entry : PartitionSelection × Bytes), t.selections[i]? = some entry →
    entry.2 = entry.1.canonicalKey ∧ t.patternIndex[entry.2]? = some i
  index : ∀ (key : Bytes) (i : Nat), t.patternIndex[key]? = some i →
    ∃ selection, t.selections[i]? = some (selection, key)
  active : t.activeProducers = (t.producers.filter (holdsAuthority ·.state)).map (·.id)
  order : t.patternOrder.Perm (List.range t.selections.length)
  lists : ∀ i, Sorted (fun c => c) (t.consumersOfPattern i)
  listed : ∀ (i : Nat) (id : ConsumerId), id ∈ t.consumersOfPattern i ↔
    ∃ record ∈ t.consumers, record.id = id ∧ record.pattern = i ∧
      countsTowardRequirement record.state = true

/-- A topology without participants. -/
theorem consistent_of_empty {t : Topology} (hproducers : t.producers = [])
    (hconsumers : t.consumers = []) (hpatterns : t.patterns = []) (hindex : t.patternIndex = {})
    (hactive : t.activeProducers = []) (horder : t.patternOrder = []) : t.Consistent where
  producers_sorted := hproducers ▸ sorted_nil
  consumers_sorted := hconsumers ▸ sorted_nil
  producers := by simp [hproducers]
  consumers := by simp [hconsumers]
  partitioned h := absurd hconsumers h
  valid := by simp [selections, hpatterns]
  keys := by simp [selections, hpatterns]
  index := by simp [hindex]
  active := by simp [hproducers, hactive]
  order := by simp [selections, hpatterns, horder]
  lists i := by simp [consumersOfPattern, hpatterns, sorted_nil]
  listed i id := by simp [consumersOfPattern, hpatterns, hconsumers]

/-- The selections do not depend on who is listed under them. -/
theorem selections_modify (t : Topology) (index : Nat) (f : List ConsumerId → List ConsumerId) :
    ({ t with patterns := t.patterns.modify index fun entry =>
      { entry with consumers := f entry.consumers } } : Topology).selections = t.selections := by
  unfold selections
  refine List.ext_getElem? fun i => ?_
  simp only [List.getElem?_map, List.getElem?_modify]
  cases t.patterns[i]? with
  | none => rfl
  | some entry =>
      simp only [Option.map_some]
      split <;> rfl

/-- A pattern is the selection of its entry in the table. -/
theorem pattern_eq (t : Topology) (index : Nat) :
    t.pattern index = (t.selections[index]?.map (·.1)).getD {} := by
  unfold pattern selections
  rw [List.getElem?_map]
  cases t.patterns[index]? <;> rfl

/-- A producer record in order is stored in order. -/
theorem Consistent.putProducer {t : Topology} (h : t.Consistent) {record : ProducerRecord}
    (hid : record.id ≠ 0) (hincarnation : record.incarnation ≠ 0)
    (hendpoint : record.endpoint.length ≤ t.limits.maxEndpointBytes.toNat) :
    (t.putProducer record).Consistent where
  producers_sorted := h.producers_sorted.store record
  consumers_sorted := h.consumers_sorted
  producers p hp := by
    rcases (mem_store h.producers_sorted).mp hp with rfl | ⟨hp, -⟩
    · exact ⟨hid, hincarnation, hendpoint⟩
    · exact h.producers p hp
  consumers := h.consumers
  partitioned := h.partitioned
  valid := h.valid
  keys := h.keys
  index := h.index
  active := rfl
  order := h.order
  lists := h.lists
  listed := h.listed

/-- What a change of the consumers and their pattern lists has to keep. -/
theorem Consistent.ofConsumers {t t' : Topology} (h : t.Consistent)
    (hlimits : t'.limits = t.limits) (hcount : t'.partitionCount = t.partitionCount)
    (hproducers : t'.producers = t.producers) (hactive : t'.activeProducers = t.activeProducers)
    (hselections : t'.selections = t.selections) (hindex : t'.patternIndex = t.patternIndex)
    {record : ConsumerRecord} (hconsumers : t'.consumers = store ConsumerRecord.id t.consumers record)
    (hrecord : record.id ≠ 0 ∧ record.incarnation ≠ 0 ∧
      record.endpoint.length ≤ t.limits.maxEndpointBytes.toNat ∧
      record.pattern < t.selections.length) (hpartitioned : t.partitionCount ≠ 0)
    (horder : t'.patternOrder = t.patternOrder)
    (hlists : ∀ i, Sorted (fun c => c) (t'.consumersOfPattern i))
    (hlisted : ∀ (i : Nat) (id : ConsumerId), id ∈ t'.consumersOfPattern i ↔
      if id = record.id then record.pattern = i ∧ countsTowardRequirement record.state = true
      else id ∈ t.consumersOfPattern i) :
    t'.Consistent where
  producers_sorted := hproducers ▸ h.producers_sorted
  consumers_sorted := hconsumers ▸ h.consumers_sorted.store record
  producers := by
    rw [hproducers, hlimits]
    exact h.producers
  consumers c hc := by
    rw [hlimits, hselections]
    rw [hconsumers] at hc
    rcases (mem_store h.consumers_sorted).mp hc with rfl | ⟨hc, -⟩
    · exact hrecord
    · exact h.consumers c hc
  partitioned _ := hcount ▸ hpartitioned
  valid entry hentry := by
    have := h.valid entry (hselections ▸ hentry)
    unfold checkSelection at this ⊢
    rwa [hcount]
  keys := by
    rw [hselections, hindex]
    exact h.keys
  index := by
    rw [hselections, hindex]
    exact h.index
  active := by
    rw [hactive, hproducers]
    exact h.active
  order := by
    rw [horder, hselections]
    exact h.order
  lists := hlists
  listed i id := by
    rw [hlisted, hconsumers]
    simp only [mem_store h.consumers_sorted]
    split
    · next hid =>
        subst hid
        constructor
        · rintro ⟨hpattern, hcounts⟩
          exact ⟨record, .inl rfl, rfl, hpattern, hcounts⟩
        · rintro ⟨r, rfl | ⟨-, hother⟩, hid, hpattern, hcounts⟩
          · exact ⟨hpattern, hcounts⟩
          · exact absurd hid hother
    · next hid =>
        rw [h.listed]
        constructor
        · rintro ⟨r, hr, rfl, hpattern, hcounts⟩
          exact ⟨r, .inr ⟨hr, hid⟩, rfl, hpattern, hcounts⟩
        · rintro ⟨r, rfl | ⟨hr, -⟩, rfl, hpattern, hcounts⟩
          · exact absurd rfl hid
          · exact ⟨r, hr, rfl, hpattern, hcounts⟩

/-- A new selection is the last one of the table. -/
theorem selections_interned (t : Topology) (selection : PartitionSelection) :
    (t.interned selection).selections = t.selections ++ [(selection, selection.canonicalKey)] := by
  simp [interned, rebuildPatternOrder, selections]

/-- Nobody is listed under a new selection yet. -/
theorem consumersOfPattern_interned (t : Topology) (selection : PartitionSelection) (i : Nat) :
    (t.interned selection).consumersOfPattern i = t.consumersOfPattern i := by
  have hpatterns : (t.interned selection).patterns =
      t.patterns ++ [{ selection, key := selection.canonicalKey }] := rfl
  unfold consumersOfPattern
  rw [hpatterns, List.getElem?_append]
  by_cases hlength : i < t.patterns.length
  · rw [if_pos hlength]
  · rw [if_neg hlength, List.getElem?_eq_none (Nat.le_of_not_lt hlength), List.getElem?_singleton]
    by_cases hnew : i - t.patterns.length = 0
    · rw [if_pos hnew]
    · rw [if_neg hnew]

/-- A new selection keeps the table in order: its key is its own, and its index is its place. -/
theorem Consistent.interned {t : Topology} (h : t.Consistent) {selection : PartitionSelection}
    (hnew : t.patternIndex[selection.canonicalKey]? = none)
    (hvalid : t.checkSelection selection = .ok ()) : (t.interned selection).Consistent where
  producers_sorted := h.producers_sorted
  consumers_sorted := h.consumers_sorted
  producers := h.producers
  consumers c hc := by
    obtain ⟨hid, hincarnation, hendpoint, hpattern⟩ := h.consumers c hc
    refine ⟨hid, hincarnation, hendpoint, ?_⟩
    rw [selections_interned, List.length_append]
    exact Nat.lt_add_right _ hpattern
  partitioned := h.partitioned
  valid entry hentry := by
    rw [selections_interned, List.mem_append, List.mem_singleton] at hentry
    rcases hentry with hentry | rfl
    · exact h.valid entry hentry
    · exact hvalid
  keys i entry hentry := by
    have hindex : (t.interned selection).patternIndex =
        t.patternIndex.insertIfNew selection.canonicalKey t.selections.length := by
      simp [Topology.interned, rebuildPatternOrder, selections]
    rw [selections_interned, List.getElem?_append] at hentry
    rw [hindex, Std.ExtTreeMap.getElem?_insertIfNew]
    split at hentry
    · obtain ⟨hkey, hfound⟩ := h.keys i entry hentry
      refine ⟨hkey, ?_⟩
      rw [if_neg, hfound]
      rintro ⟨heq, -⟩
      rw [Std.compare_eq_iff_eq] at heq
      rw [heq, hfound] at hnew
      cases hnew
    · next hlength =>
        have hi : i = t.selections.length := by
          by_contra hne
          have hgt : 1 ≤ i - t.selections.length := by omega
          rw [List.getElem?_eq_none (by simpa using hgt)] at hentry
          cases hentry
        subst hi
        simp only [Nat.sub_self, List.getElem?_cons_zero, Option.some.injEq] at hentry
        subst hentry
        refine ⟨rfl, if_pos ⟨Std.compare_eq_iff_eq.mpr rfl, ?_⟩⟩
        rw [Std.ExtTreeMap.mem_iff_isSome_getElem?, hnew]
        simp
  index key i hkey := by
    have hindex : (t.interned selection).patternIndex =
        t.patternIndex.insertIfNew selection.canonicalKey t.selections.length := by
      simp [Topology.interned, rebuildPatternOrder, selections]
    rw [hindex, Std.ExtTreeMap.getElem?_insertIfNew] at hkey
    rw [selections_interned]
    split at hkey
    · next heq =>
        obtain rfl := Std.compare_eq_iff_eq.mp heq.1
        cases hkey
        exact ⟨selection, by simp⟩
    · obtain ⟨found, hfound⟩ := h.index key i hkey
      refine ⟨found, ?_⟩
      rw [List.getElem?_append_left (List.getElem?_eq_some_iff.mp hfound).choose, hfound]
  active := h.active
  order := by
    rw [selections_interned, List.length_append, List.length_singleton]
    simpa [Topology.interned, rebuildPatternOrder, selections] using List.perm_insertionSort _ _
  lists i := by
    rw [consumersOfPattern_interned]
    exact h.lists i
  listed i id := by
    rw [consumersOfPattern_interned]
    exact h.listed i id

/-! ## The operations keep it -/

/-- The same shuffle under the same bounds. -/
structure Continues (t t' : Topology) : Prop where
  shuffle : t'.shuffle = t.shuffle
  shuffleGeneration : t'.shuffleGeneration = t.shuffleGeneration
  partitionCount : t'.partitionCount = t.partitionCount
  limits : t'.limits = t.limits

/-- A topology continues itself. -/
theorem continues_refl (t : Topology) : t.Continues t := ⟨rfl, rfl, rfl, rfl⟩

/-- What continues a continuation continues the topology. -/
theorem Continues.trans {t t' t'' : Topology} (h : t.Continues t') (h' : t'.Continues t'') :
    t.Continues t'' :=
  ⟨h'.shuffle.trans h.shuffle, h'.shuffleGeneration.trans h.shuffleGeneration,
    h'.partitionCount.trans h.partitionCount, h'.limits.trans h.limits⟩

/-- A registration stays within the shuffle, and under the same limits. -/
theorem continues_registerProducer {t t' : Topology} {id : ProducerId} {incarnation : IncarnationId}
    {endpoint : Bytes} (h : t.registerProducer id incarnation endpoint = .ok t') :
    t.Continues t' := by
  obtain ⟨-, ⟨-, -, -, -, rfl⟩ | ⟨-, rfl⟩⟩ := registerProducer_cases h
  · exact continues_refl _
  · exact ⟨rfl, rfl, rfl, rfl⟩

/-- A change of a producer's state stays within the shuffle. -/
theorem continues_setProducerState {t t' : Topology} {id : ProducerId} {incarnation : IncarnationId}
    {state : ParticipantState} (h : t.setProducerState id incarnation state = .ok t') :
    t.Continues t' := by
  obtain ⟨-, -, -, ⟨-, rfl⟩ | ⟨-, rfl⟩⟩ := setProducerState_cases h
  · exact continues_refl _
  · exact ⟨rfl, rfl, rfl, rfl⟩

/-- A new selection changes the pattern table only. -/
theorem continues_internPattern {t t' : Topology} {selection : PartitionSelection} {pattern : Nat}
    (h : t.internPattern selection = .ok (pattern, t')) : t.Continues t' := by
  rcases internPattern_cases h with ⟨-, rfl⟩ | ⟨-, -, -, rfl⟩
  · exact continues_refl _
  · exact ⟨rfl, rfl, rfl, rfl⟩

/-- Listing a consumer under its pattern stays within the shuffle. -/
theorem continues_enlist (t : Topology) (previous : Option ConsumerRecord) (record : ConsumerRecord) :
    t.Continues (t.enlist previous record) := by
  cases previous <;> exact ⟨rfl, rfl, rfl, rfl⟩

/-- So does moving it in or out of that list. -/
theorem continues_shifted (t : Topology) (record : ConsumerRecord) (state : ParticipantState) :
    t.Continues (t.shifted record state) := by
  unfold shifted
  simp only
  split
  · exact ⟨rfl, rfl, rfl, rfl⟩
  · split <;> exact ⟨rfl, rfl, rfl, rfl⟩

/-- The registration of a consumer interns its selection and lists it. -/
theorem continues_registerConsumer {t t' : Topology} {id : ConsumerId} {incarnation : IncarnationId}
    {endpoint : Bytes} {selection : PartitionSelection}
    (h : t.registerConsumer id incarnation endpoint selection = .ok t') : t.Continues t' := by
  obtain ⟨-, pattern, t₁, hintern, ⟨-, -, -, -, -, rfl⟩ | ⟨-, rfl⟩⟩ := registerConsumer_cases h
  · exact continues_internPattern hintern
  · exact (continues_internPattern hintern).trans (continues_enlist _ _ _)

/-- A change of a consumer's state stays within the shuffle. -/
theorem continues_setConsumerState {t t' : Topology} {id : ConsumerId} {incarnation : IncarnationId}
    {state : ParticipantState} (h : t.setConsumerState id incarnation state = .ok t') :
    t.Continues t' := by
  obtain ⟨record, -, -, ⟨-, rfl⟩ | ⟨-, rfl⟩⟩ := setConsumerState_cases h
  · exact continues_refl _
  · exact continues_shifted _ _ _

/-- A producer that is found is in the table. -/
theorem mem_of_findProducer {t : Topology} {id : ProducerId} {record : ProducerRecord}
    (h : t.findProducer id = some record) : record ∈ t.producers := (mem_of_search h).1

/-- A consumer that is found is in the table. -/
theorem mem_of_findConsumer {t : Topology} {id : ConsumerId} {record : ConsumerRecord}
    (h : t.findConsumer id = some record) : record ∈ t.consumers := (mem_of_search h).1

/-- A registration that passes its checks keeps the topology in order. -/
theorem Consistent.registerProducer {t t' : Topology} (ht : t.Consistent) {id : ProducerId}
    {incarnation : IncarnationId} {endpoint : Bytes}
    (h : t.registerProducer id incarnation endpoint = .ok t') : t'.Consistent := by
  obtain ⟨hcheck, ⟨-, -, -, -, rfl⟩ | ⟨-, rfl⟩⟩ := registerProducer_cases h
  · exact ht
  · obtain ⟨hid, hincarnation, hendpoint, -⟩ := checkProducerRegistration_ok hcheck
    exact ht.putProducer hid hincarnation hendpoint

/-- A change of a producer's state keeps the topology in order. -/
theorem Consistent.setProducerState {t t' : Topology} (ht : t.Consistent) {id : ProducerId}
    {incarnation : IncarnationId} {state : ParticipantState}
    (h : t.setProducerState id incarnation state = .ok t') : t'.Consistent := by
  obtain ⟨record, hfind, -, ⟨-, rfl⟩ | ⟨-, rfl⟩⟩ := setProducerState_cases h
  · exact ht
  · obtain ⟨hid, hincarnation, hendpoint⟩ := ht.producers record (mem_of_findProducer hfind)
    exact ht.putProducer hid hincarnation hendpoint

/-- The pattern of a selection is in the table, under its key. -/
theorem Consistent.internPattern {t t' : Topology} (ht : t.Consistent)
    {selection : PartitionSelection} {pattern : Nat}
    (hvalid : t.checkSelection selection = .ok ())
    (h : t.internPattern selection = .ok (pattern, t')) :
    t'.Consistent ∧ (∃ interned, t'.selections[pattern]? = some (interned, selection.canonicalKey)) ∧
      ∀ (i : Nat) (entry : PartitionSelection × Bytes), t.selections[i]? = some entry →
        t'.selections[i]? = some entry := by
  rcases internPattern_cases h with ⟨hindex, rfl⟩ | ⟨hnew, -, rfl, rfl⟩
  · exact ⟨ht, ht.index _ _ hindex, fun _ _ hentry => hentry⟩
  · refine ⟨ht.interned hnew hvalid, ⟨selection, ?_⟩, fun i entry hentry => ?_⟩
    · rw [selections_interned, List.getElem?_append_right (by simp [selections])]
      simp [selections]
    · rw [selections_interned,
        List.getElem?_append_left (List.getElem?_eq_some_iff.mp hentry).choose, hentry]

/-- The lists after a change of one of them. -/
theorem consumersOfPattern_modify (t : Topology) (index : Nat)
    (f : List ConsumerId → List ConsumerId) (i : Nat) :
    ({ t with patterns := t.patterns.modify index fun entry =>
      { entry with consumers := f entry.consumers } } : Topology).consumersOfPattern i =
      if i = index ∧ i < t.selections.length then f (t.consumersOfPattern i)
      else t.consumersOfPattern i := by
  unfold consumersOfPattern selections
  simp only [List.getElem?_modify, List.length_map]
  cases hentry : t.patterns[i]? with
  | none =>
      have hlength : ¬i < t.patterns.length := Nat.not_lt.mpr (List.getElem?_eq_none_iff.mp hentry)
      simp [hlength]
  | some entry =>
      have hlength : i < t.patterns.length := (List.getElem?_eq_some_iff.mp hentry).choose
      by_cases hsame : i = index
      · subst hsame
        simp [hlength]
      · have hother : ¬index = i := fun h => hsame h.symm
        simp [hsame, hother]

/-- The lists of the patterns after an insertion: sorted, and one consumer is in one more. -/
theorem mem_addConsumerToPattern {t : Topology} (ht : ∀ i, Sorted (fun c => c) (t.consumersOfPattern i))
    {index : Nat} (hindex : index < t.selections.length) (id : ConsumerId) (i : Nat) :
    Sorted (fun c => c) ((t.addConsumerToPattern index id).consumersOfPattern i) ∧
      ∀ id', id' ∈ (t.addConsumerToPattern index id).consumersOfPattern i ↔
        id' = id ∧ i = index ∨ id' ∈ t.consumersOfPattern i := by
  have hlist := consumersOfPattern_modify t index (store (fun c => c) · id) i
  have hlist : (t.addConsumerToPattern index id).consumersOfPattern i = _ := hlist
  rw [hlist]
  by_cases hsame : i = index
  · subst hsame
    rw [if_pos ⟨rfl, hindex⟩]
    refine ⟨(ht i).store id, fun id' => ?_⟩
    rw [mem_store (ht i)]
    by_cases hid : id' = id <;> simp [hid]
  · rw [if_neg (fun h => hsame h.1)]
    exact ⟨ht i, fun id' => by simp [hsame]⟩

/-- The lists of the patterns after a removal. -/
theorem mem_removeConsumerFromPattern {t : Topology}
    (ht : ∀ i, Sorted (fun c => c) (t.consumersOfPattern i)) (index : Nat) (id : ConsumerId) (i : Nat) :
    Sorted (fun c => c) ((t.removeConsumerFromPattern index id).consumersOfPattern i) ∧
      ∀ id', id' ∈ (t.removeConsumerFromPattern index id).consumersOfPattern i ↔
        ¬(id' = id ∧ i = index) ∧ id' ∈ t.consumersOfPattern i := by
  have hlist := consumersOfPattern_modify t index (remove (fun c => c) · id) i
  have hlist : (t.removeConsumerFromPattern index id).consumersOfPattern i = _ := hlist
  rw [hlist]
  by_cases hsame : i = index ∧ i < t.selections.length
  · rw [if_pos hsame]
    refine ⟨(ht i).remove id, fun id' => ?_⟩
    rw [mem_remove (ht i)]
    simp [hsame.1, and_comm]
  · rw [if_neg hsame]
    refine ⟨ht i, fun id' => ⟨fun hmem => ⟨fun hboth => ?_, hmem⟩, fun h => h.2⟩⟩
    have hempty : t.consumersOfPattern i = [] := by
      have hlength : t.patterns.length ≤ i := by
        simpa [selections] using fun h => hsame ⟨hboth.2, h⟩
      simp [consumersOfPattern, List.getElem?_eq_none hlength]
    rw [hempty] at hmem
    cases hmem

/-- Listing a consumer leaves the selections alone. -/
theorem selections_addConsumerToPattern (t : Topology) (index : Nat) (id : ConsumerId) :
    (t.addConsumerToPattern index id).selections = t.selections :=
  selections_modify t index fun consumers => store (fun c => c) consumers id

/-- Taking a consumer off its list leaves the selections alone. -/
theorem selections_removeConsumerFromPattern (t : Topology) (index : Nat) (id : ConsumerId) :
    (t.removeConsumerFromPattern index id).selections = t.selections :=
  selections_modify t index fun consumers => remove (fun c => c) consumers id

/-- A registration interns its selection before it lists the consumer. -/
theorem selections_enlist (t : Topology) (previous : Option ConsumerRecord) (record : ConsumerRecord) :
    (t.enlist previous record).selections = t.selections := by
  cases previous with
  | none => exact selections_addConsumerToPattern (t.putConsumer record) _ _
  | some existing =>
      exact (selections_addConsumerToPattern _ _ _).trans
        (selections_removeConsumerFromPattern t _ _)

/-- A change of state leaves the selections alone. -/
theorem selections_shifted (t : Topology) (record : ConsumerRecord) (state : ParticipantState) :
    (t.shifted record state).selections = t.selections := by
  unfold shifted
  simp only
  split
  · exact selections_removeConsumerFromPattern (t.putConsumer { record with state }) _ _
  · split
    · exact selections_addConsumerToPattern (t.putConsumer { record with state }) _ _
    · rfl

/-- Listing a consumer leaves the producers alone. -/
theorem producers_enlist (t : Topology) (previous : Option ConsumerRecord) (record : ConsumerRecord) :
    (t.enlist previous record).producers = t.producers := by
  cases previous <;> rfl

/-- So does a change of a consumer's state. -/
theorem producers_shifted (t : Topology) (record : ConsumerRecord) (state : ParticipantState) :
    (t.shifted record state).producers = t.producers := by
  unfold shifted
  simp only
  split
  · rfl
  · split <;> rfl

/-- The record that is listed is stored under its identifier. -/
theorem consumers_enlist (t : Topology) (previous : Option ConsumerRecord) (record : ConsumerRecord) :
    (t.enlist previous record).consumers = store ConsumerRecord.id t.consumers record := by
  cases previous <;> rfl

/-- A record with a new state is stored in the place of the old one. -/
theorem consumers_shifted (t : Topology) (record : ConsumerRecord) (state : ParticipantState) :
    (t.shifted record state).consumers =
      store ConsumerRecord.id t.consumers { record with state } := by
  unfold shifted
  simp only
  split
  · rfl
  · split <;> rfl

/-- A consumer is listed once, under the pattern of its record. -/
theorem Consistent.pattern_of_listed {t : Topology} (ht : t.Consistent) {record : ConsumerRecord}
    (hrecord : record ∈ t.consumers) {i : Nat} (h : record.id ∈ t.consumersOfPattern i) :
    record.pattern = i ∧ countsTowardRequirement record.state = true := by
  obtain ⟨other, hother, hid, hpattern, hcounts⟩ := (ht.listed i record.id).mp h
  have hsame := (search_eq_some_iff ht.consumers_sorted).mpr ⟨hother, hid⟩
  rw [(search_eq_some_iff ht.consumers_sorted).mpr ⟨hrecord, rfl⟩] at hsame
  cases hsame
  exact ⟨hpattern, hcounts⟩

/-- A consumer that takes the place of its previous record leaves the list of the old pattern, if it
counted, and enters that of the new one. -/
theorem Consistent.enlist {t : Topology} (ht : t.Consistent) {previous : Option ConsumerRecord}
    {record : ConsumerRecord} (hprevious : t.findConsumer record.id = previous)
    (hcounts : countsTowardRequirement record.state = true)
    (hrecord : record.id ≠ 0 ∧ record.incarnation ≠ 0 ∧
      record.endpoint.length ≤ t.limits.maxEndpointBytes.toNat ∧
      record.pattern < t.selections.length) (hpartitioned : t.partitionCount ≠ 0) :
    (t.enlist previous record).Consistent := by
  -- the consumer is taken out of its old list, if it has one, and put into the new one
  have hlists : ∀ i, Sorted (fun c => c) ((t.enlist previous record).consumersOfPattern i) ∧
      ∀ id, id ∈ (t.enlist previous record).consumersOfPattern i ↔
        if id = record.id then record.pattern = i ∧ countsTowardRequirement record.state = true
        else id ∈ t.consumersOfPattern i := by
    intro i
    cases previous with
    | none =>
        obtain ⟨hsorted, hmem⟩ := mem_addConsumerToPattern (t := t.putConsumer record) ht.lists
          hrecord.2.2.2 record.id i
        refine ⟨hsorted, fun id => (hmem id).trans ?_⟩
        split
        · next hid =>
            have hunlisted : id ∉ (t.putConsumer record).consumersOfPattern i := by
              intro hlisted
              obtain ⟨other, hother, hother', -⟩ := (ht.listed i id).mp hlisted
              exact (search_eq_none_iff ht.consumers_sorted).mp hprevious other hother
                (hother'.trans hid)
            simp [hid ▸ hunlisted, hid, hcounts, eq_comm]
        · next hid =>
            simp only [hid, false_and, false_or]
            rfl
    | some existing =>
        obtain ⟨hexisting, hid'⟩ := mem_of_search hprevious
        have hremoved := mem_removeConsumerFromPattern ht.lists existing.pattern record.id
        have hindex : record.pattern < ((t.removeConsumerFromPattern existing.pattern
            record.id).putConsumer record).selections.length := by
          show _ < (t.removeConsumerFromPattern existing.pattern record.id).selections.length
          rw [selections_removeConsumerFromPattern]
          exact hrecord.2.2.2
        obtain ⟨hsorted, hmem⟩ := mem_addConsumerToPattern (fun i => (hremoved i).1) hindex
          record.id i
        refine ⟨hsorted, fun id => (hmem id).trans ?_⟩
        rw [(hremoved i).2 id]
        split
        · next hid =>
            have hunlisted : ¬(¬(id = record.id ∧ i = existing.pattern) ∧
                id ∈ t.consumersOfPattern i) := by
              rintro ⟨hother, hlisted⟩
              rw [hid, ← hid'] at hlisted
              exact hother ⟨hid, (ht.pattern_of_listed hexisting hlisted).1.symm⟩
            rw [or_iff_left hunlisted]
            simp only [hid, hcounts, true_and, and_true, eq_comm]
        · next hid =>
            simp only [hid, false_and, false_or, not_false_eq_true, true_and]
  refine ht.ofConsumers (continues_enlist t previous record).limits
    (continues_enlist t previous record).partitionCount (producers_enlist t previous record) ?_
    (selections_enlist t previous record) ?_ (consumers_enlist t previous record) hrecord hpartitioned
    ?_ (fun i => (hlists i).1) fun i => (hlists i).2
  all_goals cases previous <;> rfl

/-- A new state moves a consumer between being listed and not being listed, and nothing else. -/
theorem Consistent.shifted {t : Topology} (ht : t.Consistent) {record : ConsumerRecord}
    (hrecord : record ∈ t.consumers) (state : ParticipantState) :
    (t.shifted record state).Consistent := by
  have hbounded := ht.consumers record hrecord
  have hlists : ∀ i, Sorted (fun c => c) ((t.shifted record state).consumersOfPattern i) ∧
      ∀ id, id ∈ (t.shifted record state).consumersOfPattern i ↔
        if id = record.id then record.pattern = i ∧ countsTowardRequirement state = true
        else id ∈ t.consumersOfPattern i := by
    intro i
    have hown : record.id ∈ t.consumersOfPattern i ↔
        record.pattern = i ∧ countsTowardRequirement record.state = true :=
      ⟨ht.pattern_of_listed hrecord, fun h => (ht.listed i record.id).mpr
        ⟨record, hrecord, rfl, h.1, h.2⟩⟩
    unfold Topology.shifted
    simp only
    split
    · next hleaves =>
        obtain ⟨hsorted, hmem⟩ := mem_removeConsumerFromPattern
          (t := t.putConsumer { record with state }) ht.lists record.pattern record.id i
        refine ⟨hsorted, fun id => (hmem id).trans ?_⟩
        split
        · next hid =>
            subst hid
            have hgone : countsTowardRequirement state = false := by simpa using hleaves.2
            simp only [hgone, Bool.false_eq_true, and_false, iff_false, not_and, true_and]
            intro hother hlisted
            exact hother (hown.mp hlisted).1.symm
        · next hid =>
            simp only [hid, false_and, not_false_eq_true, true_and]
            rfl
    · next hstays =>
        split
        · next hreturns =>
            obtain ⟨hsorted, hmem⟩ := mem_addConsumerToPattern
              (t := t.putConsumer { record with state }) ht.lists hbounded.2.2.2 record.id i
            refine ⟨hsorted, fun id => (hmem id).trans ?_⟩
            split
            · next hid =>
                subst hid
                have hunlisted : record.id ∉ (t.putConsumer { record with state }).consumersOfPattern i :=
                  fun hlisted => hreturns.1 (hown.mp hlisted).2
                simp only [hunlisted, or_false, true_and, hreturns.2, and_true, eq_comm]
            · next hid =>
                simp only [hid, false_and, false_or]
                rfl
        · next hsame =>
            refine ⟨ht.lists i, fun id => ?_⟩
            split
            · next hid =>
                subst hid
                have hcounts : countsTowardRequirement record.state =
                    countsTowardRequirement state := by
                  cases hwas : countsTowardRequirement record.state <;>
                    cases hnow : countsTowardRequirement state <;> simp_all
                rw [← hcounts]
                exact hown
            · rfl
  refine ht.ofConsumers (continues_shifted t record state).limits
    (continues_shifted t record state).partitionCount (producers_shifted t record state) ?_
    (selections_shifted t record state) ?_
    (consumers_shifted t record state) hbounded
    (ht.partitioned (List.ne_nil_of_mem hrecord)) ?_ (fun i => (hlists i).1) fun i => (hlists i).2
  all_goals
    unfold Topology.shifted
    simp only
    split
    · rfl
    · split <;> rfl

/-- The registration of a consumer keeps the topology in order. -/
theorem Consistent.registerConsumer {t t' : Topology} (ht : t.Consistent) {id : ConsumerId}
    {incarnation : IncarnationId} {endpoint : Bytes} {selection : PartitionSelection}
    (h : t.registerConsumer id incarnation endpoint selection = .ok t') : t'.Consistent := by
  obtain ⟨hcheck, pattern, t₁, hintern, hcases⟩ := registerConsumer_cases h
  obtain ⟨hid, hincarnation, hendpoint, hcount, hvalid, -⟩ := checkConsumerRegistration_ok hcheck
  obtain ⟨ht₁, ⟨interned, hpattern⟩, -⟩ := ht.internPattern hvalid hintern
  have hcontinues := continues_internPattern hintern
  rcases hcases with ⟨-, -, -, -, -, rfl⟩ | ⟨-, rfl⟩
  · exact ht₁
  · have hprevious : t₁.findConsumer id = t.findConsumer id := by
      rcases internPattern_cases hintern with ⟨-, rfl⟩ | ⟨-, -, -, rfl⟩ <;> rfl
    exact ht₁.enlist hprevious rfl ⟨hid, hincarnation, hcontinues.limits ▸ hendpoint,
      (List.getElem?_eq_some_iff.mp hpattern).choose⟩ (hcontinues.partitionCount ▸ hcount)

/-- A change of a consumer's state keeps the topology in order. -/
theorem Consistent.setConsumerState {t t' : Topology} (ht : t.Consistent) {id : ConsumerId}
    {incarnation : IncarnationId} {state : ParticipantState}
    (h : t.setConsumerState id incarnation state = .ok t') : t'.Consistent := by
  obtain ⟨record, hfind, -, ⟨-, rfl⟩ | ⟨-, rfl⟩⟩ := setConsumerState_cases h
  · exact ht
  · exact ht.shifted (mem_of_findConsumer hfind) state

end Topology

end ShuffleFabric
