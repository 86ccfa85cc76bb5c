import ShuffleFabric.Topology.Consistent

/-!
# ShuffleFabric.Topology.Validate

The self-check of a topology (`Topology::validate`), and that no sequence of calls makes
it fail.

`Consistent` speaks of the records and the pattern lists.  What is left is the order of the
pattern table and the size of what is interned (`Tallied`): only a new pattern touches them.
-/

namespace ShuffleFabric

open Lib

/-- The size of a pattern, as it counts toward `max_selection_items`. -/
def PartitionSelection.size (selection : PartitionSelection) : Nat :=
  if selection.kind = .list then selection.list.length else 1

namespace Topology

/-! ## The check -/

/-- The loop over one consumer list, for one of its entries. -/
def checkListed (t : Topology) (index : Nat) (id : ConsumerId) : Status :=
  match t.findConsumer id with
  | none =>
    makeFailure .invalidState "pattern consumer list disagrees with the consumer record"
  | some record => do
    refuseIf (record.pattern ≠ index) .invalidState
      "pattern consumer list disagrees with the consumer record"
    refuseIf (¬countsTowardRequirement record.state) .invalidState
      "pattern contains a withdrawn consumer"

/-- The loop over the pattern table, for one of its entries. -/
def checkPattern (t : Topology) (entry : PatternEntry × Nat) : Status := do
  refuseIf (¬entry.1.consumers.IsChain (· < ·)) .invalidState
    "pattern consumer list is not strictly ascending"
  forM entry.1.consumers (t.checkListed entry.2)

/-- `Topology::validate`. -/
def validate (t : Topology) : Status := do
  refuseIf (t.partitionCount = 0) .invalidArgument "topology has no partitions"
  t.limits.validate
  refuseIf (¬t.producers.IsChain (·.id < ·.id)) .invalidState
    "producer records are not strictly ascending"
  refuseIf (¬t.consumers.IsChain (·.id < ·.id)) .invalidState
    "consumer records are not strictly ascending"
  refuseIf (∃ record ∈ t.consumers, record.pattern ≥ t.patterns.length) .invalidState
    "consumer references an unknown selection pattern"
  forM t.patterns.zipIdx t.checkPattern
  refuseIf (t.patternOrder.length ≠ t.patterns.length) .invalidState
    "pattern order is not a permutation of the pattern table"
  refuseIf (¬t.patternOrder.IsChain fun lhs rhs => compare (t.keyAt lhs) (t.keyAt rhs) = .lt)
    .invalidState "pattern order is not sorted by canonical key"

/-! ## Calls -/

/-- The mutating member functions. -/
inductive Call where
  | registerProducer (id : ProducerId) (incarnation : IncarnationId) (endpoint : Bytes)
  | registerConsumer (id : ConsumerId) (incarnation : IncarnationId) (endpoint : Bytes)
    (selection : PartitionSelection)
  | setProducerState (id : ProducerId) (incarnation : IncarnationId) (state : ParticipantState)
  | setConsumerState (id : ConsumerId) (incarnation : IncarnationId) (state : ParticipantState)
  | withdrawProducer (id : ProducerId) (incarnation : IncarnationId)
  | withdrawConsumer (id : ConsumerId) (incarnation : IncarnationId)

/-- The answer to a call. -/
def attempt (t : Topology) : Call → Result Topology
  | .registerProducer id incarnation endpoint => t.registerProducer id incarnation endpoint
  | .registerConsumer id incarnation endpoint selection =>
    t.registerConsumer id incarnation endpoint selection
  | .setProducerState id incarnation state => t.setProducerState id incarnation state
  | .setConsumerState id incarnation state => t.setConsumerState id incarnation state
  | .withdrawProducer id incarnation => t.setProducerState id incarnation .withdrawn
  | .withdrawConsumer id incarnation => t.setConsumerState id incarnation .withdrawn

/-- The topology behind a call; a refused call changes nothing. -/
def perform (t : Topology) (call : Call) : Topology :=
  match t.attempt call with
  | .ok t' => t'
  | .error _ => t

/-- `Topology::Topology`. -/
def make (shuffle : ShuffleId) (shuffleGeneration : ShuffleGeneration) (partitionCount : UInt32)
    (limits : Limits) : Topology :=
  { shuffle, shuffleGeneration, partitionCount, limits }

/-! ## Order and size of the pattern table -/

/-- What a selection adds to the counter of items is its size. -/
theorem internedItems_eq (selection : PartitionSelection) :
    selection.internedItems = UInt64.ofNat selection.size := by
  unfold PartitionSelection.internedItems PartitionSelection.size
  split <;> rfl

/-- The key at an index is that of its selection. -/
theorem keyAt_eq (t : Topology) (index : Nat) :
    t.keyAt index = (t.selections[index]?.map (·.2)).getD [] := by
  unfold keyAt selections
  rw [List.getElem?_map]
  cases t.patterns[index]? <;> rfl

/-- What only a new pattern changes, and what no registration exceeds. -/
structure Tallied (t : Topology) : Prop where
  order : t.patternOrder = t.rebuildPatternOrder.patternOrder
  items : t.internedSelectionItems = UInt64.ofNat (t.selections.map (·.1.size)).sum
  producers : t.producers.length ≤ t.limits.maxParticipants.toNat
  consumers : t.consumers.length ≤ t.limits.maxParticipants.toNat

/-- A new topology counts nobody. -/
theorem tallied_make (shuffle : ShuffleId) (shuffleGeneration : ShuffleGeneration)
    (partitionCount : UInt32) (limits : Limits) :
    (make shuffle shuffleGeneration partitionCount limits).Tallied where
  order := rfl
  items := rfl
  producers := Nat.zero_le _
  consumers := Nat.zero_le _

/-- The counters count a producer that is stored. -/
theorem Tallied.putProducer {t : Topology} (ht : t.Tallied) {record : ProducerRecord}
    (hlength : (store ProducerRecord.id t.producers record).length ≤
      t.limits.maxParticipants.toNat) : (t.putProducer record).Tallied where
  order := ht.order
  items := ht.items
  producers := hlength
  consumers := ht.consumers

/-- The counter of items counts a new selection. -/
theorem Tallied.interned {t : Topology} (ht : t.Tallied) (selection : PartitionSelection) :
    (t.interned selection).Tallied where
  order := rfl
  items := by
    rw [selections_interned, List.map_append, List.sum_append, UInt64.ofNat_add, ← ht.items]
    simp [Topology.interned, rebuildPatternOrder, internedItems_eq]
  producers := ht.producers
  consumers := ht.consumers

/-- It counts a selection only when it is new. -/
theorem Tallied.internPattern {t t' : Topology} (ht : t.Tallied) {selection : PartitionSelection}
    {pattern : Nat} (h : t.internPattern selection = .ok (pattern, t')) : t'.Tallied := by
  rcases internPattern_cases h with ⟨-, rfl⟩ | ⟨-, -, -, rfl⟩
  · exact ht
  · exact ht.interned selection

/-- The order depends on the keys alone. -/
theorem rebuildPatternOrder_congr {t t' : Topology} (h : t'.selections = t.selections) :
    t'.rebuildPatternOrder.patternOrder = t.rebuildPatternOrder.patternOrder := by
  have hlength : t'.patterns.length = t.patterns.length := by
    simpa [selections] using congrArg List.length h
  simp only [rebuildPatternOrder, keyAt_eq, h, hlength]

/-- A change of the consumers and their pattern lists. -/
theorem Tallied.ofConsumers {t t' : Topology} (ht : t.Tallied) (hcontinues : t.Continues t')
    (hselections : t'.selections = t.selections) (horder : t'.patternOrder = t.patternOrder)
    (hitems : t'.internedSelectionItems = t.internedSelectionItems)
    (hproducers : t'.producers = t.producers)
    (hlength : t'.consumers.length ≤ t.limits.maxParticipants.toNat) : t'.Tallied where
  order := by rw [horder, rebuildPatternOrder_congr hselections, ht.order]
  items := by rw [hitems, hselections, ht.items]
  producers := by rw [hproducers, hcontinues.limits]; exact ht.producers
  consumers := by rw [hcontinues.limits]; exact hlength

/-- A new record takes the room that was checked for it. -/
theorem length_store_le {α : Type} {key : α → UInt64} {l : List α} (hs : Sorted key l) {a : α}
    {n : Nat} (hle : l.length ≤ n) (hroom : search key l (key a) = none → l.length < n) :
    (store key l a).length ≤ n := by
  rw [length_store hs]
  cases hfind : search key l (key a) with
  | none =>
      have hlt := hroom hfind
      simpa using hlt
  | some b => simpa using hle

/-- A registration is counted. -/
theorem Tallied.registerProducer {t t' : Topology} (hc : t.Consistent) (ht : t.Tallied)
    {id : ProducerId} {incarnation : IncarnationId} {endpoint : Bytes}
    (h : t.registerProducer id incarnation endpoint = .ok t') : t'.Tallied := by
  obtain ⟨hcheck, ⟨-, -, -, -, rfl⟩ | ⟨-, rfl⟩⟩ := registerProducer_cases h
  · exact ht
  · obtain ⟨-, -, -, hroom, -⟩ := checkProducerRegistration_ok hcheck
    exact ht.putProducer (length_store_le hc.producers_sorted ht.producers hroom)

/-- A change of state moves a producer between the counters. -/
theorem Tallied.setProducerState {t t' : Topology} (hc : t.Consistent) (ht : t.Tallied)
    {id : ProducerId} {incarnation : IncarnationId} {state : ParticipantState}
    (h : t.setProducerState id incarnation state = .ok t') : t'.Tallied := by
  obtain ⟨record, hfind, -, ⟨-, rfl⟩ | ⟨-, rfl⟩⟩ := setProducerState_cases h
  · exact ht
  · have hsame : t.findProducer record.id = some record := by rwa [id_of_findProducer hfind]
    exact ht.putProducer (length_store_le hc.producers_sorted ht.producers fun hnone =>
      absurd (hsame.symm.trans hnone) (by simp))

/-- A consumer that is listed is counted in place of its previous record. -/
theorem Tallied.enlist {t : Topology} (hc : t.Consistent) (ht : t.Tallied)
    {previous : Option ConsumerRecord} {record : ConsumerRecord}
    (hroom : t.findConsumer record.id = none →
      t.consumers.length < t.limits.maxParticipants.toNat) :
    (t.enlist previous record).Tallied := by
  refine ht.ofConsumers (continues_enlist t previous record) (selections_enlist t previous record)
    ?_ ?_ (producers_enlist t previous record) ?_
  · cases previous <;> rfl
  · cases previous <;> rfl
  · rw [consumers_enlist]
    exact length_store_le hc.consumers_sorted ht.consumers hroom

/-- The registration of a consumer is counted. -/
theorem Tallied.registerConsumer {t t' : Topology} (hc : t.Consistent) (ht : t.Tallied)
    {id : ConsumerId} {incarnation : IncarnationId} {endpoint : Bytes}
    {selection : PartitionSelection}
    (h : t.registerConsumer id incarnation endpoint selection = .ok t') : t'.Tallied := by
  obtain ⟨hcheck, pattern, t₁, hintern, hcases⟩ := registerConsumer_cases h
  obtain ⟨-, -, -, -, hvalid, hroom, -⟩ := checkConsumerRegistration_ok hcheck
  have hc₁ := (hc.internPattern hvalid hintern).1
  have ht₁ := ht.internPattern hintern
  rcases hcases with ⟨-, -, -, -, -, rfl⟩ | ⟨-, rfl⟩
  · exact ht₁
  · have hsame : t₁.consumers = t.consumers ∧ t₁.limits = t.limits := by
      rcases internPattern_cases hintern with ⟨-, rfl⟩ | ⟨-, -, -, rfl⟩ <;> exact ⟨rfl, rfl⟩
    refine ht₁.enlist hc₁ fun hnone => ?_
    rw [hsame.1, hsame.2]
    refine hroom ?_
    rwa [findConsumer, hsame.1] at hnone

/-- A new state of a consumer moves it between the counters. -/
theorem Tallied.shifted {t : Topology} (hc : t.Consistent) (ht : t.Tallied)
    {record : ConsumerRecord} (hfind : t.findConsumer record.id = some record)
    (state : ParticipantState) : (t.shifted record state).Tallied := by
  refine ht.ofConsumers (continues_shifted t record state) (selections_shifted t record state)
    ?_ ?_ (producers_shifted t record state) ?_
  · unfold Topology.shifted
    simp only
    split
    · rfl
    · split <;> rfl
  · unfold Topology.shifted
    simp only
    split
    · rfl
    · split <;> rfl
  · rw [consumers_shifted]
    exact length_store_le hc.consumers_sorted ht.consumers fun hnone =>
      absurd (hfind.symm.trans hnone) (by simp)

/-- A change of a consumer's state is counted. -/
theorem Tallied.setConsumerState {t t' : Topology} (hc : t.Consistent) (ht : t.Tallied)
    {id : ConsumerId} {incarnation : IncarnationId} {state : ParticipantState}
    (h : t.setConsumerState id incarnation state = .ok t') : t'.Tallied := by
  obtain ⟨record, hfind, -, ⟨-, rfl⟩ | ⟨-, rfl⟩⟩ := setConsumerState_cases h
  · exact ht
  · have hsame : t.findConsumer record.id = some record := by rwa [id_of_findConsumer hfind]
    exact ht.shifted hc hsame state

/-! ## Every sequence of calls -/

/-- What a call keeps, whatever it answers. -/
theorem perform_keeps {t : Topology} (hc : t.Consistent) (ht : t.Tallied) (call : Call) :
    (t.perform call).Consistent ∧ (t.perform call).Tallied ∧ t.Continues (t.perform call) := by
  unfold perform
  cases hattempt : t.attempt call with
  | error e => exact ⟨hc, ht, continues_refl t⟩
  | ok t' =>
      cases call with
      | registerProducer id incarnation endpoint =>
          exact ⟨hc.registerProducer hattempt, ht.registerProducer hc hattempt,
            continues_registerProducer hattempt⟩
      | registerConsumer id incarnation endpoint selection =>
          exact ⟨hc.registerConsumer hattempt, ht.registerConsumer hc hattempt,
            continues_registerConsumer hattempt⟩
      | setProducerState id incarnation state =>
          exact ⟨hc.setProducerState hattempt, ht.setProducerState hc hattempt,
            continues_setProducerState hattempt⟩
      | setConsumerState id incarnation state =>
          exact ⟨hc.setConsumerState hattempt, ht.setConsumerState hc hattempt,
            continues_setConsumerState hattempt⟩
      | withdrawProducer id incarnation =>
          exact ⟨hc.setProducerState hattempt, ht.setProducerState hc hattempt,
            continues_setProducerState hattempt⟩
      | withdrawConsumer id incarnation =>
          exact ⟨hc.setConsumerState hattempt, ht.setConsumerState hc hattempt,
            continues_setConsumerState hattempt⟩

/-- The topology behind a list of calls. -/
def performAll (t : Topology) (calls : List Call) : Topology := calls.foldl perform t

/-- What one call keeps, any sequence of calls keeps. -/
theorem performAll_keeps {t : Topology} (hc : t.Consistent) (ht : t.Tallied) (calls : List Call) :
    (t.performAll calls).Consistent ∧ (t.performAll calls).Tallied ∧
      t.Continues (t.performAll calls) := by
  induction calls generalizing t with
  | nil => exact ⟨hc, ht, continues_refl t⟩
  | cons call calls ih =>
      obtain ⟨hc', ht', hcontinues⟩ := perform_keeps hc ht call
      obtain ⟨hc'', ht'', hcontinues'⟩ := ih hc' ht'
      exact ⟨hc'', ht'', hcontinues.trans hcontinues'⟩

/-! ## The pattern table -/

/-- The index of the patterns is the table read backwards. -/
theorem Consistent.patternIndex_eq {t : Topology} (h : t.Consistent) (key : Bytes) (i : Nat) :
    t.patternIndex[key]? = some i ↔ (t.patterns[i]?).map (·.key) = some key := by
  have hkey : (t.patterns[i]?).map (·.key) = (t.selections[i]?).map (·.2) := by
    simp [selections, Option.map_map, Function.comp_def]
  rw [hkey]
  constructor
  · intro hindex
    obtain ⟨selection, hentry⟩ := h.index key i hindex
    rw [hentry]
    rfl
  · intro hmap
    obtain ⟨entry, hentry, rfl⟩ := Option.map_eq_some_iff.mp hmap
    exact (h.keys i entry hentry).2

/-- No key stands for two selections. -/
theorem Consistent.nodup_keys {t : Topology} (h : t.Consistent) :
    (t.patterns.map (·.key)).Nodup := by
  rw [List.nodup_iff_injective_get]
  intro i j hij
  have hfound : ∀ k : Fin (t.patterns.map (·.key)).length,
      t.patternIndex[(t.patterns.map (·.key)).get k]? = some k.1 := by
    intro k
    rw [h.patternIndex_eq, ← List.getElem?_map, List.getElem?_eq_getElem k.2]
    rfl
  have hsame := hfound i
  rw [hij, hfound j] at hsame
  exact Fin.ext (Option.some.inj hsame).symm

/-- A pattern in the order has a key of its own. -/
theorem Consistent.keyAt_injective {t : Topology} (h : t.Consistent) {i j : Nat}
    (hi : i ∈ t.patternOrder) (hj : j ∈ t.patternOrder) (hkey : t.keyAt i = t.keyAt j) : i = j := by
  have hindex : ∀ k ∈ t.patternOrder, t.patternIndex[t.keyAt k]? = some k := by
    intro k hk
    have hlt : k < t.selections.length := List.mem_range.mp (h.order.mem_iff.mp hk)
    have hentry := List.getElem?_eq_getElem hlt
    rw [keyAt_eq, hentry]
    exact (h.keys k _ hentry).2
  have hsame := hindex i hi
  rw [hkey, hindex j hj] at hsame
  exact (Option.some.inj hsame).symm

/-- The order by key compares any two indices. -/
instance totalOrder (t : Topology) :
    Std.Total fun lhs rhs : Nat => (compare (t.keyAt lhs) (t.keyAt rhs)).isLE = true where
  total lhs rhs := by
    rw [@Std.OrientedCmp.eq_swap _ compare _ (t.keyAt rhs)]
    cases compare (t.keyAt lhs) (t.keyAt rhs) <;> simp

/-- The order by key is transitive. -/
instance transOrder (t : Topology) :
    IsTrans Nat fun lhs rhs => (compare (t.keyAt lhs) (t.keyAt rhs)).isLE = true where
  trans _ _ _ := Std.TransCmp.isLE_trans

/-- The order of the patterns is strictly ascending in the keys. -/
theorem ascending_patternOrder {t : Topology} (hc : t.Consistent) (ht : t.Tallied) :
    t.patternOrder.Pairwise fun lhs rhs => compare (t.keyAt lhs) (t.keyAt rhs) = .lt := by
  have hle : t.patternOrder.Pairwise fun lhs rhs =>
      (compare (t.keyAt lhs) (t.keyAt rhs)).isLE = true := by
    rw [ht.order]
    exact List.pairwise_insertionSort _ _
  have hnodup : t.patternOrder.Nodup := hc.order.nodup_iff.mpr List.nodup_range
  refine (hle.and hnodup).imp_of_mem fun {lhs rhs} hlhs hrhs h => ?_
  have hne : compare (t.keyAt lhs) (t.keyAt rhs) ≠ .eq := fun heq =>
    h.2 (hc.keyAt_injective hlhs hrhs (Std.compare_eq_iff_eq.mp heq))
  revert h hne
  cases compare (t.keyAt lhs) (t.keyAt rhs) <;> simp

/-! ## The check passes -/

/-- A loop of checks that all pass. -/
theorem forM_eq_ok {α : Type} {f : α → Status} {l : List α} (h : ∀ a ∈ l, f a = .ok ()) :
    forM l f = .ok () := by
  induction l with
  | nil => rfl
  | cons a l ih =>
      obtain ⟨ha, hl⟩ := List.forall_mem_cons.mp h
      rw [List.forM_cons, ha]
      exact ih hl

/-- An entry of the pattern table passes its check. -/
theorem checkPattern_eq_ok {t : Topology} (hc : t.Consistent) {entry : PatternEntry × Nat}
    (hentry : entry ∈ t.patterns.zipIdx) : t.checkPattern entry = .ok () := by
  have hfound : t.patterns[entry.2]? = some entry.1 := List.mem_zipIdx_iff_getElem?.mp hentry
  have hlist : t.consumersOfPattern entry.2 = entry.1.consumers := by
    rw [consumersOfPattern, hfound]
  have hsorted := hlist ▸ hc.lists entry.2
  rw [checkPattern, bind_refuseIf_of_not _ (not_not.mpr (List.Pairwise.isChain hsorted))]
  refine forM_eq_ok fun id hid => ?_
  obtain ⟨record, hrecord, rfl, hpattern, hcounts⟩ := (hc.listed entry.2 id).mp (hlist ▸ hid)
  have hsearch : t.findConsumer record.id = some record :=
    (search_eq_some_iff hc.consumers_sorted).mpr ⟨hrecord, rfl⟩
  simp only [checkListed, hsearch, bind_eq_ok, refuseIf_eq_ok, exists_const, not_not]
  exact ⟨hpattern, hcounts⟩

/-- A topology in order, whose counters count, passes every check. -/
theorem validate_eq_ok {t : Topology} (hc : t.Consistent) (ht : t.Tallied)
    (hlimits : t.limits.validate = .ok ()) (hcount : t.partitionCount ≠ 0) :
    t.validate = .ok () := by
  simp only [validate, bind_eq_ok, refuseIf_eq_ok, exists_const, not_not]
  refine ⟨hcount, (), hlimits, hc.producers_sorted.isChain, hc.consumers_sorted.isChain, ?_, (), ?_,
    ?_, ?_⟩
  · rintro ⟨record, hrecord, hge⟩
    have hlt := (hc.consumers record hrecord).2.2.2
    rw [selections, List.length_map] at hlt
    omega
  · exact forM_eq_ok fun entry hentry => checkPattern_eq_ok hc hentry
  · rw [hc.order.length_eq, List.length_range, selections, List.length_map]
  · exact (ascending_patternOrder hc ht).isChain

/-- After any sequence of calls, refused ones among them, the topology passes its own check, and
the tables it keeps on the side say what the records say. -/
theorem representation_invariant {limits : Limits} {partitionCount : UInt32}
    (hlimits : limits.validate = .ok ()) (hcount : partitionCount ≠ 0) (shuffle : ShuffleId)
    (shuffleGeneration : ShuffleGeneration) (calls : List Call) {t : Topology}
    (ht : (make shuffle shuffleGeneration partitionCount limits).performAll calls = t) :
    t.validate = .ok () ∧
      (∀ c ∈ t.consumers, c.state ≠ .withdrawn →
        ∀ i, c.id ∈ t.consumersOfPattern i ↔ i = c.pattern) ∧
      (Sorted (fun id => id) t.activeProducers ∧
        ∀ id, id ∈ t.activeProducers ↔ ∃ p ∈ t.producers, p.id = id ∧ p.state = .active) ∧
      (t.patterns.map (·.key)).Nodup ∧
      (∀ (key : Bytes) (i : Nat),
        t.patternIndex[key]? = some i ↔ (t.patterns[i]?).map (·.key) = some key) ∧
      t.internedSelectionItems = UInt64.ofNat (t.patterns.map (·.selection.size)).sum := by
  have hempty : (make shuffle shuffleGeneration partitionCount limits).Consistent :=
    consistent_of_empty rfl rfl rfl rfl rfl rfl
  obtain ⟨hc, htallied, hcontinues⟩ := ht ▸ performAll_keeps hempty (tallied_make _ _ _ _) calls
  refine ⟨?_, ?_, ⟨?_, ?_⟩, hc.nodup_keys, hc.patternIndex_eq, ?_⟩
  · refine validate_eq_ok hc htallied ?_ ?_
    · rw [hcontinues.limits]
      exact hlimits
    · rw [hcontinues.partitionCount]
      exact hcount
  · intro c hmem hstate i
    have hcounts : countsTowardRequirement c.state = true := by
      simpa [countsTowardRequirement] using hstate
    constructor
    · intro hlisted
      exact (hc.pattern_of_listed hmem hlisted).1.symm
    · rintro rfl
      exact (hc.listed c.pattern c.id).mpr ⟨c, hmem, rfl, rfl, hcounts⟩
  · rw [hc.active]
    exact List.pairwise_map.mpr (hc.producers_sorted.sublist List.filter_sublist)
  · intro id
    rw [hc.active]
    simp only [List.mem_map, List.mem_filter, holdsAuthority, beq_iff_eq, and_assoc, and_comm]
  · rw [htallied.items, selections, List.map_map]
    rfl

/-- A consumer that moved, and one that came back. -/
theorem representation_invariant_small :
    ((make 1 1 4 {}).performAll [.registerProducer 1 1 [], .registerConsumer 2 1 [] {},
      .registerConsumer 2 2 [] { kind := .list, list := [0, 3] }, .withdrawConsumer 2 2,
      .registerConsumer 2 3 [] {}]).validate = .ok () :=
  (@representation_invariant {} 4 (by decide +kernel) (by decide) 1 1 _ _ rfl).1

end Topology

end ShuffleFabric
