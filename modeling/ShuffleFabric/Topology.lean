import ShuffleFabric.Bytes
import ShuffleFabric.Hash
import ShuffleFabric.Identity
import ShuffleFabric.Lib.Sorted

/-!
# ShuffleFabric.Topology

Who participates, on which incarnation, and which partitions each consumer
requires (`topology.hpp`, `topology.cpp`).

A mutating member function returns the new topology; every one of them validates
before it changes anything, so a refusal leaves the topology as it was.  Pattern
indices are `Nat`: the pattern table never outgrows `max_selection_patterns`, a
32-bit bound, so the source's casts to 32 bits lose nothing.
-/

namespace ShuffleFabric

open Lib

/-! ## Participants and selections -/

inductive ParticipantKind where
  | producer
  | consumer
  deriving DecidableEq, Repr

/-- Lifecycle of a participant incarnation. -/
inductive ParticipantState where
  | pending
  | active
  | suspect
  | failed
  | withdrawn
  deriving DecidableEq, Repr

/-- Only an active participant may be dispatched to or complete a transfer. -/
def holdsAuthority (state : ParticipantState) : Bool := state == .active

/-- A consumer counts toward the shuffle's requirement from registration until it
is explicitly withdrawn. -/
def countsTowardRequirement (state : ParticipantState) : Bool := state != .withdrawn

inductive SelectionKind where
  | all
  | range
  | list
  deriving DecidableEq, Repr

/-- Which partitions a consumer requires.  Canonical form: `range` is half-open
and `list` is sorted and unique; nothing in the type says so. -/
structure PartitionSelection where
  kind : SelectionKind := .all
  first : PartitionId := 0
  last : PartitionId := 0
  list : List PartitionId := []
  deriving DecidableEq, Repr

namespace PartitionSelection

/-- `PartitionSelection::covers`; the list is searched as a sorted one. -/
def covers (selection : PartitionSelection) (partition : PartitionId) : Bool :=
  match selection.kind with
  | .all => true
  | .range => partition ≥ selection.first && partition < selection.last
  | .list => (search (fun p => p) selection.list partition).isSome

/-- `PartitionSelection::selected_count`, in closed form. -/
def selectedCount (selection : PartitionSelection) (partitionCount : UInt32) : UInt64 :=
  match selection.kind with
  | .all => partitionCount.toUInt64
  | .range =>
    if selection.first ≥ partitionCount.toUInt64 ∨ selection.last ≤ selection.first then 0
    else min selection.last partitionCount.toUInt64 - selection.first
  | .list =>
    UInt64.ofNat (selection.list.takeWhile (· < partitionCount.toUInt64)).length

/-- `PartitionSelection::canonical_key`: `all`, `range:a:b` or `list:a,b,..`. -/
def canonicalKey (selection : PartitionSelection) : Bytes :=
  match selection.kind with
  | .all => [0x61, 0x6c, 0x6c]
  | .range => [0x72, 0x61, 0x6e, 0x67, 0x65, 0x3a] ++
      Identity.toString selection.first ++ [0x3a] ++ Identity.toString selection.last
  | .list => [0x6c, 0x69, 0x73, 0x74, 0x3a] ++
      List.intercalate [0x2c] (selection.list.map Identity.toString)

/-- What a new pattern adds to `interned_selection_items_`. -/
def internedItems (selection : PartitionSelection) : UInt64 :=
  if selection.kind = .list then UInt64.ofNat selection.list.length else 1

end PartitionSelection

structure ProducerRecord where
  id : ProducerId
  incarnation : IncarnationId
  state : ParticipantState
  endpoint : Bytes
  deriving DecidableEq, Repr

structure ConsumerRecord where
  id : ConsumerId
  incarnation : IncarnationId
  state : ParticipantState
  endpoint : Bytes
  /-- Index into the interned pattern table. -/
  pattern : Nat
  deriving DecidableEq, Repr

/-- A selection pattern with the consumers that share it. -/
structure PatternEntry where
  selection : PartitionSelection
  key : Bytes
  /-- Ascending; the consumers that count toward the requirement. -/
  consumers : List ConsumerId := []
  deriving DecidableEq, Repr

/-! ## The topology -/

/-- `class Topology`. -/
structure Topology where
  shuffle : ShuffleId
  shuffleGeneration : ShuffleGeneration
  partitionCount : UInt32
  limits : Limits
  generation : TopologyGeneration := 0
  /-- Ascending by identifier. -/
  producers : List ProducerRecord := []
  /-- Ascending by identifier. -/
  consumers : List ConsumerRecord := []
  /-- Ascending, rebuilt on mutation. -/
  activeProducers : List ProducerId := []
  /-- Stable storage, appended. -/
  patterns : List PatternEntry := []
  /-- Pattern indices sorted by canonical key. -/
  patternOrder : List Nat := []
  patternIndex : Std.ExtTreeMap Bytes Nat := {}
  internedSelectionItems : UInt64 := 0
  deriving DecidableEq

namespace Topology

/-! ### Lookup -/

def findProducer (t : Topology) (id : ProducerId) : Option ProducerRecord :=
  search ProducerRecord.id t.producers id

def findConsumer (t : Topology) (id : ConsumerId) : Option ConsumerRecord :=
  search ConsumerRecord.id t.consumers id

/-- `Topology::producer`. -/
def producer (t : Topology) (id : ProducerId) : Result ProducerRecord :=
  match t.findProducer id with
  | some record => .ok record
  | none => makeFailure .unknownParticipant s!"producer {id} is not registered"

/-- `Topology::consumer`. -/
def consumer (t : Topology) (id : ConsumerId) : Result ConsumerRecord :=
  match t.findConsumer id with
  | some record => .ok record
  | none => makeFailure .unknownParticipant s!"consumer {id} is not registered"

/-- `Topology::pattern`; an unknown index reads as the empty selection value. -/
def pattern (t : Topology) (index : Nat) : PartitionSelection :=
  match t.patterns[index]? with
  | some entry => entry.selection
  | none => {}

/-- `Topology::consumers_of_pattern`. -/
def consumersOfPattern (t : Topology) (index : Nat) : List ConsumerId :=
  match t.patterns[index]? with
  | some entry => entry.consumers
  | none => []

/-- `Topology::owner_index_of`. -/
def ownerIndexOf (t : Topology) (partition : PartitionId) : Result Nat := do
  refuseIf (partition ≥ t.partitionCount.toUInt64) .unknownPartition
    s!"partition {partition} is outside the shuffle"
  refuseIf (t.activeProducers = []) .partitionNotOwned "shuffle has no active producer"
  pure (partition.toNat % t.activeProducers.length)

/-- `Topology::owner_of`: the p-th active producer in identifier order. -/
def ownerOf (t : Topology) (partition : PartitionId) : Result ProducerId := do
  let index ← t.ownerIndexOf partition
  pure (t.activeProducers.getD index 0)

/-- One turn of the loop of `planned_edge_count`. -/
def addPlannedEdges (t : Topology) (total : UInt64) (entry : PatternEntry) : Result UInt64 :=
  if entry.consumers = [] then .ok total
  else do
    let contribution ←
      checkedMul (UInt64.ofNat entry.consumers.length)
        (entry.selection.selectedCount t.partitionCount)
    checkedAdd total contribution

/-- `Topology::planned_edge_count`. -/
def plannedEdgeCount (t : Topology) : Result UInt64 := t.patterns.foldlM t.addPlannedEdges 0

/-! ### Maintenance of the derived tables -/

/-- `Topology::bump_generation`. -/
def bumpGeneration (t : Topology) : Topology := { t with generation := t.generation + 1 }

/-- `Topology::rebuild_active_producers`. -/
def rebuildActiveProducers (t : Topology) : Topology :=
  { t with activeProducers := (t.producers.filter (holdsAuthority ·.state)).map (·.id) }

/-- The key of the pattern at an index. -/
def keyAt (t : Topology) (index : Nat) : Bytes :=
  match t.patterns[index]? with
  | some entry => entry.key
  | none => []

/-- `Topology::rebuild_pattern_order`. -/
def rebuildPatternOrder (t : Topology) : Topology :=
  { t with
    patternOrder := (List.range t.patterns.length).insertionSort
      fun lhs rhs => (compare (t.keyAt lhs) (t.keyAt rhs)).isLE }

/-- `Topology::add_consumer_to_pattern`. -/
def addConsumerToPattern (t : Topology) (index : Nat) (id : ConsumerId) : Topology :=
  { t with
    patterns := t.patterns.modify index fun entry =>
      { entry with consumers := store (fun c => c) entry.consumers id } }

/-- `Topology::remove_consumer_from_pattern`. -/
def removeConsumerFromPattern (t : Topology) (index : Nat) (id : ConsumerId) : Topology :=
  { t with
    patterns := t.patterns.modify index fun entry =>
      { entry with consumers := remove (fun c => c) entry.consumers id } }

/-- The two bounds a pattern that is not interned yet has to meet. -/
def checkNewPattern (t : Topology) (selection : PartitionSelection) : Status := do
  refuseIf (t.patterns.length ≥ t.limits.maxSelectionPatterns.toNat) .tooManyPatterns
    "distinct selection patterns exceed max_selection_patterns"
  refuseIf (t.internedSelectionItems + selection.internedItems > t.limits.maxSelectionItems)
    .limitExceeded "interned selection items exceed max_selection_items"

/-- `Topology::intern_pattern`. -/
def internPattern (t : Topology) (selection : PartitionSelection) : Result (Nat × Topology) := do
  let key := selection.canonicalKey
  match t.patternIndex[key]? with
  | some index => pure (index, t)
  | none => do
    t.checkNewPattern selection
    let index := t.patterns.length
    let entry : PatternEntry := { selection, key }
    let t := { t with
      patterns := t.patterns ++ [entry]
      patternIndex := t.patternIndex.insertIfNew key index
      internedSelectionItems := t.internedSelectionItems + selection.internedItems }
    pure (index, t.rebuildPatternOrder)

/-! ### Checks -/

/-- `Topology::check_producer_registration`. -/
def checkProducerRegistration (t : Topology) (id : ProducerId) (incarnation : IncarnationId)
    (endpoint : Bytes) : Status := do
  refuseIf (id = 0) .invalidArgument "producer identifier must be non-zero"
  refuseIf (incarnation = 0) .invalidArgument "producer incarnation must be non-zero"
  refuseIf (endpoint.length > t.limits.maxEndpointBytes.toNat) .oversizedInput
    "producer endpoint exceeds max_endpoint_bytes"
  match t.findProducer id with
  | none =>
    refuseIf (t.producers.length ≥ t.limits.maxParticipants.toNat) .tooManyParticipants
      "producer count would exceed max_participants"
  | some existing =>
    refuseIf (existing.incarnation = incarnation ∧ existing.endpoint ≠ endpoint) .identityMismatch
      "producer re-registered with a different endpoint under the same incarnation"

/-- The `switch` of `check_consumer_registration` over the selection kind. -/
def checkSelection (t : Topology) (selection : PartitionSelection) : Status :=
  match selection.kind with
  | .all => pure ()
  | .range => do
    refuseIf (selection.first ≥ selection.last) .invalidArgument "range selection is empty"
    refuseIf (selection.last > t.partitionCount.toUInt64) .unknownPartition
      "range selection exceeds the partition count"
  | .list => do
    refuseIf (selection.list = []) .invalidArgument "list selection is empty"
    refuseIf (selection.list.any (· ≥ t.partitionCount.toUInt64)) .unknownPartition
      "list selection references an unknown partition"

/-- `Topology::check_consumer_registration`. -/
def checkConsumerRegistration (t : Topology) (id : ConsumerId) (incarnation : IncarnationId)
    (endpoint : Bytes) (selection : PartitionSelection) : Status := do
  refuseIf (id = 0) .invalidArgument "consumer identifier must be non-zero"
  refuseIf (incarnation = 0) .invalidArgument "consumer incarnation must be non-zero"
  refuseIf (endpoint.length > t.limits.maxEndpointBytes.toNat) .oversizedInput
    "consumer endpoint exceeds max_endpoint_bytes"
  refuseIf (t.partitionCount = 0) .invalidState "topology has no partitions"
  t.checkSelection selection
  refuseIf ((t.findConsumer id).isNone ∧ t.consumers.length ≥ t.limits.maxParticipants.toNat)
    .tooManyParticipants "consumer count would exceed max_participants"
  -- Interning a new pattern must succeed before the registration is durable.
  if t.patternIndex[selection.canonicalKey]?.isNone then
    t.checkNewPattern selection

/-- `Topology::check_participant_state`.  The source first refuses a state value
without a name; `ParticipantState` has none. -/
def checkParticipantState (t : Topology) (kind : ParticipantKind) (id : UInt64)
    (incarnation : IncarnationId) : Status := do
  refuseIf (id = 0) .invalidArgument "participant identifier must be non-zero"
  match kind with
  | .producer =>
    match t.findProducer id with
    | none => makeFailure .unknownParticipant "producer is not registered"
    | some record =>
      refuseIf (record.incarnation ≠ incarnation) .staleIncarnation
        "producer state change carries a superseded incarnation"
  | .consumer =>
    match t.findConsumer id with
    | none => makeFailure .unknownParticipant "consumer is not registered"
    | some record =>
      refuseIf (record.incarnation ≠ incarnation) .staleIncarnation
        "consumer state change carries a superseded incarnation"

/-! ### Mutation -/

/-- Put a producer record at its place and bring the derived tables up to date. -/
def putProducer (t : Topology) (record : ProducerRecord) : Topology :=
  ({ t with producers := store ProducerRecord.id t.producers record }).rebuildActiveProducers
    |>.bumpGeneration

/-- Put a consumer record at its place. -/
def putConsumer (t : Topology) (record : ConsumerRecord) : Topology :=
  { t with consumers := store ConsumerRecord.id t.consumers record }

/-- `Topology::register_producer`. -/
def registerProducer (t : Topology) (id : ProducerId) (incarnation : IncarnationId)
    (endpoint : Bytes) : Result Topology := do
  t.checkProducerRegistration id incarnation endpoint
  match t.findProducer id with
  | some existing =>
    if existing.incarnation = incarnation then
      if existing.endpoint ≠ endpoint then
        makeFailure .identityMismatch
          "producer re-registered with a different endpoint under the same incarnation"
      else
        pure t
    else
      -- A new incarnation supersedes the previous one, which loses authority here.
      pure (t.putProducer { existing with incarnation, endpoint, state := .active })
  | none =>
    if t.producers.length ≥ t.limits.maxParticipants.toNat then
      makeFailure .tooManyParticipants "producer count would exceed max_participants"
    else
      pure (t.putProducer { id, incarnation, state := .active, endpoint })

/-- `Topology::register_consumer`. -/
def registerConsumer (t : Topology) (id : ConsumerId) (incarnation : IncarnationId)
    (endpoint : Bytes) (selection : PartitionSelection) : Result Topology := do
  t.checkConsumerRegistration id incarnation endpoint selection
  let (pattern, t) ← t.internPattern selection
  match t.findConsumer id with
  | some existing =>
    if existing.incarnation = incarnation ∧ existing.pattern = pattern ∧
        existing.endpoint = endpoint then
      pure t
    else
      let t := t.removeConsumerFromPattern existing.pattern id
      let t := t.putConsumer { existing with incarnation, endpoint, pattern, state := .active }
      pure (t.addConsumerToPattern pattern id).bumpGeneration
  | none =>
    let t := t.putConsumer { id, incarnation, state := .active, endpoint, pattern }
    pure (t.addConsumerToPattern pattern id).bumpGeneration

/-- `Topology::set_producer_state`. -/
def setProducerState (t : Topology) (id : ProducerId) (incarnation : IncarnationId)
    (state : ParticipantState) : Result Topology := do
  t.checkParticipantState .producer id incarnation
  match t.findProducer id with
  | none => pure t
  | some record =>
    if record.state = state then pure t
    else pure (t.putProducer { record with state })

/-- `Topology::set_consumer_state`: withdrawal is the only transition that removes
the requirement. -/
def setConsumerState (t : Topology) (id : ConsumerId) (incarnation : IncarnationId)
    (state : ParticipantState) : Result Topology := do
  t.checkParticipantState .consumer id incarnation
  match t.findConsumer id with
  | none => pure t
  | some record =>
    if record.state = state then pure t
    else
      let wasCounted := countsTowardRequirement record.state
      let nowCounted := countsTowardRequirement state
      let t := t.putConsumer { record with state }
      let t :=
        if wasCounted ∧ ¬nowCounted then t.removeConsumerFromPattern record.pattern id
        else if ¬wasCounted ∧ nowCounted then t.addConsumerToPattern record.pattern id
        else t
      pure t.bumpGeneration

end Topology

end ShuffleFabric
