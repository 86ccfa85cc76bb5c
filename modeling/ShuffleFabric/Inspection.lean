import ShuffleFabric.Recovery

/-!
# ShuffleFabric.Inspection

What a coordinator can be asked without changing it: `status`, `manifest_of` and
`explain` (`coordinator.cpp`, `ledger.cpp`).

The loop of `CompletionLedger::explain` walks an `unordered_map` and keeps the detail of the
first failure it meets for each code, so the order of the walk is a parameter.
-/

namespace ShuffleFabric

open Lib Action

namespace ErrorCode

/-! Codes that only an explanation carries. -/

def duplicateCompletion : ErrorCode := ⟨400⟩
def revalidationRequired : ErrorCode := ⟨407⟩
def capabilityUnsupported : ErrorCode := ⟨113⟩

end ErrorCode

/-- `CoordinatorStatus`. -/
structure CoordinatorStatus where
  state : ShuffleState
  reason : ErrorCode
  epoch : UInt64
  shuffle : ShuffleId
  shuffleGeneration : ShuffleGeneration
  topologyGeneration : TopologyGeneration := 0
  policyGeneration : PolicyGeneration
  tick : TickId
  activeProducers : UInt32 := 0
  activeConsumers : UInt32 := 0
  inFlight : UInt32
  persistedRecords : UInt64
  durable : Bool
  revalidationRequired : Bool
  historyIncomplete : Bool
  progress : ProgressSnapshot
  deriving DecidableEq

structure ExplainEntry where
  code : ErrorCode
  subject : String
  detail : String
  count : UInt64
  deriving DecidableEq

/-- `EdgeKey::to_string`. -/
def EdgeKey.toText (key : EdgeKey) : String :=
  s!"p{key.partition}/g{key.partitionGeneration}/c{key.consumer}"

namespace Topology

/-- `Topology::active_producer_count`. -/
def activeProducerCount (t : Topology) : UInt32 := UInt32.ofNat t.activeProducers.length

/-- `Topology::active_consumer_count`. -/
def activeConsumerCount (t : Topology) : UInt32 :=
  UInt32.ofNat (t.consumers.countP fun record => holdsAuthority record.state)

end Topology

namespace CompletionLedger

/-- The first entry of a failure code. -/
def firstEntry (record : FailureRecord) : ExplainEntry where
  code := record.code
  subject := record.key.toText
  detail := "permanent=" ++ (if record.permanent then "yes" else "no") ++
    s!" attempts={record.attempts} ready_at={record.readyAt}"
  count := 1

/-- One turn of the loop of `explain` over the failures. -/
def groupFailure (grouped : Std.ExtTreeMap UInt16 ExplainEntry) (record : FailureRecord) :
    Std.ExtTreeMap UInt16 ExplainEntry :=
  match grouped[record.code.value]? with
  | none => grouped.insert record.code.value (firstEntry record)
  | some entry => grouped.insert record.code.value { entry with
      subject := if record.key.toText < entry.subject then record.key.toText else entry.subject
      count := entry.count + 1 }

/-- `CompletionLedger::explain`; the failures are met in the order `walk`. -/
def explain (l : CompletionLedger) (walk : List FailureRecord) : List ExplainEntry :=
  (walk.foldl groupFailure {}).toList.map (·.2) ++
    if l.duplicateCommits > 0 then
      [⟨.duplicateCompletion, "ledger",
        "duplicate completions suppressed without double accounting", l.duplicateCommits⟩]
    else []

end CompletionLedger

namespace Coordinator

/-- `Coordinator::status`. -/
def status (c : Coordinator) : Result CoordinatorStatus := do
  refuseIf c.inside .invalidState "re-entrant coordinator entry refused"
  pure {
    state := c.state, reason := c.reason, epoch := c.epoch, tick := c.clock
    shuffle := c.request.shuffle
    shuffleGeneration := c.request.generation
    policyGeneration := c.request.policy.generation
    topologyGeneration := (c.topology.map (·.generation)).getD 0
    activeProducers := (c.topology.map (·.activeProducerCount)).getD 0
    activeConsumers := (c.topology.map (·.activeConsumerCount)).getD 0
    inFlight := c.scheduler.globalInFlight
    persistedRecords := c.persistedRecords
    durable := c.durable
    revalidationRequired := c.pendingRevalidation > 0
    historyIncomplete := c.historyIncomplete
    progress := c.computeProgress }

/-- `Coordinator::manifest_of`. -/
def manifestOf (c : Coordinator) (partition : PartitionId) : Result PartitionManifest := do
  refuseIf c.inside .invalidState "re-entrant coordinator entry refused"
  match c.manifests[partition]? with
  | none => makeFailure .partitionNotProduced "no manifest has been accepted for this partition"
  | some manifest => pure manifest

/-- The partitions without an accepted manifest, in ascending order. -/
def missingPartitions (c : Coordinator) (t : Topology) : List Nat :=
  (List.range t.partitionCount.toNat).filter fun index =>
    (c.manifests[UInt64.ofNat index]?).isNone

/-- How many participants hold no authority. -/
def inactiveCount (t : Topology) : Nat :=
  t.producers.countP (fun record => !holdsAuthority record.state) +
    t.consumers.countP (fun record => !holdsAuthority record.state)

/-- The entries of `build_explanation` about the topology. -/
def explainTopology (c : Coordinator) (t : Topology) : List ExplainEntry :=
  (match c.missingPartitions t with
    | [] => []
    | first :: rest => [⟨.partitionNotProduced, s!"partition {first}",
        "partitions without an accepted manifest are explicitly incomplete",
        UInt64.ofNat (rest.length + 1)⟩]) ++
  if inactiveCount t > 0 then
    [⟨.participantNotActive, "topology",
      "registered participants that currently hold no authority", UInt64.ofNat (inactiveCount t)⟩]
  else []

/-- `to_string(ShuffleState)`. -/
def stateText : ShuffleState → String
  | .closed => "Closed"
  | .open => "Open"
  | .cancelling => "Cancelling"
  | .cancelled => "Cancelled"
  | .completed => "Completed"
  | .failed => "Failed"

/-- The entries of `build_explanation` about the coordinator itself. -/
def explainSelf (c : Coordinator) : List ExplainEntry :=
  (if c.pendingRevalidation > 0 then
    [⟨.revalidationRequired, s!"epoch {c.epoch}",
      "participants must re-register with a fresh incarnation after the restart",
      c.pendingRevalidation.toUInt64⟩]
  else []) ++
  (if c.historyIncomplete then
    [⟨.revalidationRequired, "journal",
      "recovery discarded a torn journal tail; the discarded record was never acknowledged", 1⟩]
  else []) ++
  (if c.state ≠ .open then
    [⟨if c.state = .cancelled then c.reason else .invalidState, "shuffle",
      s!"shuffle state is {stateText c.state}", 1⟩]
  else []) ++
  if ¬c.durable then
    [⟨.capabilityUnsupported, "durability",
      "this coordinator runs without a durable sink; commits are not durable", 1⟩]
  else []

/-- The entry of `build_explanation` about the progress. -/
def explainProgress (progress : ProgressSnapshot) : List ExplainEntry :=
  if progress.edgesOverCounted > 0 then
    [⟨.accountingMismatch, "progress",
      "more edges are resolved than the current requirement implies", progress.edgesOverCounted⟩]
  else if ¬(progress.edgesOverCounted = 0 ∧
      progress.edgesCompleted + progress.edgesFailed + progress.edgesIncomplete =
        progress.edgesRequired) then
    [⟨.accountingMismatch, "progress",
      "required edge accounting does not close against completed and failed edges", 1⟩]
  else []

/-- `Coordinator::explain`. -/
def explain (c : Coordinator) (walk : List FailureRecord) : Result (List ExplainEntry) := do
  refuseIf c.inside .invalidState "re-entrant coordinator entry refused"
  let entries := c.ledger.explain walk ++ (c.topology.map c.explainTopology).getD [] ++
    c.explainSelf ++ explainProgress c.computeProgress
  pure (entries.mergeSort fun a b =>
    if a.code ≠ b.code then a.code.value < b.code.value else a.subject ≤ b.subject)

end Coordinator

end ShuffleFabric
