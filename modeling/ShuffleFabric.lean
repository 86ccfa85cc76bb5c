import ShuffleFabric.Error
import ShuffleFabric.Identity
import ShuffleFabric.Hash
import ShuffleFabric.Bytes
import ShuffleFabric.Lib.Action
import ShuffleFabric.Lib.Sorted
import ShuffleFabric.Lib.Table
import ShuffleFabric.Codec
import ShuffleFabric.Policy
import ShuffleFabric.Records
import ShuffleFabric.Records.Sound
import ShuffleFabric.Topology.Consistent
import ShuffleFabric.Topology.Validate
import ShuffleFabric.Lib.Distinct
import ShuffleFabric.Topology.Built
import ShuffleFabric.Topology.Fan
import ShuffleFabric.Enrolment
import ShuffleFabric.Policy.Evaluation
import ShuffleFabric.Pressure
import ShuffleFabric.Hysteresis
import ShuffleFabric.Lib.Weight
import ShuffleFabric.Ledger.History
import ShuffleFabric.Retention
import ShuffleFabric.Schedule.Wave
import ShuffleFabric.Schedule.Flight
import ShuffleFabric.Perform
import ShuffleFabric.Authority
import ShuffleFabric.Restart
import ShuffleFabric.Session
import ShuffleFabric.Membership
import ShuffleFabric.Transition
import ShuffleFabric.Regular
import ShuffleFabric.InFlight
import ShuffleFabric.Incarnation
import ShuffleFabric.Granted
import ShuffleFabric.Inspection
import ShuffleFabric.Dispatch
import ShuffleFabric.Superseded
import ShuffleFabric.Twin
import ShuffleFabric.Refusal
import ShuffleFabric.Replay
import ShuffleFabric.Cancellation
import ShuffleFabric.StateChange
import ShuffleFabric.Backoff
import ShuffleFabric.Onward
import ShuffleFabric.Elapsed
import ShuffleFabric.Relive
import ShuffleFabric.Republish
import ShuffleFabric.Answer
import ShuffleFabric.Server
import ShuffleFabric.Explain
import ShuffleFabric.Frame.Serve
import ShuffleFabric.DurableStore.Compaction
import ShuffleFabric.DurableStore.Acknowledged
import ShuffleFabric.DurableStore.Adoption
import ShuffleFabric.DurableStore.Scanner
import ShuffleFabric.DurableStore.Damage
import ShuffleFabric.Manifest.Canonical
import ShuffleFabric.Records.Canonical
import ShuffleFabric.Manifest.Binding
import ShuffleFabric.Wire
import ShuffleFabric.Service.Request
import ShuffleFabric.Service
import ShuffleFabric.Service.Pool
import ShuffleFabric.Service.Attribution
import ShuffleFabric.Service.Registry
import ShuffleFabric.Client.Transparent
import ShuffleFabric.Hash.Bitwise
import ShuffleFabric.Hash.Streaming
import ShuffleFabric.Codec.Utf8
import ShuffleFabric.Identity.Text
import ShuffleFabric.DurableStore.ReadFull
