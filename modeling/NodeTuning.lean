import NodeTuning.Backoff
import NodeTuning.Cluster.Access
import NodeTuning.Cluster.Action
import NodeTuning.Cluster.Error
import NodeTuning.Cluster.Operation
import NodeTuning.Cluster.State
import NodeTuning.Component.BootFiles
import NodeTuning.Component.BootUnits
import NodeTuning.Component.Error
import NodeTuning.Component.HugePages
import NodeTuning.Component.Identity
import NodeTuning.Component.KubeletConfig
import NodeTuning.Component.MachineConfig
import NodeTuning.Component.RuntimeClass
import NodeTuning.Component.Set
import NodeTuning.Component.Tuned
import NodeTuning.Component.TunedText
import NodeTuning.Config
import NodeTuning.Controller.Apply
import NodeTuning.Controller.Command
import NodeTuning.Controller.Conditions
import NodeTuning.Controller.Error
import NodeTuning.Controller.Merge
import NodeTuning.Controller.PoolReport
import NodeTuning.Controller.Reconcile
import NodeTuning.Controller.Removal
import NodeTuning.Controller.State
import NodeTuning.Controller.Status
import NodeTuning.CpuSet.Basic
import NodeTuning.CpuSet.Error
import NodeTuning.CpuSet.ListText
import NodeTuning.CpuSet.Mask
import NodeTuning.Json.Basic
import NodeTuning.Json.Codec
import NodeTuning.Json.Number
import NodeTuning.Json.Reader
import NodeTuning.Json.Value
import NodeTuning.Json.Writer
import NodeTuning.Main
import NodeTuning.Metrics
import NodeTuning.Metrics.Exposition
import NodeTuning.Net.SocketAddress
import NodeTuning.Object.Any
import NodeTuning.Object.Kind
import NodeTuning.Object.KubeletConfig
import NodeTuning.Object.MachineConfig
import NodeTuning.Object.Metadata
import NodeTuning.Object.Pool
import NodeTuning.Object.Profile
import NodeTuning.Object.RuntimeClass
import NodeTuning.Object.Selector
import NodeTuning.Object.Tuned
import NodeTuning.Probe
import NodeTuning.Remote.Answer
import NodeTuning.Remote.Client
import NodeTuning.Remote.Recorder
import NodeTuning.Remote.Request
import NodeTuning.Remote.Target
import NodeTuning.Schema.Basic
import NodeTuning.Schema.Profile
import NodeTuning.Schema.Yaml
import NodeTuning.SortedMap
import NodeTuning.Text.Base64
import NodeTuning.Text.Basic
import NodeTuning.Text.FormEncoded
import NodeTuning.Text.Hidden
import NodeTuning.Text.Quoted
import NodeTuning.Time.Rfc3339
import NodeTuning.Time.Timestamp
import NodeTuning.Topology
import NodeTuning.Validation
import NodeTuning.Watch.Agenda
import NodeTuning.Watch.Event
import NodeTuning.Watch.Fingerprint
import NodeTuning.Watch.ProfileRef
import NodeTuning.Watch.Watcher
import NodeTuning.Proofs.Steps
import NodeTuning.Proofs.Cluster.Objects
import NodeTuning.Proofs.Cluster.Outcome
import NodeTuning.Proofs.Cluster.Footprint
import NodeTuning.Proofs.Cluster.Orderly
import NodeTuning.Proofs.Component.Places
import NodeTuning.Proofs.Controller.Merging
import NodeTuning.Proofs.Controller.Applying
import NodeTuning.Proofs.Controller.Branches
import NodeTuning.Proofs.Controller.Draining
import NodeTuning.Proofs.Controller.Conditions
import NodeTuning.Proofs.Controller.Gate
import NodeTuning.Proofs.Controller.Covering
import NodeTuning.Proofs.Controller.History
import NodeTuning.Proofs.Controller.Applied
import NodeTuning.Proofs.Controller.Reporting
import NodeTuning.Proofs.Controller.Convergence
import NodeTuning.Proofs.Component.Derivability
import NodeTuning.Proofs.Controller.Sweeping
import NodeTuning.Proofs.Cluster.Discarding
import NodeTuning.Proofs.Controller.Territory
import NodeTuning.Proofs.Controller.Confinement
import NodeTuning.Proofs.Cluster.Likeness
import NodeTuning.Proofs.Coupling
import NodeTuning.Proofs.Controller.Sight
import NodeTuning.Proofs.Controller.Agreement
import NodeTuning.Proofs.Controller.Lockstep
import NodeTuning.Proofs.Controller.Disowning
import NodeTuning.Proofs.Controller.Commuting
import NodeTuning.Proofs.Controller.Settling
import NodeTuning.Proofs.Controller.Owning
import NodeTuning.Proofs.Controller.Recovery
import NodeTuning.Proofs.Cluster.Profiles
import NodeTuning.Proofs.Controller.StatusHistory
import NodeTuning.Proofs.Controller.Quiescence
import NodeTuning.Proofs.Text.Reading
import NodeTuning.Proofs.Object.Query
import NodeTuning.Proofs.Controller.PoolSelection
import NodeTuning.Proofs.Controller.PoolVerdict
import NodeTuning.Proofs.Watch.Selection
import NodeTuning.Proofs.Watch.News
import NodeTuning.Proofs.Watch.Waking
import NodeTuning.Proofs.CpuSet.Grammar
import NodeTuning.Proofs.CpuSet.Runs
import NodeTuning.Proofs.Text.Digits
import NodeTuning.Proofs.Time.Rfc3339
import NodeTuning.Proofs.Json.Codec
import NodeTuning.Proofs.Object.Documents
import NodeTuning.Proofs.Json.MergePatch
import NodeTuning.Proofs.Object.StatusPatch
import NodeTuning.Proofs.Controller.StatusReports
import NodeTuning.Proofs.Controller.StatusPatch
import NodeTuning.Proofs.Text.Base64
import NodeTuning.Proofs.Text.Sections
import NodeTuning.Proofs.Component.BootTexts
import NodeTuning.Proofs.Component.TunedText
import NodeTuning.Proofs.Component.Readers
import NodeTuning.Proofs.Component.BannedCpus
import NodeTuning.Proofs.Component.PageArguments
import NodeTuning.Proofs.Component.HugePages
import NodeTuning.Proofs.Component.BootNames
import NodeTuning.Proofs.Controller.Amending
import NodeTuning.Proofs.Backoff
import NodeTuning.Proofs.Controller.Retrying
import NodeTuning.Proofs.Cluster.Operations
import NodeTuning.Proofs.Cluster.Atomicity
import NodeTuning.Proofs.Cluster.Lineage
import NodeTuning.Proofs.Controller.Following
import NodeTuning.Proofs.Controller.PassOutcome
import NodeTuning.Proofs.CpuSet.MaskTexts
import NodeTuning.Proofs.Topology.UniformReservation
import NodeTuning.Proofs.Component.Spelling
import NodeTuning.Proofs.Controller.StatusWriting
import NodeTuning.Proofs.Controller.PoolMessage
import NodeTuning.Proofs.Controller.Respelling
import NodeTuning.Proofs.Controller.ConditionTimes
import NodeTuning.Proofs.Component.BootFiles
