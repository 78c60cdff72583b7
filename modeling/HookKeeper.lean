import HookKeeper.Api.Address
import HookKeeper.Api.Answer
import HookKeeper.Api.Client
import HookKeeper.Api.Error
import HookKeeper.Api.Program
import HookKeeper.Api.Request
import HookKeeper.Cluster.Deployment
import HookKeeper.Cluster.Event
import HookKeeper.Cluster.Metadata
import HookKeeper.Cluster.Object
import HookKeeper.Cluster.Pod
import HookKeeper.Cluster.Registration
import HookKeeper.Controller
import HookKeeper.Cycle.Apply
import HookKeeper.Cycle.Gate
import HookKeeper.Cycle.Status
import HookKeeper.Cycle.Step
import HookKeeper.Cycle.Sync
import HookKeeper.Datum.Basic
import HookKeeper.Datum.Decode
import HookKeeper.Digest
import HookKeeper.Instant
import HookKeeper.Json.Binary64
import HookKeeper.Json.Build
import HookKeeper.Json.Number
import HookKeeper.Json.Tree
import HookKeeper.Json.Value
import HookKeeper.Manifest.Placeholder
import HookKeeper.Manifest.Rendering
import HookKeeper.Manifest.Templates
import HookKeeper.Operator.Condition
import HookKeeper.Operator.Error
import HookKeeper.Operator.Generation
import HookKeeper.Operator.Resource
import HookKeeper.Proofs.Account
import HookKeeper.Proofs.BlockLines
import HookKeeper.Proofs.BlockNodes
import HookKeeper.Proofs.Calendar
import HookKeeper.Proofs.Canonical
import HookKeeper.Proofs.ConditionHistory
import HookKeeper.Proofs.CycleStatus
import HookKeeper.Proofs.Decoding
import HookKeeper.Proofs.Detection
import HookKeeper.Proofs.Document
import HookKeeper.Proofs.Drift
import HookKeeper.Proofs.Faithful
import HookKeeper.Proofs.Findings
import HookKeeper.Proofs.GenerationHistory
import HookKeeper.Proofs.Image
import HookKeeper.Proofs.Interleaving
import HookKeeper.Proofs.Keyed
import HookKeeper.Proofs.KeyedLines
import HookKeeper.Proofs.Layering
import HookKeeper.Proofs.LineMarks
import HookKeeper.Proofs.LineTokens
import HookKeeper.Proofs.Marking
import HookKeeper.Proofs.MergePatch
import HookKeeper.Proofs.Noninterference
import HookKeeper.Proofs.PassedText
import HookKeeper.Proofs.Permanence
import HookKeeper.Proofs.PlainLine
import HookKeeper.Proofs.Polling
import HookKeeper.Proofs.Provenance
import HookKeeper.Proofs.Quiescence
import HookKeeper.Proofs.Reapply
import HookKeeper.Proofs.Rendered
import HookKeeper.Proofs.Replacement
import HookKeeper.Proofs.Request
import HookKeeper.Proofs.ScannedTokens
import HookKeeper.Proofs.Selection
import HookKeeper.Proofs.Sequencing
import HookKeeper.Proofs.Spelling
import HookKeeper.Proofs.StatusPatch
import HookKeeper.Proofs.SteadyState
import HookKeeper.Proofs.Stock
import HookKeeper.Proofs.Substitution
import HookKeeper.Proofs.Template
import HookKeeper.Proofs.TemplateReading
import HookKeeper.Proofs.Trace
import HookKeeper.Proofs.Triggers
import HookKeeper.Proofs.Upkeep
import HookKeeper.Proofs.ValueLine
import HookKeeper.Proofs.Version
import HookKeeper.Recorder
import HookKeeper.Server.Basic
import HookKeeper.Server.Store
import HookKeeper.Server.Timeline
import HookKeeper.Settings
import HookKeeper.Text.Base64
import HookKeeper.Text.Digits
import HookKeeper.Text.Unprintable
import HookKeeper.Text.Utf8
import HookKeeper.TextMap
import HookKeeper.Yaml.BlockText
import HookKeeper.Yaml.Cursor
import HookKeeper.Yaml.Document
import HookKeeper.Yaml.FlowText
import HookKeeper.Yaml.Layout
import HookKeeper.Yaml.Node
import HookKeeper.Yaml.Scalar
import HookKeeper.Yaml.Token
