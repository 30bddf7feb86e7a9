import ScriptHost.Access.Guard
import ScriptHost.Access.Policy
import ScriptHost.Access.Sensitivity
import ScriptHost.Action
import ScriptHost.Decimal.Binary64
import ScriptHost.Decimal.Shortest
import ScriptHost.Decimal.Written
import ScriptHost.Fault
import ScriptHost.Field.Descriptor
import ScriptHost.Field.Kind
import ScriptHost.Field.Shape
import ScriptHost.Field.Value
import ScriptHost.HostType.Basic
import ScriptHost.HostType.Registry
import ScriptHost.HostType.Search
import ScriptHost.HostType.WellKnown
import ScriptHost.Journal
import ScriptHost.Linking.Pipeline
import ScriptHost.Linking.Rule
import ScriptHost.Namespace.Boundary
import ScriptHost.Namespace.Handle
import ScriptHost.Namespace.Host
import ScriptHost.Namespace.Registry
import ScriptHost.Proofs.Access.Classification
import ScriptHost.Proofs.Access.DispatchRuns
import ScriptHost.Proofs.Access.ForeignTypes
import ScriptHost.Proofs.Access.GenuineProxies
import ScriptHost.Proofs.Access.GuardDecisions
import ScriptHost.Proofs.Access.InheritedSensitivity
import ScriptHost.Proofs.Access.KeptClassifications
import ScriptHost.Proofs.Access.SensitiveAccess
import ScriptHost.Proofs.Access.SetupMoment
import ScriptHost.Proofs.Access.Worlds
import ScriptHost.Proofs.Action
import ScriptHost.Proofs.Distinct
import ScriptHost.Proofs.Field.Descriptor
import ScriptHost.Proofs.Field.Shape
import ScriptHost.Proofs.HostType.Ancestry
import ScriptHost.Proofs.HostType.Assignability
import ScriptHost.Proofs.HostType.FinalTypes
import ScriptHost.Proofs.HostType.Growth
import ScriptHost.Proofs.HostType.ProxyNames
import ScriptHost.Proofs.HostType.Refusals
import ScriptHost.Proofs.HostType.Registry
import ScriptHost.Proofs.HostType.RegistryRuns
import ScriptHost.Proofs.HostType.WellKnown
import ScriptHost.Proofs.Linking.LinkReuse
import ScriptHost.Proofs.Linking.Order
import ScriptHost.Proofs.Linking.Turns
import ScriptHost.Proofs.Namespace.Exchanges
import ScriptHost.Proofs.Namespace.FailedSetup
import ScriptHost.Proofs.Namespace.GrantHistory
import ScriptHost.Proofs.Namespace.RegistrySetup
import ScriptHost.Proofs.Namespace.Strangers
import ScriptHost.Proofs.Namespace.TrustSetup
import ScriptHost.Proofs.Recorded
import ScriptHost.Proofs.Setting.Overriding
import ScriptHost.Proofs.Setting.Tokens
import ScriptHost.Proofs.Setting.UnknownFlags
import ScriptHost.Proofs.Structure.Copies
import ScriptHost.Proofs.Structure.FallbackSources
import ScriptHost.Proofs.Structure.FieldRuns
import ScriptHost.Proofs.Structure.FieldStorage
import ScriptHost.Proofs.Structure.LayoutRuns
import ScriptHost.Proofs.Structure.LookupPaths
import ScriptHost.Proofs.Structure.Naming
import ScriptHost.Proofs.Structure.Prewarming
import ScriptHost.Proofs.Structure.Published
import ScriptHost.Proofs.Structure.RawStorage
import ScriptHost.Proofs.Structure.RequestOutcomes
import ScriptHost.Proofs.Structure.SlotPlan
import ScriptHost.Proofs.Structure.SlotTiling
import ScriptHost.Proofs.Structure.Synthesizer
import ScriptHost.Proofs.Text.Blank
import ScriptHost.Proofs.Text.ByteOrder
import ScriptHost.Proofs.Text.Pieces
import ScriptHost.Proofs.Text.Stem
import ScriptHost.Recorded
import ScriptHost.Setting.Config
import ScriptHost.Setting.OptionList
import ScriptHost.Structure.Instance
import ScriptHost.Structure.Layout
import ScriptHost.Structure.Mode
import ScriptHost.Structure.Published
import ScriptHost.Structure.Synthesizer
import ScriptHost.Text.Blank
import ScriptHost.Text.Extending
import ScriptHost.Text.Hex
import ScriptHost.Text.Hidden
import ScriptHost.Text.Pieces
import ScriptHost.Text.Quoted
import ScriptHost.Text.Record
import ScriptHost.Text.Stem
