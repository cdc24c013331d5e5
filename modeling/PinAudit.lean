import PinAudit.Text.Blank
import PinAudit.Text.Case
import PinAudit.Decimal.Shortest
import PinAudit.Decimal.Nearest
import PinAudit.Json.Value
import PinAudit.Json.Write
import PinAudit.Json.Reader
import PinAudit.Json.Parse
import PinAudit.Version.Item
import PinAudit.Version.Order
import PinAudit.Version.Range
import PinAudit.Version.Constraint
import PinAudit.Export.Constraint
import PinAudit.Text.Printable
import PinAudit.Text.Cased
import PinAudit.Text.Word
import PinAudit.Text.Quoted
import PinAudit.Failure
import PinAudit.Json.Mismatch
import PinAudit.Policy
import PinAudit.Artifact.Coordinate
import PinAudit.Artifact.Glob
import PinAudit.Artifact.Pattern
import PinAudit.Classify
import PinAudit.Tree.Node
import PinAudit.Tree.Walk
import PinAudit.Tree.Select
import PinAudit.Json.Decode
import PinAudit.Tree.Document
import PinAudit.Export.Tree
import PinAudit.Log
import PinAudit.Digest.Sha256
import PinAudit.Audit.Report
import PinAudit.Audit.Fingerprint
import PinAudit.Audit.Auditor
import PinAudit.Export.Audit
import PinAudit.Files.Path
import PinAudit.Files.System
import PinAudit.Files.World
import PinAudit.Files.Check
import PinAudit.Explain
import PinAudit.Toml.Value
import PinAudit.Toml.Token
import PinAudit.Toml.Syntax
import PinAudit.Toml.Strings
import PinAudit.Toml.Datetime
import PinAudit.Toml.Scalar
import PinAudit.Toml.Parse
import PinAudit.Toml.Decode
import PinAudit.Settings.Config
import PinAudit.Settings.Resolve
import PinAudit.Export.Settings
import PinAudit.Report.Timestamp
import PinAudit.Report.Basic
import PinAudit.Json.Typed
import PinAudit.Report.Json
import PinAudit.Report.Markdown
import PinAudit.Report.Annotation
import PinAudit.Report.Volatile
import PinAudit.Audit.TreeFile
import PinAudit.Run
import PinAudit.Log.Pattern
import PinAudit.Log.Filter
import PinAudit.CommandLine.Similar
import PinAudit.CommandLine.Grammar
import PinAudit.CommandLine.Parse
import PinAudit.CommandLine.Commands
import PinAudit.CommandLine.Tool
import PinAudit.Main
import PinAudit.Proofs.Walk
import PinAudit.Proofs.Audit
import PinAudit.Proofs.Prune
import PinAudit.Proofs.Relax
import PinAudit.Proofs.VersionOrder
import PinAudit.Proofs.PointRange
import PinAudit.Proofs.CacheId
import PinAudit.Proofs.WalkCalls
import PinAudit.Proofs.BracketScan
import PinAudit.Proofs.ReaderScan
import PinAudit.Proofs.DocumentDepth
import PinAudit.Proofs.DocumentText
import PinAudit.Proofs.ReadBack
import PinAudit.Proofs.DocumentRoundTrip
import PinAudit.Proofs.DocumentContract
import PinAudit.Proofs.ItemCut
import PinAudit.Proofs.NumericVersions
import PinAudit.Proofs.RangeGrammar
import PinAudit.Proofs.ExclusionPatterns
import PinAudit.Proofs.PruneLaws
import PinAudit.Proofs.ViolationFingerprint
import PinAudit.Proofs.SettingsValidity
import PinAudit.Proofs.AnnotationText
import PinAudit.Proofs.NormalForms
import PinAudit.Proofs.SettingsPrecedence
import PinAudit.Proofs.FileRules
import PinAudit.Proofs.VolatileMask
import PinAudit.Proofs.RangeBounds
import PinAudit.Proofs.JsonText
import PinAudit.Proofs.TimestampText
import PinAudit.Proofs.PrettyReadBack
import PinAudit.Proofs.NestingLimit
import PinAudit.Proofs.RecordRead
import PinAudit.Proofs.ReportText
import PinAudit.Proofs.ReportCodec
import PinAudit.Proofs.ByteSlices
