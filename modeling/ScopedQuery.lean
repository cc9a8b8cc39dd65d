import ScopedQuery.Config.Document
import ScopedQuery.Config.Environment
import ScopedQuery.Expr.Resolution
import ScopedQuery.Json.Parser
import ScopedQuery.Json.Printer
import ScopedQuery.Workspace.Basic
import ScopedQuery.Proofs.Flattening
import ScopedQuery.Proofs.Resolution
import ScopedQuery.Proofs.AliasNumbers
import ScopedQuery.Proofs.Identifier
import ScopedQuery.Proofs.OnePass
import ScopedQuery.Proofs.Nesting
import ScopedQuery.Proofs.Reflattening
import ScopedQuery.Proofs.Parts
import ScopedQuery.Proofs.Descents
import ScopedQuery.Proofs.Addressing
import ScopedQuery.Proofs.OuterNames
import ScopedQuery.Proofs.Reading
import ScopedQuery.Proofs.WellFormedness
import ScopedQuery.Proofs.Relifting
import ScopedQuery.Proofs.Operations
import ScopedQuery.Proofs.WorkspaceInvariant
import ScopedQuery.Proofs.LoadedConfig
import ScopedQuery.Proofs.Encoding
import ScopedQuery.Proofs.RoundTrip
import ScopedQuery.Proofs.DepthLimit
import ScopedQuery.Proofs.Trace
import ScopedQuery.Proofs.Numeral
import ScopedQuery.Proofs.EnvironmentAnswers
import ScopedQuery.Proofs.PlainWords
import ScopedQuery.Proofs.PlainMapping
import ScopedQuery.Proofs.LoadingAgreement
import ScopedQuery.Proofs.Sources
import ScopedQuery.Proofs.RecordReading
import ScopedQuery.Proofs.Presentation
import ScopedQuery.Proofs.TextScan
import ScopedQuery.Proofs.Equality
import ScopedQuery.Proofs.AliasSearch
import ScopedQuery.Proofs.NumberComparison
import ScopedQuery.Proofs.PartialEquivalence
