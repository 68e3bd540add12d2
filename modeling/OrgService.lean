import OrgService.Main
import OrgService.Query.Builder
import OrgService.Store.Scan
import OrgService.Store.View
import OrgService.Proofs.Document.RoundTrip
import OrgService.Proofs.Query.LinkForest
import OrgService.Proofs.Query.Binding
import OrgService.Proofs.Trace
import OrgService.Proofs.Query.ErrorContract
import OrgService.Proofs.Query.Columns
import OrgService.Proofs.Query.JoinSemantics
import OrgService.Proofs.Store.Freshness
import OrgService.Proofs.Document.SeedFaults
import OrgService.Proofs.Document.QueryFaults
import OrgService.Proofs.Guid.CaseFold
import OrgService.Proofs.Query.Policies
import OrgService.Proofs.Service.ReadPaths
import OrgService.Proofs.Query.Growth
import OrgService.Proofs.Query.Locality
import OrgService.Proofs.Service.Export
import OrgService.Proofs.Query.Formula
import OrgService.Proofs.Query.Operators
import OrgService.Proofs.ComparisonSort
import OrgService.Proofs.Query.Precedence
import OrgService.Proofs.Query.Incomparable
import OrgService.Proofs.Query.Patterns
import OrgService.Proofs.Query.JoinEquality
import OrgService.Proofs.Query.Transparency
import OrgService.Proofs.Query.GeneratedAliases
import OrgService.Proofs.Query.Projectors
import OrgService.Proofs.Query.SafeTests
import OrgService.Proofs.Query.Numbering
import OrgService.Proofs.Query.Attachment
import OrgService.Proofs.Query.Building
import OrgService.Proofs.Document.LinkedQueries
import OrgService.Proofs.Log.FlightRecorder
import OrgService.Proofs.Value.Soundness
import OrgService.Proofs.Query.Sources
import OrgService.Proofs.CommandLine.Environment
import OrgService.Proofs.Query.Losses
import OrgService.Proofs.Query.OrderedColumns
