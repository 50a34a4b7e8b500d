import TsOutline.Analysis.Session
import TsOutline.Main
import TsOutline.Request.Node
import TsOutline.Request.Project
import TsOutline.Request.Report
import TsOutline.Service
import TsOutline.Proofs.Roles
import TsOutline.Proofs.RouterScope
import TsOutline.Proofs.Isolation
import TsOutline.Proofs.Comment.Declaration
import TsOutline.Proofs.Comment.Outline
import TsOutline.Proofs.Depth.Outline
import TsOutline.Proofs.Coherence
import TsOutline.Proofs.Project.Union
import TsOutline.Proofs.Surface
import TsOutline.Proofs.ClassMembers
import TsOutline.Proofs.WorkspaceArgument
import TsOutline.Proofs.OneLine.Outline
import TsOutline.Proofs.Origin
import TsOutline.Proofs.OptionIndependence
import TsOutline.Proofs.ExportClause
import TsOutline.Proofs.Report.Reading
import TsOutline.Proofs.Report.Interleaving
import TsOutline.Proofs.Accounting.Session
import TsOutline.Proofs.ServiceState
import TsOutline.Proofs.CommandOutput
import TsOutline.Proofs.Depth.Unbounded
import TsOutline.Proofs.ProcedureChain
import TsOutline.Proofs.BlockExport
import TsOutline.Proofs.Exclusion.Reinstatement
import TsOutline.Proofs.Report.Heading
import TsOutline.Proofs.Exclusion.Spelling
import TsOutline.Proofs.Config.Precedence
import TsOutline.Proofs.BlacklistOption
import TsOutline.Proofs.Report.Counts
import TsOutline.Proofs.Collapsing
import TsOutline.Proofs.Chains
import TsOutline.Proofs.ComponentSurface
import TsOutline.Proofs.WorkspaceChoice
