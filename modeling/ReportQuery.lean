import ReportQuery.Main
import ReportQuery.Request.Encode
import ReportQuery.Service
import ReportQuery.Catalog.Sales
import ReportQuery.Proofs.JoinPlan.Placement
import ReportQuery.Proofs.Report.ReadableConditions
import ReportQuery.Proofs.Report.StatementSafety
import ReportQuery.Proofs.Service.ReportRoutes
import ReportQuery.Proofs.JoinPlan.Pruning
import ReportQuery.Proofs.Report.Accounting
import ReportQuery.Proofs.Report.Pruning
import ReportQuery.Proofs.Report.EmbeddedNames
import ReportQuery.Proofs.Report.ResultKeys
import ReportQuery.Proofs.Report.LeftOutTables
import ReportQuery.Proofs.Report.CompileErrors
import ReportQuery.Proofs.Report.Normalization
import ReportQuery.Proofs.Cache.Memo
import ReportQuery.Proofs.Cache.Snapshots
import ReportQuery.Proofs.Catalog.Created
import ReportQuery.Proofs.Relation.CatalogGraph
import ReportQuery.Proofs.Relation.Declarations
import ReportQuery.Proofs.Checked
import ReportQuery.Proofs.Request.GroupingText
import ReportQuery.Proofs.Request.Shorthand
import ReportQuery.Proofs.Relation.FileGraph
import ReportQuery.Proofs.Sql.Matching
import ReportQuery.Proofs.Sql.BareNumber
import ReportQuery.Proofs.Sql.TaggedLiteral
import ReportQuery.Proofs.Report.ClausePresence
import ReportQuery.Proofs.Report.FirstViolation
import ReportQuery.Proofs.Report.AggregateSpelling
import ReportQuery.Proofs.Service.AnswerShapes
import ReportQuery.Proofs.JoinPlan.Appending
import ReportQuery.Proofs.Report.EdgeOrder
import ReportQuery.Proofs.Request.Rereading
import ReportQuery.Proofs.CommandLine.Outcome
import ReportQuery.Proofs.Request.JoinTypeText
