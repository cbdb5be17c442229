import WidgetDoc.Disk.FileTree
import WidgetDoc.Main
import WidgetDoc.Session
import WidgetDoc.Proofs.Acceptance
import WidgetDoc.Proofs.HostInfluence
import WidgetDoc.Proofs.NodeIsolation
import WidgetDoc.Proofs.NormalForm
import WidgetDoc.Proofs.Replies
import WidgetDoc.Proofs.Checkable
import WidgetDoc.Proofs.LiveSession
import WidgetDoc.Proofs.Progress
import WidgetDoc.Proofs.FailureErasure
import WidgetDoc.Proofs.ObjectPaths
import WidgetDoc.Proofs.Batch
import WidgetDoc.Proofs.QueryOrder
import WidgetDoc.Proofs.QueryAnswers
import WidgetDoc.Proofs.BatchParts
import WidgetDoc.Proofs.BatchLog
import WidgetDoc.Proofs.BatchProtocol
import WidgetDoc.Proofs.SessionDeeds
import WidgetDoc.Proofs.StateFrame
import WidgetDoc.Proofs.Resumption
import WidgetDoc.Proofs.StepNormalForm
import WidgetDoc.Proofs.DirectoryQueries
import WidgetDoc.Proofs.SearchDepth
import WidgetDoc.Proofs.EventData
import WidgetDoc.Proofs.PathLaws
import WidgetDoc.Proofs.BindingGrammar
import WidgetDoc.Proofs.ComparisonText
import WidgetDoc.Proofs.ComparisonOperator
import WidgetDoc.Proofs.PartsRead
import WidgetDoc.Proofs.DepthLimit
import WidgetDoc.Proofs.ViewImage
import WidgetDoc.Proofs.PlainData
import WidgetDoc.Proofs.ComputedValues
import WidgetDoc.Proofs.Rendering
import WidgetDoc.Proofs.Negation
import WidgetDoc.Proofs.MalformedOperators
import WidgetDoc.Proofs.FirstViolation
import WidgetDoc.Proofs.DeclaredIds
import WidgetDoc.Proofs.PathReaders
import WidgetDoc.Proofs.TreeSearch
import WidgetDoc.Proofs.IntegerComparison
import WidgetDoc.Proofs.NumberText
import WidgetDoc.Proofs.ValueLaws
import WidgetDoc.Proofs.Confinement
