import CallAtlas.Main
import CallAtlas.Proofs.TableScan
import CallAtlas.Proofs.CatalogRuns
import CallAtlas.Proofs.RegisteredRows
import CallAtlas.Proofs.StoreRuns
import CallAtlas.Proofs.CallGroups
import CallAtlas.Proofs.ShownEntities
import CallAtlas.Proofs.AnalyzedCalls
import CallAtlas.Proofs.DatabaseRoundTrip
import CallAtlas.Proofs.Reachability
import CallAtlas.Proofs.DrawnClusters
import CallAtlas.Proofs.DrawnEdges
import CallAtlas.Proofs.PrunedDrawings
import CallAtlas.Proofs.ClusterNames
import CallAtlas.Proofs.ImageNames
import CallAtlas.Proofs.DeclaredOrder
import CallAtlas.Proofs.Containment
import CallAtlas.Proofs.LeftOutSources
import CallAtlas.Proofs.AnalysisPhases
import CallAtlas.Proofs.DotLines
import CallAtlas.Proofs.DotReading
import CallAtlas.Proofs.ComposedSelections
import CallAtlas.Proofs.EntityImages
import CallAtlas.Proofs.OutlineNames
import CallAtlas.Proofs.ReconciledReports
import CallAtlas.Proofs.CallerOrder
import CallAtlas.Proofs.DocumentReading
import CallAtlas.Proofs.ClusterForest
import CallAtlas.Proofs.TreeSurvey
import CallAtlas.Proofs.FoundSources
import CallAtlas.Proofs.EdgePolicies
import CallAtlas.Proofs.PreorderRows
import CallAtlas.Proofs.RegroupedCalls
import CallAtlas.Proofs.GatheredClasses
import CallAtlas.Proofs.OwnerClosure
import CallAtlas.Proofs.SelectionText
import CallAtlas.Proofs.NestedItems
import CallAtlas.Proofs.SummaryNotes
import CallAtlas.Proofs.ScannedTexts
import CallAtlas.Proofs.TableLines
import CallAtlas.Proofs.TomlTexts
import CallAtlas.Proofs.ArchivedDatabases
import CallAtlas.Proofs.TokenTrees
import CallAtlas.Proofs.ShellPatterns
import CallAtlas.Proofs.ShellFields
import CallAtlas.Proofs.ShellArithmetic
