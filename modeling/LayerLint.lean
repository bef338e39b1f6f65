import LayerLint.Main
import LayerLint.Data.Json.Reader
import LayerLint.Proofs.HookMemo
import LayerLint.Proofs.Engine
import LayerLint.Proofs.Analysis
import LayerLint.Proofs.Catalog
import LayerLint.Proofs.Controller
import LayerLint.Proofs.Scheduling
import LayerLint.Proofs.HookLookups
import LayerLint.Proofs.IndexGrowth
import LayerLint.Proofs.PartialLoad
import LayerLint.Proofs.UseDeclaration
import LayerLint.Proofs.ImportLink
import LayerLint.Proofs.RuleView
import LayerLint.Proofs.Confinement
import LayerLint.Proofs.Toggles
import LayerLint.Proofs.SourceOrder
import LayerLint.Proofs.JsonRoundTrip
import LayerLint.Proofs.Sarif
import LayerLint.Proofs.Verdict
import LayerLint.Proofs.RuleListing
import LayerLint.Proofs.Namespaces
import LayerLint.Proofs.IndexMap
import LayerLint.Proofs.AncestorSearch
import LayerLint.Proofs.Calls
import LayerLint.Proofs.IncompleteSave
import LayerLint.Proofs.ReactiveSave
import LayerLint.Proofs.LastAssignment
import LayerLint.Proofs.CallChain
import LayerLint.Proofs.HooksDirectory
import LayerLint.Proofs.HookFields
import LayerLint.Proofs.CommentedUse
import LayerLint.Proofs.BackendRun
import LayerLint.Proofs.EntityConstants
import LayerLint.Proofs.DeclaredTypes
import LayerLint.Proofs.Discovery
import LayerLint.Proofs.TreeWalk
import LayerLint.Proofs.StringLiteral
