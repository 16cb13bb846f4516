import SearchCriteria.Config.Load
import SearchCriteria.Json.Reader
import SearchCriteria.Session.Perform
import SearchCriteria.Proofs.Cache.Epoch
import SearchCriteria.Proofs.Cache.Refinement
import SearchCriteria.Proofs.Scope.Continuation
import SearchCriteria.Proofs.Scope.Defaults
import SearchCriteria.Proofs.Scope.Restoration
import SearchCriteria.Proofs.Selector.Grammar
import SearchCriteria.Proofs.Selector.Meaning
import SearchCriteria.Proofs.Selector.NormalForm
import SearchCriteria.Proofs.Scope.Registration
import SearchCriteria.Proofs.Scope.Binding
import SearchCriteria.Proofs.Scope.DynamicDefaults
import SearchCriteria.Proofs.Session.Interleaving
import SearchCriteria.Proofs.Session.Isolation
import SearchCriteria.Proofs.Cache.Failure
import SearchCriteria.Proofs.Response.Shape
import SearchCriteria.Proofs.Selector.Depth
import SearchCriteria.Proofs.Selector.Fragments
import SearchCriteria.Proofs.Observation.Reports
import SearchCriteria.Proofs.Observation.Desk
import SearchCriteria.Proofs.Observation.Ledger
import SearchCriteria.Proofs.Selector.Interval
import SearchCriteria.Proofs.Selector.Verbatim
import SearchCriteria.Proofs.Scope.Repetition
import SearchCriteria.Proofs.Cache.Builders
import SearchCriteria.Proofs.Scope.Recomposition
import SearchCriteria.Proofs.Options.Clauses
import SearchCriteria.Proofs.Options.Chain
import SearchCriteria.Proofs.Response.Indexed
import SearchCriteria.Proofs.Scope.Guarding
import SearchCriteria.Proofs.Options.Overlay
import SearchCriteria.Proofs.Scope.Showing
import SearchCriteria.Proofs.Config.Environment
import SearchCriteria.Proofs.Config.Layers
import SearchCriteria.Proofs.Config.Prefix
import SearchCriteria.Proofs.Selector.InsertionOrder
