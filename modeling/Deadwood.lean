import Deadwood.Json.Parser
import Deadwood.Main
import Deadwood.Scope.Script
import Deadwood.Proofs.Catalog
import Deadwood.Proofs.Closure
import Deadwood.Proofs.Resolution
import Deadwood.Proofs.Linking
import Deadwood.Proofs.Liveness
import Deadwood.Proofs.Callers
import Deadwood.Proofs.Agreement
import Deadwood.Proofs.Aliases
import Deadwood.Proofs.FileOrder
import Deadwood.Proofs.Invariant
import Deadwood.Proofs.Monotone
import Deadwood.Proofs.Walk
import Deadwood.Proofs.Tracking
import Deadwood.Proofs.FunctionItems
import Deadwood.Proofs.CallExpressions
import Deadwood.Proofs.Callees
import Deadwood.Proofs.OwnPaths
import Deadwood.Proofs.ProjectFunctions
import Deadwood.Proofs.Shadowing
import Deadwood.Proofs.MethodCalls
import Deadwood.Proofs.Search
import Deadwood.Proofs.Explanation
import Deadwood.Proofs.GraphDocument
import Deadwood.Proofs.OwnMethods
import Deadwood.Proofs.DotReader
import Deadwood.Proofs.Drawing
import Deadwood.Proofs.Faults
import Deadwood.Proofs.Reachability
import Deadwood.Proofs.Remarks
import Deadwood.Proofs.Strictness
import Deadwood.Proofs.ShortestPaths
import Deadwood.Proofs.CallDepth
import Deadwood.Proofs.Statistics
import Deadwood.Proofs.AliasChains
import Deadwood.Proofs.UseTrees
import Deadwood.Proofs.RelativePaths
import Deadwood.Proofs.ScopeContexts
import Deadwood.Proofs.TokenTrees
import Deadwood.Proofs.CrateRoots
import Deadwood.Proofs.JsonGrammar
import Deadwood.Proofs.JsonReading
import Deadwood.Proofs.Listings
import Deadwood.Proofs.Scanning
import Deadwood.Proofs.Options
import Deadwood.Proofs.Refusals
import Deadwood.Proofs.Precedence
import Deadwood.Proofs.PathKeys
