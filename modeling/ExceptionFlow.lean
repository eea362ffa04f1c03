import ExceptionFlow.Checker
import ExceptionFlow.Options.Reader
import ExceptionFlow.Proofs.Isolation
import ExceptionFlow.Proofs.Reports
import ExceptionFlow.Registry.Standard
import ExceptionFlow.Text.Quoted
import ExceptionFlow.Proofs.Refusal
import ExceptionFlow.Proofs.WellNested
import ExceptionFlow.Proofs.Reordering
import ExceptionFlow.Proofs.Contracts
import ExceptionFlow.Proofs.Repair
import ExceptionFlow.Proofs.Subtyping
import ExceptionFlow.Proofs.Tidying
import ExceptionFlow.Proofs.CatchFaults
import ExceptionFlow.Proofs.Pruning
import ExceptionFlow.Proofs.NeverThrown
import ExceptionFlow.Proofs.Identity
import ExceptionFlow.Proofs.Recording
import ExceptionFlow.Proofs.Widening
import ExceptionFlow.Proofs.IdleEntries
import ExceptionFlow.Proofs.Trimming
import ExceptionFlow.Proofs.CaughtAhead
import ExceptionFlow.Proofs.BreadthFirst
import ExceptionFlow.Proofs.Depth
import ExceptionFlow.Proofs.UselessTags
import ExceptionFlow.Proofs.CatchFindings
import ExceptionFlow.Proofs.SubtypeOrder
import ExceptionFlow.Proofs.LongestChain
import ExceptionFlow.Proofs.NearestMethod
import ExceptionFlow.Proofs.IntegerValues
import ExceptionFlow.Proofs.ArgumentErrors
import ExceptionFlow.Proofs.UnionOperands
import ExceptionFlow.Proofs.NameCase
import ExceptionFlow.Proofs.DeclaredSpelling
import ExceptionFlow.Proofs.Roots
import ExceptionFlow.Proofs.UnsupportedCalls
import ExceptionFlow.Proofs.UnusedSpellings
import ExceptionFlow.Proofs.InsertionOrder
import ExceptionFlow.Proofs.FunctionNames
import ExceptionFlow.Proofs.Messages
import ExceptionFlow.Proofs.TableOrder
