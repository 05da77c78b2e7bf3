import TypeHints.Config.Search
import TypeHints.Json.Printer
import TypeHints.Sanitize
import TypeHints.Json.Encoding
import TypeHints.Proofs.Termination
import TypeHints.Proofs.RecursionGuard
import TypeHints.Proofs.Bindings
import TypeHints.Proofs.Sharing
import TypeHints.Proofs.Arguments
import TypeHints.Proofs.NormalForm
import TypeHints.Proofs.Descent
import TypeHints.Proofs.Reports
import TypeHints.Proofs.Annotations
import TypeHints.Proofs.Arity
import TypeHints.Proofs.Trails
import TypeHints.Proofs.Resolutions
import TypeHints.Proofs.Transparency
import TypeHints.Proofs.Addresses
import TypeHints.Proofs.Lookups
import TypeHints.Proofs.Cascade
import TypeHints.Proofs.Coercions
import TypeHints.Proofs.Deferral
import TypeHints.Proofs.BareNames
import TypeHints.Proofs.Rendering
import TypeHints.Proofs.Applications
import TypeHints.Proofs.MemberOrder
import TypeHints.Proofs.InternRuns
import TypeHints.Proofs.LeftOpen
import TypeHints.Proofs.QualifiedNames
import TypeHints.Proofs.Regrouping
import TypeHints.Proofs.Subtyping
import TypeHints.Proofs.Unloading
import TypeHints.Proofs.Overrides
import TypeHints.Proofs.MemberNames
import TypeHints.Proofs.UsedNames
import TypeHints.Proofs.WriteBack
import TypeHints.Proofs.NearestConfig
