import QueryBinding.Codec.Projection
import QueryBinding.Config
import QueryBinding.EntityQuery
import QueryBinding.Expr.Build
import QueryBinding.Expr.Induction
import QueryBinding.Json.Writer
import QueryBinding.Rewrite.Template
import QueryBinding.Proofs.Parts
import QueryBinding.Proofs.Success
import QueryBinding.Proofs.Columns
import QueryBinding.Proofs.Binding
import QueryBinding.Proofs.Meaning
import QueryBinding.Proofs.Origins
import QueryBinding.Proofs.Typing
import QueryBinding.Proofs.Condition
import QueryBinding.Proofs.Placeholders
import QueryBinding.Proofs.Forms
import QueryBinding.Proofs.Failure
import QueryBinding.Proofs.Clauses
import QueryBinding.Proofs.Rows
import QueryBinding.Proofs.Flattening
import QueryBinding.Proofs.Operands
import QueryBinding.Proofs.Grammar
import QueryBinding.Proofs.Shape
import QueryBinding.Proofs.Contexts
import QueryBinding.Proofs.Dependence
import QueryBinding.Proofs.PendingCalls
import QueryBinding.Proofs.Agreement
import QueryBinding.Proofs.Sessions
import QueryBinding.Proofs.Spellings
import QueryBinding.Proofs.Tiling
import QueryBinding.Proofs.Bare
import QueryBinding.Proofs.Comparisons
import QueryBinding.Proofs.Names
import QueryBinding.Proofs.Digits
import QueryBinding.Proofs.Moments
import QueryBinding.Proofs.Retyping
import QueryBinding.Proofs.Documents
import QueryBinding.Proofs.RoundTrip
import QueryBinding.Proofs.Validity
import QueryBinding.Proofs.Registration
import QueryBinding.Proofs.Construction
import QueryBinding.Proofs.ByteOrder
import QueryBinding.Proofs.Configuration
import QueryBinding.Proofs.Precedence
import QueryBinding.Proofs.Reconciliation
import QueryBinding.Proofs.Quoting
import QueryBinding.Proofs.Edits
