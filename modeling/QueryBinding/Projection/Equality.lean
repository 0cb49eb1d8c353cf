import QueryBinding.Expr.Equality
import QueryBinding.Projection

/-!
# Equality of projections

Column tables and projection mappings are compared without regard to order.
-/

namespace QueryBinding

def EntityProjection.equal (p q : EntityProjection) : Bool :=
  p.entity == q.entity && p.tableAlias == q.tableAlias && p.columns.agree Scalar.equal q.columns

def ProjectedItem.equal : ProjectedItem → ProjectedItem → Bool
  | .entity p, .entity q => p.equal q
  | .scalar s, .scalar t => s.equal t
  | _, _ => false

def ProjectionMapping.equal (m n : ProjectionMapping) : Bool :=
  m.agree ProjectedItem.equal n

end QueryBinding
