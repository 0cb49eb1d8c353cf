import QueryBinding.Projection.Equality
import QueryBinding.Rewrite.Equality
import QueryBinding.Translator

/-!
# Queries over entities

A query over an entity is a select together with the row placeholder that host
expressions use for its current row.  A compiler makes queries and translators
over one mapping source and one set of rules.
-/

namespace QueryBinding

structure EntityQuery where
  select : Select
  row : Expr
  deriving Repr

namespace EntityQuery

/-- The placeholder for the current row of a query, read from the root position. -/
def rowOf (entity : EntityType) : Expr :=
  .row entity (.projected .root .object)

def ofEntity (entity : EntityType) (source : MappingSource) : Except Fault EntityQuery := do
  return ⟨← Select.ofEntity entity source, rowOf entity⟩

def resultType (query : EntityQuery) : HostType :=
  query.row.type

end EntityQuery

/-! ## Equality -/

def equalLists {α : Type} (same : α → α → Bool) : List α → List α → Bool
  | x :: xs, y :: ys => same x y && equalLists same xs ys
  | [], [] => true
  | _, _ => false

def equalOptions {α : Type} (same : α → α → Bool) : Option α → Option α → Bool
  | some x, some y => same x y
  | none, none => true
  | _, _ => false

def SortKey.equal (k l : SortKey) : Bool :=
  k.scalar.equal l.scalar && k.ascending == l.ascending

def Select.equal (s t : Select) : Bool :=
  s.tables == t.tables && s.mapping.equal t.mapping &&
    equalLists Scalar.equal s.projection t.projection && s.phase == t.phase &&
    equalOptions Scalar.equal s.predicate t.predicate &&
    equalLists SortKey.equal s.orderings t.orderings &&
    equalOptions Scalar.equal s.limit t.limit && equalOptions Scalar.equal s.offset t.offset

def EntityQuery.equal (q r : EntityQuery) : Bool :=
  q.select.equal r.select && q.row.equal r.row

/-! ## Compilers -/

structure Compiler where
  source : MappingSource
  rules : RuleSet

namespace Compiler

def translator (compiler : Compiler) : Except Fault Translator :=
  Translator.create compiler.source compiler.rules

def query (compiler : Compiler) (entity : EntityType) : Except Fault EntityQuery :=
  EntityQuery.ofEntity entity compiler.source

end Compiler

end QueryBinding
