import QueryBinding.Change
import QueryBinding.Expr.Render
import QueryBinding.Projection
import QueryBinding.Text.Lowercase

/-!
# Selects

A select starts out reading every mapped property of one entity and is then
shaped by its clauses.  Its projection is a mapping from positions to items until
it is applied; from then on it is a flat list of columns and never changes again.
-/

namespace QueryBinding

structure SortKey where
  scalar : Scalar
  ascending : Bool
  deriving Repr

def SortKey.render (key : SortKey) : String :=
  key.scalar.render ++ (if key.ascending then " ASC" else " DESC")

inductive ProjectionPhase where
  | mapping
  | applied
  deriving DecidableEq, Repr

structure Select where
  tables : List TableSource
  mapping : ProjectionMapping
  projection : List Scalar
  phase : ProjectionPhase
  predicate : Option Scalar
  orderings : List SortKey
  limit : Option Scalar
  offset : Option Scalar
  deriving Repr

namespace Select

/-- The alias of a table: the first letter of its name in lower case. -/
def tableAlias (table : String) : String :=
  Text.lowerInitial table

def ofEntity (entity : EntityType) (source : MappingSource) : Except Fault Select := do
  let table : TableSource := ⟨entity.table, entity.schema, tableAlias entity.table⟩
  let projection ← EntityProjection.ofTable entity table source
  return {
    tables := [table]
    mapping := .ofList [(.root, .entity projection)]
    projection := []
    phase := .mapping
    predicate := none
    orderings := []
    limit := none
    offset := none }

def isProjectionApplied (select : Select) : Bool :=
  select.phase == .applied

def item? (select : Select) (path : ProjectionPath) : Option ProjectedItem :=
  select.mapping.find? path

def bindProperty (select : Select) (placeholder : Expr) (property : Property) :
    Except Fault Scalar :=
  match placeholder with
  | .projected path _ =>
      match select.item? path with
      | some (.entity projection) => projection.column property
      | some (.scalar _) => .error (.notEntityProjection path)
      | none => .error (.unknownMember path)
  | other => .error (.unsupported (.notProjected other.render))

/-! ## Clauses -/

def ensureMapping : Change Select Unit := do
  match (← get).phase with
  | .mapping => return ()
  | .applied => throw .projectionAlreadyApplied

/-- Flatten the projection, once; the answer tells where each item starts. -/
def applyProjection : Change Select (OrderedMap ProjectionPath Nat) := do
  ensureMapping
  let mapping := (← get).mapping
  modify fun select => { select with projection := select.projection ++ mapping.flatten }
  modify fun select => { select with phase := .applied }
  return mapping.starts

def setMapping (mapping : ProjectionMapping) : Change Select Unit := do
  ensureMapping
  modify fun select => { select with mapping }

def applyPredicate (select : Select) (predicate : Scalar) : Select :=
  { select with predicate := some predicate }

def applyOrderBy (select : Select) (key : SortKey) : Select :=
  { select with orderings := [key] }

def applyThenBy (select : Select) (key : SortKey) : Select :=
  { select with orderings := select.orderings ++ [key] }

def applyLimit (select : Select) (limit : Scalar) : Select :=
  { select with limit := some limit }

def applyOffset (select : Select) (offset : Scalar) : Select :=
  { select with offset := some offset }

/-! ## The guard of the projection -/

variable {select : Select}

theorem on_applyProjection_of_mapping (h : select.phase = .mapping) :
    applyProjection.on select =
      (.ok select.mapping.starts,
        { select with
          projection := select.projection ++ select.mapping.flatten
          phase := .applied }) := by
  simp [applyProjection, ensureMapping, h]

theorem on_applyProjection_of_empty (h : select.phase = .mapping)
    (hempty : select.projection = []) :
    applyProjection.on select =
      (.ok select.mapping.starts,
        { select with projection := select.mapping.flatten, phase := .applied }) := by
  rw [on_applyProjection_of_mapping h, hempty, List.nil_append]

theorem on_applyProjection_of_applied (h : select.phase = .applied) :
    applyProjection.on select = (.error .projectionAlreadyApplied, select) := by
  simp [applyProjection, ensureMapping, h]

theorem on_setMapping_of_mapping (h : select.phase = .mapping) (mapping : ProjectionMapping) :
    (setMapping mapping).on select = (.ok (), { select with mapping }) := by
  simp [setMapping, ensureMapping, h]

theorem on_setMapping_of_applied (h : select.phase = .applied) (mapping : ProjectionMapping) :
    (setMapping mapping).on select = (.error .projectionAlreadyApplied, select) := by
  simp [setMapping, ensureMapping, h]

end Select

end QueryBinding
