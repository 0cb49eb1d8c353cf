import QueryBinding.Expr

/-!
# Projections

What a select yields at each projection position: the columns of an entity, or
one scalar.  Flattening a projection mapping lays the columns of its items one
after the other and notes where each item starts.
-/

namespace QueryBinding

structure TableSource where
  name : String
  schema : Option String
  tableAlias : String
  deriving DecidableEq, Repr

def TableSource.render (table : TableSource) : String :=
  ((table.schema.map (· ++ ".")).getD "") ++ table.name ++ " AS " ++ table.tableAlias

/-! ## Entities -/

structure EntityProjection where
  entity : EntityType
  tableAlias : String
  columns : OrderedMap String Scalar
  deriving Repr

namespace EntityProjection

def propertyColumn (tableAlias : String) (source : MappingSource) (property : Property) :
    Except Fault Scalar := do
  let mapping ← property.typeMapping source
  let column : Column :=
    ⟨property.columnName, tableAlias, property.hostType, property.nullable⟩
  return .value (.column column) (some mapping)

/-- The columns of a valid entity in a table, one for each property, in declared order. -/
def ofTable (entity : EntityType) (table : TableSource) (source : MappingSource) :
    Except Fault EntityProjection := do
  entity.validate
  let columns ← entity.properties.mapM fun property => do
    return (property.name, ← propertyColumn table.tableAlias source property)
  return ⟨entity, table.tableAlias, .ofList columns⟩

def column (projection : EntityProjection) (property : Property) : Except Fault Scalar :=
  match projection.columns.find? property.name with
  | some column => .ok column
  | none => .error (.undefinedProperty projection.entity.name property.name)

end EntityProjection

/-! ## Projection mappings -/

inductive ProjectedItem where
  | entity (projection : EntityProjection)
  | scalar (scalar : Scalar)
  deriving Repr

def ProjectedItem.columns : ProjectedItem → List Scalar
  | .entity projection => projection.columns.values
  | .scalar s => [s]

/-- The items of a select by position; their order becomes the column order. -/
abbrev ProjectionMapping := OrderedMap ProjectionPath ProjectedItem

namespace ProjectionMapping

def flatten (mapping : ProjectionMapping) : List Scalar :=
  mapping.values.flatMap ProjectedItem.columns

/-- Where each item starts when the first one starts at `start`. -/
def startsFrom (start : Nat) : List (ProjectionPath × ProjectedItem) → List (ProjectionPath × Nat)
  | [] => []
  | (path, item) :: rest => (path, start) :: startsFrom (start + item.columns.length) rest

@[simp] theorem keys_startsFrom (start : Nat) (items : List (ProjectionPath × ProjectedItem)) :
    (startsFrom start items).map Prod.fst = items.map Prod.fst := by
  induction items generalizing start with
  | nil => rfl
  | cons item rest ih => simp [startsFrom, ih]

def starts (mapping : ProjectionMapping) : OrderedMap ProjectionPath Nat :=
  ⟨startsFrom 0 mapping.entries, by simpa using mapping.nodup_keys⟩

end ProjectionMapping

end QueryBinding
