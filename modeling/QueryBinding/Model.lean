import QueryBinding.Change
import QueryBinding.Entity

/-!
# Models

A model keeps the mapped entity types under their names, in the order of their
registration.  `add` lets in valid entities under names that are still free.
-/

namespace QueryBinding

structure Model where
  table : OrderedMap String EntityType
  deriving DecidableEq, Repr

namespace Model

def empty : Model :=
  ⟨.empty⟩

def size (model : Model) : Nat :=
  model.table.size

def isEmpty (model : Model) : Bool :=
  model.table.isEmpty

def entities (model : Model) : List EntityType :=
  model.table.values

def find? (model : Model) (name : String) : Option EntityType :=
  model.table.find? name

def entity (model : Model) (name : String) : Except Fault EntityType :=
  match model.find? name with
  | some entity => .ok entity
  | none => .error (.schema (.unmappedEntity name))

/-- Register an entity under its name; the answer is the entity that is stored. -/
def add (entity : EntityType) : Change Model EntityType := do
  entity.validate
  if ((← get).find? entity.name).isSome then
    throw (.schema (.repeatedEntity entity.name))
  modify fun model => ⟨model.table.insert entity.name entity⟩
  return entity

def register (model : Model) (entity : EntityType) : Except Fault Model :=
  match (add entity).on model with
  | (.ok _, next) => .ok next
  | (.error fault, _) => .error fault

def ofEntities (entities : List EntityType) : Except Fault Model :=
  entities.foldlM register empty

end Model

end QueryBinding
