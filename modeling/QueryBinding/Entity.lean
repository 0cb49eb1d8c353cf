import QueryBinding.StoreType

/-!
# Entities

An entity type names a table and lists its mapped properties.  `validate` says
whether an entity can be mapped at all: it needs a table name, at least one
property, and property names that differ.
-/

namespace QueryBinding

/-! ## Properties -/

structure Property where
  name : String
  hostType : HostType
  /-- The column behind the property, if it is not called like the property. -/
  column : Option String
  /-- A store type of its own, before what the mapping source says. -/
  storeType : Option String
  nullable : Bool
  deriving DecidableEq, Repr

namespace Property

def plain (name : String) (hostType : HostType) : Property :=
  ⟨name, hostType, none, none, false⟩

def columnName (property : Property) : String :=
  property.column.getD property.name

/-- The mapping of a property: its own store type, or else what the source says. -/
def typeMapping (property : Property) (source : MappingSource) : Except Fault TypeMapping :=
  match property.storeType with
  | some storeType => .ok ⟨storeType, property.hostType⟩
  | none => source.mapping property.hostType

end Property

/-! ## Entity types -/

structure EntityType where
  name : String
  table : String
  schema : Option String
  properties : List Property
  deriving DecidableEq, Repr

namespace EntityType

def hostType (entity : EntityType) : HostType :=
  .entity entity.name

def findProperty? (entity : EntityType) (name : String) : Option Property :=
  entity.properties.find? fun property => property.name == name

def firstRepeated? (seen : List String) : List String → Option String
  | [] => none
  | name :: rest =>
      if name ∈ seen then some name else firstRepeated? (name :: seen) rest

def validate (entity : EntityType) : Except Fault Unit :=
  if Text.trim entity.table = "" then
    .error (.schema (.noTable entity.name))
  else if entity.properties.isEmpty then
    .error (.schema (.noProperties entity.name))
  else
    match firstRepeated? [] (entity.properties.map Property.name) with
    | some property => .error (.schema (.repeatedProperty entity.name property))
    | none => .ok ()

end EntityType

end QueryBinding
