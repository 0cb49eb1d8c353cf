import QueryBinding.Document
import QueryBinding.Entity

/-!
# Documents of types and entities

How host types, type mappings and entity types are written in documents and read
from them.
-/

namespace QueryBinding

open Document (Limits)

def optionalText : Option String → Document
  | some s => .text s
  | none => .null

/-! ## Host types and mappings -/

namespace HostType

def toDocument (type : HostType) : Document :=
  .text type.name

def ofDocument (d : Document) : Option HostType :=
  d.asText?.map ofName

end HostType

namespace TypeMapping

def toDocument (mapping : TypeMapping) : Document :=
  .record [("store_type", .text mapping.storeType), ("host_type", mapping.hostType.toDocument)]

def ofDocument (limits : Limits) (d : Document) : Option TypeMapping := do
  match ← d.fields? limits [("store_type", .required), ("host_type", .required)] with
  | (_, [some storeType, some hostType]) =>
      return ⟨← storeType.asText?, ← HostType.ofDocument hostType⟩
  | _ => none

end TypeMapping

/-! ## Entities -/

namespace Property

def toDocument (property : Property) : Document :=
  .record
    [("name", .text property.name), ("type", property.hostType.toDocument),
      ("column", optionalText property.column),
      ("store_type", optionalText property.storeType), ("nullable", .bool property.nullable)]

def fieldList : List (String × Document.Presence) :=
  [("name", .required), ("type", .required), ("column", .defaulted), ("store_type", .defaulted),
    ("nullable", .defaulted)]

def ofDocument (limits : Limits) (d : Document) : Option Property := do
  match ← d.fields? limits fieldList with
  | (_, [some name, some type, column, storeType, nullable]) =>
      return {
        name := ← name.asText?
        hostType := ← HostType.ofDocument type
        column := ← Document.nullable Document.asText? column
        storeType := ← Document.nullable Document.asText? storeType
        nullable := ← Document.orDefault false Document.asBool? nullable }
  | _ => none

end Property

namespace EntityType

def toDocument (entity : EntityType) : Document :=
  .record
    [("name", .text entity.name), ("table", .text entity.table),
      ("schema", optionalText entity.schema),
      ("properties", .list (entity.properties.map Property.toDocument))]

def fieldList : List (String × Document.Presence) :=
  [("name", .required), ("table", .required), ("schema", .defaulted), ("properties", .defaulted)]

def ofDocument (limits : Limits) (d : Document) : Option EntityType := do
  match ← d.fields? limits fieldList with
  | (limits, [some name, some table, schema, properties]) =>
      return {
        name := ← name.asText?
        table := ← table.asText?
        schema := ← Document.nullable Document.asText? schema
        properties := ←
          Document.orDefault [] (Document.readList Property.ofDocument limits) properties }
  | _ => none

end EntityType

/-! ## Models -/

def Model.entitiesOfDocument (limits : Limits) (d : Document) : Option (List EntityType) := do
  match ← d.fields? limits [("entities", .required)] with
  | (limits, [some entities]) => Document.readList EntityType.ofDocument limits entities
  | _ => none

end QueryBinding
