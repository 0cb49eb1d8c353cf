import QueryBinding.Codec.Schema
import QueryBinding.Json.Reader
import QueryBinding.Model
import QueryBinding.Toml.Reader

/-!
# Configurations

A configuration overrides store types and lists entity types.  Its type mappings
are applied in the order of their names, so that of several names for one host
type the greatest decides, wherever it is written.
-/

namespace QueryBinding

structure Config where
  /-- Host type names and the store types given to them. -/
  typeMappings : OrderedMap String String
  replaceStandard : Bool
  entities : List EntityType
  deriving Repr

namespace Config

def sortedMappings (config : Config) : List (String × String) :=
  config.typeMappings.entries.mergeSort fun a b => a.1 ≤ b.1

def storeTypes (config : Config) : StoreTypes :=
  config.sortedMappings.foldl
    (fun types (name, storeType) => types.insert (.ofName name) storeType)
    (if config.replaceStandard then .empty else .standard)

def model (config : Config) : Except Fault Model :=
  Model.ofEntities config.entities

def parts (config : Config) : Except Fault (Model × StoreTypes) := do
  return (← config.model, config.storeTypes)

/-! ## Reading -/

def readMappings : Document → Option (OrderedMap String String)
  | .record fields => do
      return .ofList (← fields.mapM fun (name, d) => do return (name, ← d.asText?))
  | _ => none

def ofDocument (d : Document) : Option Config := do
  match ← d.fields? Toml.limits
      [("type_mappings", .defaulted), ("replace_default_mappings", .defaulted),
        ("entities", .defaulted)] with
  | (limits, [typeMappings, replaceStandard, entities]) =>
      return {
        typeMappings := ← Document.orDefault .empty readMappings typeMappings
        replaceStandard := ← Document.orDefault false Document.asBool? replaceStandard
        entities := ←
          Document.orDefault [] (Document.readList EntityType.ofDocument limits) entities }
  | _ => none

def ofText (text : String) : Except Fault Config :=
  match (Toml.read? text).bind ofDocument with
  | some config => .ok config
  | none => .error (.config .unreadableDocument)

def ofFile (content : Option ByteArray) : Except Fault Config :=
  match content with
  | none => .error (.file .notFound)
  | some bytes =>
      match String.fromUTF8? bytes with
      | some text => ofText text
      | none => .error (.file .invalidData)

end Config

/-! ## Model documents -/

def Model.ofJson (text : String) : Except Fault Model :=
  match (Json.read? text).bind (Model.entitiesOfDocument Json.limits) with
  | some entities => Model.ofEntities entities
  | none => .error (.schema .unreadableModel)

end QueryBinding
