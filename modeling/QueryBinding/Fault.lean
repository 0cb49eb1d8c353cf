import QueryBinding.HostType
import QueryBinding.ProjectionPath

/-!
# Faults

Everything that can go wrong while metadata is loaded or an expression is bound,
and the one place where faults are put into words.
-/

namespace QueryBinding

/-- Why an expression has no scalar form. -/
inductive Unsupported where
  | notProjected (placeholder : String)
  | entityAsScalar (entity : String)
  | projectionAsScalar (path : ProjectionPath)
  | missingPropertyName
  | dynamicPropertyName (argument : String)
  | pendingCall (call : String)
  deriving DecidableEq, Repr

/-- Why entity metadata cannot be used. -/
inductive SchemaFlaw where
  | noTable (entity : String)
  | noProperties (entity : String)
  | repeatedProperty (entity property : String)
  | repeatedEntity (entity : String)
  | unmappedEntity (entity : String)
  | unreadableModel
  deriving DecidableEq, Repr

inductive ConfigFlaw where
  | noBooleanMapping
  | unreadableDocument
  deriving DecidableEq, Repr

inductive FileFlaw where
  | notFound
  | invalidData
  deriving DecidableEq, Repr

inductive Fault where
  | unsupported (reason : Unsupported)
  /-- An access names a property that the entity does not have. -/
  | undefinedProperty (entity property : String)
  | unmappedType (type : HostType)
  | unknownMember (path : ProjectionPath)
  /-- A property was bound through a position that projects a scalar. -/
  | notEntityProjection (path : ProjectionPath)
  | projectionAlreadyApplied
  | schema (flaw : SchemaFlaw)
  | config (flaw : ConfigFlaw)
  | file (flaw : FileFlaw)
  deriving DecidableEq, Repr

namespace Unsupported

def message : Unsupported → String
  | .notProjected placeholder => s!"'{placeholder}' is not a projection binding"
  | .entityAsScalar entity => s!"entity '{entity}' cannot be used as a scalar"
  | .projectionAsScalar path =>
      s!"projection binding '{path.render}' cannot be used as a scalar"
  | .missingPropertyName => "property accessor requires a property name"
  | .dynamicPropertyName argument =>
      s!"property name must be a string constant, got {argument}"
  | .pendingCall call => s!"no translation for {call}"

end Unsupported

namespace SchemaFlaw

def message : SchemaFlaw → String
  | .noTable entity => s!"entity '{entity}' has no table name"
  | .noProperties entity => s!"entity '{entity}' maps no properties"
  | .repeatedProperty entity property =>
      s!"entity '{entity}' declares property '{property}' twice"
  | .repeatedEntity entity => s!"entity '{entity}' is declared twice"
  | .unmappedEntity entity => s!"entity '{entity}' is not mapped"
  | .unreadableModel => "Failed to parse model: "

end SchemaFlaw

namespace ConfigFlaw

def message : ConfigFlaw → String
  | .noBooleanMapping => "type mapping source cannot map the boolean type"
  | .unreadableDocument => "Failed to parse config: "

end ConfigFlaw

namespace FileFlaw

def message : FileFlaw → String
  | .notFound => "NotFound"
  | .invalidData => "InvalidData"

end FileFlaw

namespace Fault

def message : Fault → String
  | .unsupported reason => "Expression not supported for this provider: " ++ reason.message
  | .undefinedProperty entity property =>
      s!"Property '{property}' is not defined on entity '{entity}'"
  | .unmappedType type => s!"No store type mapping for host type '{type.name}'"
  | .unknownMember path => "Unknown projection member: " ++ path.render
  | .notEntityProjection path =>
      s!"Projection member '{path.render}' is not an entity projection"
  | .projectionAlreadyApplied => "Projection has already been applied to this select"
  | .schema flaw => "Invalid metadata: " ++ flaw.message
  | .config flaw => "Configuration error: " ++ flaw.message
  | .file flaw => "IO error: " ++ flaw.message

end Fault

end QueryBinding
