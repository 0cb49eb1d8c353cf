import QueryBinding.Codec.Expr
import QueryBinding.Projection
import QueryBinding.Select

/-!
# Documents of projections and clauses

How table sources, sort keys and projected items are written in documents and
read from them.
-/

namespace QueryBinding

open Document (Limits)

namespace TableSource

def toDocument (table : TableSource) : Document :=
  .record
    [("name", .text table.name), ("schema", optionalText table.schema),
      ("alias", .text table.tableAlias)]

def ofDocument (limits : Limits) (d : Document) : Option TableSource := do
  match ← d.fields? limits [("name", .required), ("schema", .optional), ("alias", .required)] with
  | (_, [some name, schema, some tableAlias]) =>
      return ⟨← name.asText?, ← Document.nullable Document.asText? schema, ← tableAlias.asText?⟩
  | _ => none

end TableSource

namespace SortKey

def toDocument (codecs : TextCodecs) (key : SortKey) : Document :=
  .record [("expression", key.scalar.toDocument codecs), ("ascending", .bool key.ascending)]

def ofDocument (codecs : TextCodecs) (limits : Limits) (d : Document) : Option SortKey := do
  match ← d.fields? limits [("expression", .required), ("ascending", .required)] with
  | (limits, [some scalar, some ascending]) =>
      return ⟨← Scalar.ofDocument codecs limits.depth scalar, ← ascending.asBool?⟩
  | _ => none

end SortKey

namespace EntityProjection

def toDocument (codecs : TextCodecs) (projection : EntityProjection) : Document :=
  .record
    [("entity_type", projection.entity.toDocument), ("table_alias", .text projection.tableAlias),
      ("columns", .record (projection.columns.entries.map fun (name, s) =>
        (name, s.toDocument codecs)))]

/-- Read columns by property name; of a name written twice the later column counts. -/
def readColumns (codecs : TextCodecs) (limits : Limits) :
    Document → Option (OrderedMap String Scalar)
  | .record fields => do
      let limits ← limits.opened?
      return .ofList (← fields.mapM fun (name, d) => do
        return (name, ← Scalar.ofDocument codecs limits.depth d))
  | _ => none

def ofDocument (codecs : TextCodecs) (limits : Limits) (d : Document) :
    Option EntityProjection := do
  match ← d.fields? limits
      [("entity_type", .required), ("table_alias", .required), ("columns", .required)] with
  | (limits, [some entity, some tableAlias, some columns]) =>
      return ⟨← EntityType.ofDocument limits entity, ← tableAlias.asText?,
        ← readColumns codecs limits columns⟩
  | _ => none

end EntityProjection

namespace ProjectedItem

def toDocument (codecs : TextCodecs) : ProjectedItem → Document
  | .entity projection => .record [("Entity", projection.toDocument codecs)]
  | .scalar s => .record [("Scalar", s.toDocument codecs)]

def ofDocument (codecs : TextCodecs) (limits : Limits) (d : Document) : Option ProjectedItem := do
  match ← d.tagged? limits with
  | (limits, "Entity", some d) => return .entity (← EntityProjection.ofDocument codecs limits d)
  | (limits, "Scalar", some d) => return .scalar (← Scalar.ofDocument codecs limits.depth d)
  | _ => none

end ProjectedItem

end QueryBinding
