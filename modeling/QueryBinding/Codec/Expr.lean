import QueryBinding.Codec.Schema
import QueryBinding.Expr

/-!
# Documents of expressions

How constants, operators and expressions are written in documents and read from
them.  Every node is written as its tag with a record of its parts; reading goes
two brackets deep for a node, so the brackets that may still be opened bound its
recursion.
-/

namespace QueryBinding

open Document (Limits)

/-! ## Constants and operators -/

/-- How identifiers and timestamps are written as texts and read from them. -/
structure TextCodecs where
  writeUuid : Uuid → String
  readUuid : String → Option Uuid
  writeTimestamp : Timestamp → String
  readTimestamp : String → Option Timestamp

def TextCodecs.standard : TextCodecs where
  writeUuid := Uuid.render
  readUuid := Uuid.read?
  writeTimestamp := Timestamp.renderWith 'T'
  readTimestamp := Timestamp.read?

namespace Value

/-- The document of a constant; NaN and the infinities have none and are written as null. -/
def toDocument (codecs : TextCodecs) : Value → Document
  | .null => .text "Null"
  | .bool b => .record [("Bool", .bool b)]
  | .int n => .record [("Int", .integer n.toInt)]
  | .float x => .record [("Float", if x.isFinite then .real x else .null)]
  | .string s => .record [("String", .text s)]
  | .uuid u => .record [("Uuid", .text (codecs.writeUuid u))]
  | .timestamp t => .record [("Timestamp", .text (codecs.writeTimestamp t))]

def ofDocument (codecs : TextCodecs) (limits : Limits) (d : Document) : Option Value := do
  match ← d.tagged? limits with
  | (_, "Null", content) => if Document.isBare content then some .null else none
  | (_, "Bool", some d) => return .bool (← d.asBool?)
  | (_, "Int", some d) => return .int (← d.asInt64?)
  | (_, "Float", some d) => return .float (← d.asReal?)
  | (_, "String", some d) => return .string (← d.asText?)
  | (_, "Uuid", some d) => return .uuid (← codecs.readUuid (← d.asText?))
  | (_, "Timestamp", some d) => return .timestamp (← codecs.readTimestamp (← d.asText?))
  | _ => none

end Value

namespace BinaryOp

def tags : List (String × BinaryOp) :=
  [("Equal", .equal), ("NotEqual", .notEqual), ("LessThan", .lessThan),
    ("LessThanOrEqual", .lessThanOrEqual), ("GreaterThan", .greaterThan),
    ("GreaterThanOrEqual", .greaterThanOrEqual), ("AndAlso", .andAlso), ("OrElse", .orElse),
    ("Add", .add), ("Subtract", .subtract), ("Multiply", .multiply), ("Divide", .divide),
    ("Modulo", .modulo)]

def tag : BinaryOp → String
  | .equal => "Equal"
  | .notEqual => "NotEqual"
  | .lessThan => "LessThan"
  | .lessThanOrEqual => "LessThanOrEqual"
  | .greaterThan => "GreaterThan"
  | .greaterThanOrEqual => "GreaterThanOrEqual"
  | .andAlso => "AndAlso"
  | .orElse => "OrElse"
  | .add => "Add"
  | .subtract => "Subtract"
  | .multiply => "Multiply"
  | .divide => "Divide"
  | .modulo => "Modulo"

def ofTag? (tag : String) : Option BinaryOp :=
  tags.lookup tag

def toDocument (op : BinaryOp) : Document :=
  .text op.tag

def ofDocument (limits : Limits) (d : Document) : Option BinaryOp := do
  let (_, tag, content) ← d.tagged? limits
  if Document.isBare content then ofTag? tag else none

end BinaryOp

namespace UnaryOp

def tag : UnaryOp → String
  | .convert => "Convert"
  | .not => "Not"
  | .negate => "Negate"

def ofTag? : String → Option UnaryOp
  | "Convert" => some .convert
  | "Not" => some .not
  | "Negate" => some .negate
  | _ => none

def toDocument (op : UnaryOp) : Document :=
  .text op.tag

def ofDocument (limits : Limits) (d : Document) : Option UnaryOp := do
  let (_, tag, content) ← d.tagged? limits
  if Document.isBare content then ofTag? tag else none

end UnaryOp

/-! ## Leaves -/

namespace MethodRef

def toDocument (method : MethodRef) : Document :=
  .record [("declaring_type", .text method.declaringType), ("name", .text method.name)]

def ofDocument (limits : Limits) (d : Document) : Option MethodRef := do
  match ← d.fields? limits [("declaring_type", .required), ("name", .required)] with
  | (_, [some declaringType, some name]) => return ⟨← declaringType.asText?, ← name.asText?⟩
  | _ => none

end MethodRef

namespace ProjectionPath

def toDocument (path : ProjectionPath) : Document :=
  .list (path.steps.map .text)

def ofDocument (limits : Limits) (d : Document) : Option ProjectionPath :=
  (Document.readList (fun _ step => step.asText?) limits d).map (⟨·⟩)

end ProjectionPath

namespace Column

def toDocument (column : Column) : Document :=
  .record
    [("name", .text column.name), ("table_alias", .text column.tableAlias),
      ("ty", column.type.toDocument), ("nullable", .bool column.nullable)]

def ofDocument (limits : Limits) (d : Document) : Option Column := do
  match ← d.fields? limits
      [("name", .required), ("table_alias", .required), ("ty", .required),
        ("nullable", .required)] with
  | (_, [some name, some tableAlias, some type, some nullable]) =>
      return ⟨← name.asText?, ← tableAlias.asText?, ← HostType.ofDocument type,
        ← nullable.asBool?⟩
  | _ => none

end Column

def optionalMapping : Option TypeMapping → Document
  | some mapping => mapping.toDocument
  | none => .null

/-! ## Writing expressions -/

namespace Expr

mutual

def toDocument (codecs : TextCodecs) : Expr → Document
  | .constant value type =>
      .record [("Constant", .record
        [("value", value.toDocument codecs), ("ty", type.toDocument)])]
  | .parameter name type =>
      .record [("Parameter", .record [("name", .text name), ("ty", type.toDocument)])]
  | .member receiver name type =>
      .record [("Member", .record
        [("receiver", optionToDocument codecs receiver), ("member", .text name),
          ("ty", type.toDocument)])]
  | .call receiver method args type =>
      .record [("MethodCall", .record
        [("receiver", optionToDocument codecs receiver), ("method", method.toDocument),
          ("args", .list (allToDocuments codecs args)), ("ty", type.toDocument)])]
  | .binary op left right type =>
      .record [("Binary", .record
        [("op", op.toDocument), ("left", left.toDocument codecs),
          ("right", right.toDocument codecs), ("ty", type.toDocument)])]
  | .unary op operand type =>
      .record [("Unary", .record
        [("op", op.toDocument), ("operand", operand.toDocument codecs),
          ("ty", type.toDocument)])]
  | .row entity buffer =>
      .record [("EntityShaper", .record
        [("entity_type", entity.toDocument), ("value_buffer", buffer.toDocument codecs)])]
  | .projected path type =>
      .record [("ProjectionBinding", .record
        [("member", path.toDocument), ("ty", type.toDocument)])]
  | .scalar inner mapping isCondition =>
      .record [("Sql", .record
        [("expression", inner.toDocument codecs), ("type_mapping", optionalMapping mapping),
          ("is_condition", .bool isCondition)])]
  | .column c => .record [("Column", c.toDocument)]
  | .cast operand type storeType =>
      .record [("Cast", .record
        [("operand", operand.toDocument codecs), ("ty", type.toDocument),
          ("store_type", .text storeType)])]
  | .function inst name schema args type =>
      .record [("Function", .record
        [("instance", optionToDocument codecs inst), ("name", .text name),
          ("schema", optionalText schema), ("args", .list (allToDocuments codecs args)),
          ("ty", type.toDocument)])]
  | .fragment sql type =>
      .record [("Fragment", .record [("sql", .text sql), ("ty", type.toDocument)])]

def optionToDocument (codecs : TextCodecs) : Option Expr → Document
  | some e => e.toDocument codecs
  | none => .null

def allToDocuments (codecs : TextCodecs) : List Expr → List Document
  | [] => []
  | e :: rest => e.toDocument codecs :: allToDocuments codecs rest

end

@[simp] theorem allToDocuments_eq_map (codecs : TextCodecs) (es : List Expr) :
    allToDocuments codecs es = es.map (toDocument codecs) := by
  induction es with
  | nil => rfl
  | cons e rest ih => simp [allToDocuments, ih]

end Expr

def Scalar.toDocument (codecs : TextCodecs) (s : Scalar) : Document :=
  .record
    [("expression", s.inner.toDocument codecs), ("type_mapping", optionalMapping s.mapping),
      ("is_condition", .bool s.isCondition)]

/-! ## Reading expressions -/

def Scalar.readWith (inner : Document → Option Expr) (limits : Limits) (d : Document) :
    Option Scalar := do
  match ← d.fields? limits
      [("expression", .required), ("type_mapping", .optional), ("is_condition", .required)] with
  | (limits, [some expression, mapping, some isCondition]) =>
      return ⟨← inner expression, ← Document.nullable (TypeMapping.ofDocument limits) mapping,
        ← isCondition.asBool?⟩
  | _ => none

namespace Expr

/--
Read the content behind the tag of an expression: `read` reads a part of it and
`readAll` a list of parts.
-/
def readContent (codecs : TextCodecs) (read : Document → Option Expr)
    (readAll : Document → Option (List Expr)) (limits : Limits) (tag : String) (d : Document) :
    Option Expr := do
  match tag with
  | "Constant" =>
      match ← d.fields? limits [("value", .required), ("ty", .required)] with
      | (limits, [some value, some type]) =>
          return .constant (← Value.ofDocument codecs limits value) (← HostType.ofDocument type)
      | _ => none
  | "Parameter" =>
      match ← d.fields? limits [("name", .required), ("ty", .required)] with
      | (_, [some name, some type]) =>
          return .parameter (← name.asText?) (← HostType.ofDocument type)
      | _ => none
  | "Member" =>
      match ← d.fields? limits
          [("receiver", .optional), ("member", .required), ("ty", .required)] with
      | (_, [receiver, some name, some type]) =>
          return .member (← Document.nullable read receiver) (← name.asText?)
            (← HostType.ofDocument type)
      | _ => none
  | "MethodCall" =>
      match ← d.fields? limits
          [("receiver", .optional), ("method", .required), ("args", .required),
            ("ty", .required)] with
      | (limits, [receiver, some method, some args, some type]) =>
          return .call (← Document.nullable read receiver) (← MethodRef.ofDocument limits method)
            (← readAll args) (← HostType.ofDocument type)
      | _ => none
  | "Binary" =>
      match ← d.fields? limits
          [("op", .required), ("left", .required), ("right", .required), ("ty", .required)] with
      | (limits, [some op, some left, some right, some type]) =>
          return .binary (← BinaryOp.ofDocument limits op) (← read left) (← read right)
            (← HostType.ofDocument type)
      | _ => none
  | "Unary" =>
      match ← d.fields? limits [("op", .required), ("operand", .required), ("ty", .required)] with
      | (limits, [some op, some operand, some type]) =>
          return .unary (← UnaryOp.ofDocument limits op) (← read operand)
            (← HostType.ofDocument type)
      | _ => none
  | "EntityShaper" =>
      match ← d.fields? limits [("entity_type", .required), ("value_buffer", .required)] with
      | (limits, [some entity, some buffer]) =>
          return .row (← EntityType.ofDocument limits entity) (← read buffer)
      | _ => none
  | "ProjectionBinding" =>
      match ← d.fields? limits [("member", .required), ("ty", .required)] with
      | (limits, [some path, some type]) =>
          return .projected (← ProjectionPath.ofDocument limits path) (← HostType.ofDocument type)
      | _ => none
  | "Sql" => return (← Scalar.readWith read limits d).toExpr
  | "Column" => return .column (← Column.ofDocument limits d)
  | "Cast" =>
      match ← d.fields? limits
          [("operand", .required), ("ty", .required), ("store_type", .required)] with
      | (_, [some operand, some type, some storeType]) =>
          return .cast (← read operand) (← HostType.ofDocument type) (← storeType.asText?)
      | _ => none
  | "Function" =>
      match ← d.fields? limits
          [("instance", .optional), ("name", .required), ("schema", .optional),
            ("args", .required), ("ty", .required)] with
      | (_, [inst, some name, schema, some args, some type]) =>
          return .function (← Document.nullable read inst) (← name.asText?)
            (← Document.nullable Document.asText? schema) (← readAll args)
            (← HostType.ofDocument type)
      | _ => none
  | "Fragment" =>
      match ← d.fields? limits [("sql", .required), ("ty", .required)] with
      | (_, [some sql, some type]) => return .fragment (← sql.asText?) (← HostType.ofDocument type)
      | _ => none
  | _ => none

def ofDocument (codecs : TextCodecs) : Nat → Document → Option Expr
  | depth + 2, .record [(tag, content)] =>
      readContent codecs (ofDocument codecs depth)
        (fun args =>
          match depth with
          | depth + 1 =>
              Document.readList (fun _ => ofDocument codecs depth) ⟨depth + 1, false⟩ args
          | 0 => none)
        ⟨depth + 1, false⟩ tag content
  | _, _ => none

end Expr

def Scalar.ofDocument (codecs : TextCodecs) (depth : Nat) (d : Document) : Option Scalar :=
  Scalar.readWith (Expr.ofDocument codecs (depth - 1)) ⟨depth, false⟩ d

end QueryBinding
