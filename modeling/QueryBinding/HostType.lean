import QueryBinding.Text.Blank

/-!
# Host types

The types that host expressions evaluate to, and their configuration names.
Reading a name forgives surrounding blanks and knows a second spelling of some
built-in types; every text is the name of some type.
-/

namespace QueryBinding

inductive HostType where
  | bool
  | int16
  | int32
  | int64
  | float32
  | float64
  | decimal
  | string
  | dateTime
  | uuid
  | bytes
  /-- The type of anything.  A conversion to it is never a cast. -/
  | object
  | entity (name : String)
  /-- Any other host type, known by its name alone. -/
  | named (name : String)
  deriving DecidableEq, Repr, Inhabited

namespace HostType

def isBool (t : HostType) : Bool :=
  t = .bool

def isObject (t : HostType) : Bool :=
  t = .object

def isEntity : HostType → Bool
  | .entity _ => true
  | _ => false

def entityMark : String :=
  "entity:"

def name : HostType → String
  | .bool => "bool"
  | .int16 => "i16"
  | .int32 => "i32"
  | .int64 => "i64"
  | .float32 => "f32"
  | .float64 => "f64"
  | .decimal => "decimal"
  | .string => "string"
  | .dateTime => "datetime"
  | .uuid => "uuid"
  | .bytes => "bytes"
  | .object => "object"
  | .entity row => entityMark ++ row
  | .named other => other

def builtIn : List (String × HostType) :=
  [("bool", .bool), ("boolean", .bool), ("i16", .int16), ("i32", .int32), ("int", .int32),
    ("i64", .int64), ("long", .int64), ("f32", .float32), ("f64", .float64),
    ("double", .float64), ("decimal", .decimal), ("string", .string), ("str", .string),
    ("datetime", .dateTime), ("timestamp", .dateTime), ("uuid", .uuid), ("bytes", .bytes),
    ("object", .object), ("any", .object)]

def ofTrimmedName (name : String) : HostType :=
  match builtIn.lookup name with
  | some type => type
  | none =>
      match entityMark.toList.isPrefixOf? name.toList with
      | some row => .entity (String.ofList row)
      | none => .named name

def ofName (name : String) : HostType :=
  ofTrimmedName (Text.trim name)

end HostType

end QueryBinding
