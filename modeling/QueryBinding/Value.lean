import QueryBinding.Binary64.Shortest
import QueryBinding.HostType
import QueryBinding.Text.Quoted
import QueryBinding.Timestamp
import QueryBinding.Uuid

/-!
# Constants

The constants that host expressions carry, their natural types and their text.
-/

namespace QueryBinding

inductive Value where
  | null
  | bool (b : Bool)
  | int (n : Int64)
  | float (x : Binary64)
  | string (s : String)
  | uuid (u : Uuid)
  | timestamp (t : Timestamp)
  deriving DecidableEq, Repr, Inhabited

namespace Value

def hostType : Value → HostType
  | .null => .object
  | .bool _ => .bool
  | .int _ => .int64
  | .float _ => .float64
  | .string _ => .string
  | .uuid _ => .uuid
  | .timestamp _ => .dateTime

def asString? : Value → Option String
  | .string s => some s
  | _ => none

def render : Value → String
  | .null => "NULL"
  | .bool b => if b then "true" else "false"
  | .int n => toString n.toInt
  | .float x => x.render
  | .string s => Text.quote s
  | .uuid u => Text.quote u.render
  | .timestamp t => Text.quote (t.renderWith ' ')

def equal : Value → Value → Bool
  | .float x, .float y => x.equal y
  | v, w => v = w

end Value

end QueryBinding
