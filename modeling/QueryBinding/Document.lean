import QueryBinding.Binary64

/-!
# Documents

The trees that configuration and expression documents are read into and written
from, whatever their notation.  A well-formed token that denotes no value of the
tree, such as a number out of range, is kept as `unreadable`: it can be passed over
but not used.
-/

namespace QueryBinding

inductive Document where
  | null
  | bool (b : Bool)
  | integer (n : Int)
  | real (x : Binary64)
  | text (s : String)
  | list (items : List Document)
  /-- Fields in written order; a field may be written more than once. -/
  | record (fields : List (String × Document))
  | unreadable
  deriving Repr, Inhabited

namespace Document

/-! ## Plain values -/

def asText? : Document → Option String
  | .text s => some s
  | _ => none

def asBool? : Document → Option Bool
  | .bool b => some b
  | _ => none

def asInt64? : Document → Option Int64
  | .integer n =>
      if Int64.minValue.toInt ≤ n ∧ n ≤ Int64.maxValue.toInt then some (.ofInt n) else none
  | _ => none

def asReal? : Document → Option Binary64
  | .integer n => some (.ofFloat (.ofInt n))
  | .real x => some x
  | _ => none

/-! ## Limits -/

/--
How a document is read: how many brackets may still be opened, and whether a list
that stands for a record may be longer than the record.
-/
structure Limits where
  depth : Nat
  allowExcess : Bool
  deriving DecidableEq, Repr

def Limits.opened? (limits : Limits) : Option Limits :=
  match limits.depth with
  | 0 => none
  | depth + 1 => some { limits with depth }

/-! ## Lists and records -/

def readList {α : Type} (read : Limits → Document → Option α) (limits : Limits) :
    Document → Option (List α)
  | .list items => do items.mapM (read (← limits.opened?))
  | _ => none

inductive Presence where
  | required
  | optional
  | defaulted
  deriving DecidableEq, Repr

/-- The one value that is written for a field. -/
def field? (fields : List (String × Document)) (name : String) (presence : Presence) :
    Option (Option Document) :=
  match fields.filter fun field => field.1 == name with
  | [] => if presence = .required then none else some none
  | [field] => some (some field.2)
  | _ => none

def positional? (allowExcess : Bool) : List (String × Presence) → List Document →
    Option (List (Option Document))
  | [], items => if items.isEmpty || allowExcess then some [] else none
  | (_, presence) :: specs, [] =>
      if presence = .defaulted then (positional? allowExcess specs []).map (none :: ·) else none
  | _ :: specs, item :: items => (positional? allowExcess specs items).map (some item :: ·)

/--
The values of the fields of a record, in the order of the field list, together
with the limits behind its bracket.  Fields that are not in the list are passed
over.
-/
def fields? (limits : Limits) (specs : List (String × Presence)) (d : Document) :
    Option (Limits × List (Option Document)) := do
  let limits ← limits.opened?
  match d with
  | .record fields =>
      return (limits, ← specs.mapM fun (name, presence) => field? fields name presence)
  | .list items => return (limits, ← positional? limits.allowExcess specs items)
  | _ => none

def nullable {α : Type} (read : Document → Option α) : Option Document → Option (Option α)
  | none | some .null => some none
  | some d => (read d).map some

def orDefault {α : Type} (value : α) (read : Document → Option α) : Option Document → Option α
  | none => some value
  | some d => read d

/-! ## Tagged values -/

/--
The tag of an alternative and what it holds.  An alternative that holds nothing
may be written as its tag alone or with a null.
-/
def tagged? (limits : Limits) : Document → Option (Limits × String × Option Document)
  | .text tag => some (limits, tag, none)
  | .record [(tag, content)] => do return (← limits.opened?, tag, some content)
  | _ => none

def isBare (content : Option Document) : Bool :=
  match content with
  | none | some .null => true
  | _ => false

end Document

end QueryBinding
