import QueryBinding.Document

/-!
# TOML tables

A configuration text defines its tables piece by piece, through headers and dotted
keys.  A table under construction remembers how it came about, because a table may
be defined by a header once and be extended by dotted keys only where dotted keys
made it.
-/

namespace QueryBinding.Toml

inductive Origin where
  | header
  | implied
  | dotted
  deriving DecidableEq, Repr

/-- What stands at a key of a table under construction. -/
inductive Node where
  | value (d : Document)
  | table (origin : Origin) (entries : List (String × Node))
  | tables (last : List (String × Node)) (earlier : List (List (String × Node)))

abbrev Entries := List (String × Node)

/-! ## Entries -/

def Entries.find? (entries : Entries) (key : String) : Option Node :=
  entries.lookup key

def Entries.put (entries : Entries) (key : String) (node : Node) : Entries :=
  match entries with
  | [] => [(key, node)]
  | (k, n) :: rest => if k = key then (k, node) :: rest else (k, n) :: Entries.put rest key node

/-! ## Dotted keys -/

/--
Put a value at the end of a dotted key.  Tables on the way are made where they are
missing; a table with a header of its own cannot be entered, and the value can go
only into a table that dotted keys made, or, without any step, into the current
table itself.
-/
def Entries.assign (path : List String) (key : String) (d : Document) (entries : Entries) :
    Option Entries :=
  match path with
  | [] =>
      if (entries.find? key).isSome then none else some (entries.put key (.value d))
  | step :: path =>
      match entries.find? step with
      | none => enter .dotted step path []
      | some (.value _) => none
      | some (.table .header _) => none
      | some (.table origin inner) => enter origin step path inner
      | some (.tables last earlier) =>
          if path.isEmpty then none
          else do
            let last ← Entries.assign path key d last
            return entries.put step (.tables last earlier)
where
  enter (origin : Origin) (step : String) (path : List String) (inner : Entries) :
      Option Entries :=
    if path.isEmpty && origin != .dotted then none
    else do
      let inner ← Entries.assign path key d inner
      return entries.put step (.table origin inner)

/-! ## Headers -/

structure Assignment where
  path : List String
  key : String
  value : Document

def Entries.assignAll (assignments : List Assignment) (entries : Entries) : Option Entries :=
  assignments.foldlM (fun entries a => entries.assign a.path a.key a.value) entries

structure Header where
  path : List String
  key : String
  isElement : Bool
  deriving DecidableEq, Repr

structure Section where
  header : Header
  assignments : List Assignment

def Entries.changeAt (path : List String) (change : Entries → Option Entries)
    (entries : Entries) : Option Entries :=
  match path with
  | [] => change entries
  | step :: path =>
      match entries.find? step with
      | none => do
          return entries.put step (.table .implied (← Entries.changeAt path change []))
      | some (.value _) => none
      | some (.table origin inner) => do
          return entries.put step (.table origin (← Entries.changeAt path change inner))
      | some (.tables last earlier) => do
          return entries.put step (.tables (← Entries.changeAt path change last) earlier)

/--
Define a table by its header, or add a table to an array.  A table can be defined
where none is or where it was only implied.
-/
def Entries.define (entries : Entries) (part : Section) : Option Entries :=
  entries.changeAt part.header.path fun parent => do
    let key := part.header.key
    let fill := Entries.assignAll part.assignments
    let node ← match part.header.isElement, parent.find? key with
      | true, none => (fill []).map fun last => Node.tables last []
      | true, some (.tables last earlier) =>
          (fill []).map fun next => Node.tables next (last :: earlier)
      | false, none => (fill []).map (Node.table .header)
      | false, some (.table .implied inner) => (fill inner).map (Node.table .header)
      | _, _ => none
    return parent.put key node

/-! ## Finished tables -/

mutual

def Node.toDocument : Node → Document
  | .value d => d
  | .table _ entries => .record (entriesToFields entries)
  | .tables last earlier =>
      .list ((.record (entriesToFields last) :: tablesToRecords earlier).reverse)

def entriesToFields : List (String × Node) → List (String × Document)
  | [] => []
  | entry :: rest => entryToField entry :: entriesToFields rest

def entryToField : String × Node → String × Document
  | (key, node) => (key, node.toDocument)

def tablesToRecords : List (List (String × Node)) → List Document
  | [] => []
  | entries :: rest => .record (entriesToFields entries) :: tablesToRecords rest

end

def assemble? (assignments : List Assignment) (sections : List Section) : Option Document := do
  let entries ← Entries.assignAll assignments []
  let entries ← sections.foldlM Entries.define entries
  return .record (entriesToFields entries)

def inlineTable? (assignments : List Assignment) : Option Document :=
  assemble? assignments []

end QueryBinding.Toml
