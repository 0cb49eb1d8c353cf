/-!
# Projection paths

A path names a position in a possibly nested projection shape.  The empty path
is the whole result.
-/

namespace QueryBinding

structure ProjectionPath where
  steps : List String
  deriving DecidableEq, Repr, Inhabited

namespace ProjectionPath

def root : ProjectionPath :=
  ⟨[]⟩

def isRoot (path : ProjectionPath) : Bool :=
  path.steps.isEmpty

def render (path : ProjectionPath) : String :=
  if path.isRoot then "<root>" else String.intercalate "." path.steps

/--
Paths are ordered step by step, each step by its characters, and a path comes
before its descendants.
-/
def compare (p q : ProjectionPath) : Ordering :=
  compareLex p.steps q.steps
where
  compareLex : List String → List String → Ordering
    | [], [] => .eq
    | [], _ :: _ => .lt
    | _ :: _, [] => .gt
    | a :: as, b :: bs => (Ord.compare a b).then (compareLex as bs)

def sort (paths : List ProjectionPath) : List ProjectionPath :=
  paths.mergeSort fun p q => compare p q != .gt

end ProjectionPath

end QueryBinding
