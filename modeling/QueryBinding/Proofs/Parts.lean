import QueryBinding.Expr.Induction

/-!
# Parts of expressions

The parts of an expression are the expressions right below its root: receivers,
instances, arguments and operands, and what a scalar or a cast holds.  The buffer
of a row belongs to the row and is no part of it.  The nodes of an expression are
the expression itself and the nodes of its parts.
-/

namespace QueryBinding.Expr

variable {P : Expr → Prop} {c d e : Expr}

def parts : Expr → List Expr
  | .member receiver _ _ => receiver.toList
  | .call receiver _ args _ => receiver.toList ++ args
  | .binary _ left right _ => [left, right]
  | .unary _ operand _ => [operand]
  | .scalar inner _ _ => [inner]
  | .cast operand _ _ => [operand]
  | .function inst _ _ args _ => inst.toList ++ args
  | .constant .. | .parameter .. | .row .. | .projected .. | .column .. | .fragment .. => []

theorem induction_parts {motive : Expr → Prop}
    (node : ∀ e, (∀ d ∈ e.parts, motive d) → motive e) (e : Expr) : motive e := by
  induction e with
  | member receiver name type ih => exact node _ (by simpa [parts] using ih)
  | call receiver method args type ihReceiver ihArgs =>
      refine node _ fun d hd => ?_
      rcases List.mem_append.mp hd with h | h
      · exact ihReceiver d (by simpa using h)
      · exact ihArgs d h
  | function inst name schema args type ihInst ihArgs =>
      refine node _ fun d hd => ?_
      rcases List.mem_append.mp hd with h | h
      · exact ihInst d (by simpa using h)
      · exact ihArgs d h
  | binary op left right type ihLeft ihRight => exact node _ (by simp [parts, ihLeft, ihRight])
  | unary op operand type ih => exact node _ (by simp [parts, ih])
  | scalar inner mapping isCondition ih => exact node _ (by simp [parts, ih])
  | cast operand type storeType ih => exact node _ (by simp [parts, ih])
  | constant | parameter | row | projected | column | fragment => exact node _ (by simp [parts])

/-! ## Nodes at every depth -/

mutual

/-- All nodes of an expression, each before its parts and these from left to right. -/
def nodes : Expr → List Expr
  | .member receiver name type => .member receiver name type :: nodesOption receiver
  | .call receiver method args type =>
      .call receiver method args type :: (nodesOption receiver ++ nodesAll args)
  | .binary op left right type => .binary op left right type :: (left.nodes ++ right.nodes)
  | .unary op operand type => .unary op operand type :: operand.nodes
  | .scalar inner mapping isCondition => .scalar inner mapping isCondition :: inner.nodes
  | .cast operand type storeType => .cast operand type storeType :: operand.nodes
  | .function inst name schema args type =>
      .function inst name schema args type :: (nodesOption inst ++ nodesAll args)
  | e => [e]

def nodesOption : Option Expr → List Expr
  | some e => e.nodes
  | none => []

def nodesAll : List Expr → List Expr
  | [] => []
  | e :: rest => e.nodes ++ nodesAll rest

end

@[simp] theorem nodesOption_eq_flatMap (e : Option Expr) :
    nodesOption e = e.toList.flatMap nodes := by
  cases e <;> simp [nodesOption]

@[simp] theorem nodesAll_eq_flatMap (es : List Expr) : nodesAll es = es.flatMap nodes := by
  induction es with
  | nil => rfl
  | cons e rest ih => rw [nodesAll, ih, List.flatMap_cons]

theorem nodes_eq (e : Expr) : e.nodes = e :: e.parts.flatMap nodes := by
  cases e <;> simp [nodes, parts]

theorem mem_nodes_iff : d ∈ e.nodes ↔ d = e ∨ ∃ c ∈ e.parts, d ∈ c.nodes := by
  rw [nodes_eq, List.mem_cons, List.mem_flatMap]

def Everywhere (P : Expr → Prop) (e : Expr) : Prop :=
  ∀ d ∈ e.nodes, P d

def Somewhere (P : Expr → Prop) (e : Expr) : Prop :=
  ∃ d ∈ e.nodes, P d

theorem Everywhere.root (h : e.Everywhere P) : P e :=
  h e (mem_nodes_iff.mpr (.inl rfl))

theorem Everywhere.of_mem_parts (h : e.Everywhere P) (hc : c ∈ e.parts) : c.Everywhere P :=
  fun d hd => h d (mem_nodes_iff.mpr (.inr ⟨c, hc, hd⟩))

theorem Everywhere.of_mem_nodes (h : e.Everywhere P) (hd : d ∈ e.nodes) : d.Everywhere P := by
  induction e using induction_parts with
  | node e ih =>
      rcases mem_nodes_iff.mp hd with rfl | ⟨c, hc, hd⟩
      · exact h
      · exact ih c hc (h.of_mem_parts hc) hd

theorem everywhere_iff : e.Everywhere P ↔ P e ∧ ∀ c ∈ e.parts, c.Everywhere P := by
  constructor
  · intro h
    exact ⟨h.root, fun c hc => h.of_mem_parts hc⟩
  · rintro ⟨hroot, hparts⟩ d hd
    rcases mem_nodes_iff.mp hd with rfl | ⟨c, hc, hd⟩
    · exact hroot
    · exact hparts c hc d hd

theorem somewhere_iff : e.Somewhere P ↔ P e ∨ ∃ c ∈ e.parts, c.Somewhere P := by
  constructor
  · rintro ⟨d, hd, hp⟩
    rcases mem_nodes_iff.mp hd with rfl | ⟨c, hc, hd⟩
    · exact .inl hp
    · exact .inr ⟨c, hc, d, hd, hp⟩
  · rintro (hp | ⟨c, hc, d, hd, hp⟩)
    · exact ⟨e, mem_nodes_iff.mpr (.inl rfl), hp⟩
    · exact ⟨d, mem_nodes_iff.mpr (.inr ⟨c, hc, hd⟩), hp⟩

/-! ## Kinds of nodes -/

/-- Rows and positions stand for values that binding has yet to find. -/
def isPlaceholder : Expr → Bool
  | .row .. | .projected .. => true
  | _ => false

def isHost : Expr → Bool
  | .scalar .. | .column .. | .cast .. | .function .. | .fragment .. => false
  | _ => true

def isSettled : Expr → Bool
  | .member .. | .call .. | .binary .. | .unary .. => false
  | _ => true

theorem asRow?_eq_some_iff {entity : EntityType} {buffer : Expr} :
    e.asRow? = some (entity, buffer) ↔ e = .row entity buffer := by
  cases e <;> simp [asRow?]

theorem isScalar_of_isHost (h : e.isHost) : e.isScalar = false := by
  cases e with
  | scalar => cases h
  | _ => rfl

def OnlyRow (e row : Expr) : Prop :=
  e.Everywhere fun d => d.asRow?.isSome → d = row

end QueryBinding.Expr
