import QueryBinding.Expr.Build
import QueryBinding.Proofs.Binding
import QueryBinding.Proofs.Operands
import QueryBinding.Rewrite.Template

/-!
# Binding in contexts

Binding is compositional: a part of an expression may be bound before the expression
is, with the same outcome.  This rests on two facts.  What is around a part sees
nothing of it but what it is bound to, and a bound expression is bound to itself,
provided that the rules answer with bound expressions when they are given such.
-/

namespace QueryBinding

open QueryBinding.Expr

/-- An expression with one hole, at a place that binding descends to. -/
inductive Context where
  | hole
  | memberReceiver (context : Context) (name : String) (type : HostType)
  | callReceiver (context : Context) (method : MethodRef) (args : List Expr) (type : HostType)
  | callArgument (receiver : Option Expr) (method : MethodRef) (before : List Expr)
      (context : Context) (after : List Expr) (type : HostType)
  | binaryLeft (op : BinaryOp) (context : Context) (right : Expr) (type : HostType)
  | binaryRight (op : BinaryOp) (left : Expr) (context : Context) (type : HostType)
  | unaryOperand (op : UnaryOp) (context : Context) (type : HostType)
  deriving Repr

def Context.fill : Context → Expr → Expr
  | .hole, e => e
  | .memberReceiver context name type, e => .member (some (context.fill e)) name type
  | .callReceiver context method args type, e => .call (some (context.fill e)) method args type
  | .callArgument receiver method before context after type, e =>
      .call receiver method (before ++ context.fill e :: after) type
  | .binaryLeft op context right type, e => .binary op (context.fill e) right type
  | .binaryRight op left context type, e => .binary op left (context.fill e) type
  | .unaryOperand op context type, e => .unary op (context.fill e) type

namespace Translator

variable {t : Translator} {select : Select} {e e' : Expr}

theorem visit_fill_congr (h : t.visit select e = t.visit select e') (context : Context) :
    t.visit select (context.fill e) = t.visit select (context.fill e') := by
  induction context with
  | hole => exact h
  | memberReceiver context name type ih | callReceiver context method args type ih =>
      simp only [Context.fill, visit, visitOption, ih]
  | callArgument receiver method before context after type ih =>
      simp only [Context.fill, visit, visitAll_eq_mapM, List.mapM_append, List.mapM_cons, ih]
  | binaryLeft op context right type ih | binaryRight op left context type ih
  | unaryOperand op context type ih =>
      simp only [Context.fill, visit, ih]

/-! ## Rules that keep expressions bound -/

def IsBound (t : Translator) (select : Select) (e : Expr) : Prop :=
  t.visit select e = .ok e

def KeepsCallsBound (t : Translator) (select : Select) (rule : CallRule) : Prop :=
  ∀ call answer, (∀ r ∈ call.receiver, t.IsBound select r) → (∀ a ∈ call.args, t.IsBound select a) →
    rule.rewrite? call = some answer → t.IsBound select answer

def KeepsMembersBound (t : Translator) (select : Select) (rule : MemberRule) : Prop :=
  ∀ access answer, (∀ r ∈ access.receiver, t.IsBound select r) →
    rule.rewrite? access = some answer → t.IsBound select answer

/-- All rules of the translator answer bound parts with bound expressions. -/
structure KeepsBound (t : Translator) (select : Select) : Prop where
  calls : ∀ rule ∈ t.rules.calls, t.KeepsCallsBound select rule
  members : ∀ rule ∈ t.rules.members, t.KeepsMembersBound select rule

theorem isBound_of_isSettled (h : e.isSettled) : t.IsBound select e :=
  visit_of_isSettled h

theorem keepsCallsBound_equality (t : Translator) (select : Select) :
    t.KeepsCallsBound select .equality := by
  intro call answer _ _ h
  obtain ⟨left, right, -, -, rfl⟩ := Equality.rewrite?_eq_some_iff.mp h
  exact isBound_of_isSettled rfl

theorem isBound_fill {template : Template} {receiver : Option Expr} {args : List Expr}
    {type : HostType} {answer : Expr} (hreceiver : ∀ r ∈ receiver, t.IsBound select r)
    (hargs : ∀ a ∈ args, t.IsBound select a)
    (h : template.fill? receiver args type = some answer) : t.IsBound select answer := by
  cases template with
  | fragment | function | mappedFunction | conditionFunction =>
      cases h
      exact isBound_of_isSettled rfl
  | receiverFunction name =>
      obtain ⟨r, -, rfl⟩ := Option.map_eq_some_iff.mp h
      exact isBound_of_isSettled rfl
  | argument index => exact hargs answer (List.mem_of_getElem? h)
  | receiver => exact hreceiver answer h
  | decline => cases h

theorem keepsCallsBound_ofTemplate (t : Translator) (select : Select) (id : String)
    (pattern : CallPattern) (template : Template) :
    t.KeepsCallsBound select (.ofTemplate id pattern template) := by
  intro call answer hreceiver hargs h
  obtain ⟨-, h⟩ := Option.ite_none_right_eq_some.mp h
  exact isBound_fill hreceiver hargs h

theorem keepsMembersBound_ofTemplate (t : Translator) (select : Select) (id : String)
    (pattern : MemberPattern) (template : Template) :
    t.KeepsMembersBound select (.ofTemplate id pattern template) := by
  intro access answer hreceiver h
  obtain ⟨-, h⟩ := Option.ite_none_right_eq_some.mp h
  exact isBound_fill hreceiver (by simp) h

theorem keepsBound_relational (hrules : t.rules = .relational) : t.KeepsBound select where
  calls := by
    rw [hrules]
    intro rule hrule
    obtain rfl := List.mem_singleton.mp hrule
    exact keepsCallsBound_equality t select
  members := by
    rw [hrules]
    intro rule hrule
    cases hrule

/-! ## Bound expressions -/

theorem visitOption_of_isBound {receiver : Option Expr}
    (h : ∀ r ∈ receiver, t.IsBound select r) : t.visitOption select receiver = .ok receiver := by
  cases receiver with
  | none => rfl
  | some r => exact visitOption_eq_ok_iff.mpr (.some (h r rfl))

theorem visitAll_of_isBound {args : List Expr} (h : ∀ a ∈ args, t.IsBound select a) :
    t.visitAll select args = .ok args :=
  visitAll_eq_ok_iff.mpr (List.forall₂_same.mpr h)

theorem isBound_of_bindName {entity : EntityType} {buffer : Expr} {name : String}
    (h : bindName select entity buffer name = .ok e) : t.IsBound select e := by
  obtain ⟨_, _, _, column, -, -, -, -, rfl⟩ := bindName_eq_ok_iff.mp h
  exact isBound_of_isSettled rfl

theorem isBound_of_resolveMember (hrules : t.KeepsBound select) {access : MemberAccess}
    (hreceiver : ∀ r ∈ access.receiver, t.IsBound select r)
    (h : t.resolveMember select access = .ok e) : t.IsBound select e := by
  have hresolved := h
  unfold resolveMember at h
  split at h
  · exact isBound_of_bindName h
  · cases hrewrite : t.rules.rewriteMember? access with
    | some answer =>
        rw [hrewrite] at h
        cases h
        obtain ⟨rule, hrule, hanswer⟩ := List.exists_of_findSome?_eq_some hrewrite
        exact hrules.members rule hrule access answer hreceiver hanswer
    | none =>
        rw [hrewrite] at h
        cases h
        exact visit_member_eq_ok_iff.mpr ⟨_, visitOption_of_isBound hreceiver, hresolved⟩

theorem isBound_of_resolveCall (hrules : t.KeepsBound select) {call : MethodCall}
    (hreceiver : ∀ r ∈ call.receiver, t.IsBound select r)
    (hargs : ∀ a ∈ call.args, t.IsBound select a)
    (h : t.resolveCall select call = .ok e) : t.IsBound select e := by
  have hresolved := h
  unfold resolveCall at h
  split at h
  · obtain ⟨name, -, h⟩ := bind_eq_ok_iff.mp h
    exact isBound_of_bindName h
  · cases hrewrite : t.rules.rewriteCall? call with
    | some answer =>
        rw [hrewrite] at h
        cases h
        obtain ⟨rule, hrule, hanswer⟩ := List.exists_of_findSome?_eq_some hrewrite
        exact hrules.calls rule hrule call answer hreceiver hargs hanswer
    | none =>
        rw [hrewrite] at h
        cases h
        exact visit_call_eq_ok_iff.mpr
          ⟨_, visitOption_of_isBound hreceiver, _, visitAll_of_isBound hargs, hresolved⟩

theorem isBound_of_resolveUnary {op : UnaryOp} {operand : Expr} {type : HostType}
    (hoperand : t.IsBound select operand) (h : t.resolveUnary op operand type = .ok e) :
    t.IsBound select e := by
  rcases resolveUnary_eq_ok h with ⟨-, -, -, mapping, -, rfl⟩ | ⟨-, rfl⟩
  · exact isBound_of_isSettled rfl
  · exact visit_unary_eq_ok_iff.mpr ⟨operand, hoperand, h⟩

theorem isBound_adopt (h : t.IsBound select e) (mapping : TypeMapping) :
    t.IsBound select (e.adopt mapping) := by
  unfold adopt
  split
  · exact isBound_of_isSettled rfl
  · exact isBound_of_isSettled rfl
  · exact isBound_of_isSettled rfl
  · exact h

theorem isBound_reconcile {op : BinaryOp} {left right : Expr} {type : HostType}
    (hleft : t.IsBound select left) (hright : t.IsBound select right) :
    t.IsBound select (Expr.binary op left right type).reconcile := by
  have hoperands : t.IsBound select (reconcileOperands left right).1 ∧
      t.IsBound select (reconcileOperands left right).2 := by
    rcases reconcileOperands_cases left right with
      ⟨mapping, -, -, heq⟩ | ⟨mapping, -, -, heq⟩ | ⟨-, heq⟩
    · rw [heq]
      exact ⟨hleft, isBound_adopt hright mapping⟩
    · rw [heq]
      exact ⟨isBound_adopt hleft mapping, hright⟩
    · rw [heq]
      exact ⟨hleft, hright⟩
  exact visit_binary_eq_ok_iff.mpr
    ⟨_, hoperands.1, _, hoperands.2, reconcile_reconcile (.binary op left right type)⟩

theorem isBound_of_visit (hrules : t.KeepsBound select) (h : t.visit select e = .ok e') :
    t.IsBound select e' := by
  induction e generalizing e' with
  | member receiver name type ih =>
      obtain ⟨receiver', hreceiver, h⟩ := visit_member_eq_ok_iff.mp h
      rw [visitOption_eq_ok_iff] at hreceiver
      exact isBound_of_resolveMember hrules
        (forall_mem_of_rel hreceiver fun d hd _ hbound => ih d hd hbound) h
  | call receiver method args type ihReceiver ihArgs =>
      obtain ⟨receiver', hreceiver, args', hargs, h⟩ := visit_call_eq_ok_iff.mp h
      rw [visitOption_eq_ok_iff] at hreceiver
      rw [visitAll_eq_ok_iff] at hargs
      exact isBound_of_resolveCall hrules
        (forall_mem_of_rel hreceiver fun d hd _ hbound => ihReceiver d hd hbound)
        (forall_mem_of_forall₂ hargs fun d hd _ hbound => ihArgs d hd hbound) h
  | binary op left right type ihLeft ihRight =>
      obtain ⟨left', hleft, right', hright, rfl⟩ := visit_binary_eq_ok_iff.mp h
      exact isBound_reconcile (ihLeft hleft) (ihRight hright)
  | unary op operand type ih =>
      obtain ⟨operand', hoperand, h⟩ := visit_unary_eq_ok_iff.mp h
      exact isBound_of_resolveUnary (ih hoperand) h
  | _ =>
      rw [visit_of_isSettled rfl] at h
      cases h
      exact isBound_of_isSettled rfl

/--
Under the relational rules, and under any others that keep expressions bound, binding
an expression a second time changes nothing, and a part of an expression can be bound
first with the same outcome for the whole.
-/
theorem visit_fill_eq (t : Translator) (select : Select) :
    (t.rules = .relational → t.KeepsBound select) ∧
    (t.KeepsBound select → ∀ e e', t.visit select e = .ok e' →
      t.visit select e' = .ok e' ∧
      ∀ context : Context, t.visit select (context.fill e) = t.visit select (context.fill e')) := by
  refine ⟨keepsBound_relational, ?_⟩
  intro hrules e e' h
  have hbound : t.visit select e' = .ok e' := isBound_of_visit hrules h
  exact ⟨hbound, visit_fill_congr (h.trans hbound.symm)⟩

theorem visit_fill_eq_length :
    let upper := CallRule.ofTemplate "upper" ⟨some "ToUpper", none, some 0, some true⟩
      (.function "UPPER" none)
    let length := MemberRule.ofTemplate "length" ⟨some "Length", some "string"⟩
      (.function "LENGTH" none)
    let t : Translator :=
      { Customers.translator with
        rules := (RuleSet.relational.addCalls [upper]).addMembers [length] }
    let name := Expr.get Customers.query.row "Name" .string
    let e := Expr.get (.call (some name) ⟨"string", "ToUpper"⟩ [] .string) "Length" .int32
    let column := Expr.scalar (.column ⟨"full_name", "c", .string, false⟩)
      (some ⟨"text", .string⟩) false
    let e' := Expr.function none "LENGTH" none
      [.function none "UPPER" none [column] .string] .int32
    let context := Context.binaryRight .lessThan (literal (.int 3)) .hole .bool
    t.KeepsBound Customers.query.select ∧
      t.visit Customers.query.select e = .ok e' ∧ t.visit Customers.query.select e' = .ok e' ∧
      t.visit Customers.query.select (context.fill e) =
        t.visit Customers.query.select (context.fill e') := by
  intro upper length t name e column e' context
  have hrules : t.KeepsBound Customers.query.select := by
    constructor
    · intro rule hrule
      rcases List.mem_cons.mp hrule with rfl | hrule
      · exact keepsCallsBound_ofTemplate t _ _ _ _
      · obtain rfl := List.mem_singleton.mp hrule
        exact keepsCallsBound_equality t _
    · intro rule hrule
      obtain rfl := List.mem_singleton.mp hrule
      exact keepsMembersBound_ofTemplate t _ _ _ _
  have h : t.visit Customers.query.select e = .ok e' := rfl
  obtain ⟨hbound, hfill⟩ := (visit_fill_eq t Customers.query.select).2 hrules e e' h
  exact ⟨hrules, h, hbound, hfill context⟩

end Translator

end QueryBinding
