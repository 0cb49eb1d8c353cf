import QueryBinding.Expr.Build
import QueryBinding.Proofs.Columns
import QueryBinding.Proofs.Parts
import QueryBinding.Rewrite.Template

/-!
# Pending calls

The search for a call that no rule has rewritten goes through all nodes of an
expression: it ends at the first call among them, and it finds none only if there is
none at any depth.  Checked translation is translation followed by this search.
-/

namespace QueryBinding

open QueryBinding.Expr

namespace Expr

variable {e : Expr} {call : MethodCall}

def asCall? : Expr → Option MethodCall
  | .call receiver method args type => some ⟨receiver, method, args, type⟩
  | _ => none

theorem asCall?_eq_some_iff : e.asCall? = some call ↔ e = call.toExpr := by
  cases e with
  | call receiver method args type =>
      obtain ⟨receiver', method', args', type'⟩ := call
      simp [asCall?, MethodCall.toExpr]
  | _ => simp [asCall?, MethodCall.toExpr]

theorem asCall?_eq_none_iff : e.asCall? = none ↔ ∀ call : MethodCall, e ≠ call.toExpr := by
  simp only [Option.eq_none_iff_forall_ne_some, ne_eq, asCall?_eq_some_iff]

/-! ## The search -/

theorem pendingCall?_eq (e : Expr) :
    e.pendingCall? = e.asCall?.or (e.parts.findSome? pendingCall?) := by
  cases e with
  | member receiver name type => cases receiver <;> simp [pendingCall?, asCall?, parts]
  | function inst name schema args type =>
      have hparts : (inst.toList ++ args).findSome? pendingCall? =
          (inst.bind pendingCall?).or (args.findSome? pendingCall?) := by
        rw [List.findSome?_append]
        cases inst <;> simp
      simp [pendingCall?, asCall?, parts, hparts]
  | binary op left right type =>
      cases hleft : left.pendingCall? <;> simp [pendingCall?, asCall?, parts, hleft]
  | _ => simp [pendingCall?, asCall?, parts]

theorem findSome?_flatMap_nodes {es : List Expr}
    (h : ∀ d ∈ es, d.pendingCall? = d.nodes.findSome? asCall?) :
    (es.flatMap nodes).findSome? asCall? = es.findSome? pendingCall? := by
  induction es with
  | nil => rfl
  | cons d rest ih =>
      obtain ⟨hd, hrest⟩ := List.forall_mem_cons.mp h
      rw [List.flatMap_cons, List.findSome?_append, ih hrest, ← hd, List.findSome?_cons]
      cases d.pendingCall? <;> rfl

theorem pendingCall?_eq_findSome?_nodes (e : Expr) :
    e.pendingCall? = e.nodes.findSome? asCall? := by
  induction e using induction_parts with
  | node e ih =>
      rw [pendingCall?_eq, nodes_eq, List.findSome?_cons, findSome?_flatMap_nodes ih]
      cases e.asCall? <;> rfl

/-- Among the nodes, each before its parts and these from left to right, it is the first call. -/
def FirstCall (e : Expr) (call : MethodCall) : Prop :=
  ∃ before after, e.nodes = before ++ call.toExpr :: after ∧
    ∀ d ∈ before, ∀ other : MethodCall, d ≠ other.toExpr

theorem pendingCall?_eq_some_iff : e.pendingCall? = some call ↔ e.FirstCall call := by
  rw [pendingCall?_eq_findSome?_nodes, List.findSome?_eq_some_iff]
  simp only [asCall?_eq_some_iff, asCall?_eq_none_iff]
  constructor
  · rintro ⟨before, d, after, hnodes, rfl, hbefore⟩
    exact ⟨before, after, hnodes, hbefore⟩
  · rintro ⟨before, after, hnodes, hbefore⟩
    exact ⟨before, call.toExpr, after, hnodes, rfl, hbefore⟩

theorem pendingCall?_eq_none_iff :
    e.pendingCall? = none ↔ ∀ call : MethodCall, call.toExpr ∉ e.nodes := by
  rw [pendingCall?_eq_findSome?_nodes, List.findSome?_eq_none_iff]
  simp only [asCall?_eq_none_iff]
  constructor
  · intro h call hcall
    exact h call.toExpr hcall call rfl
  · rintro h d hd call rfl
    exact h call hd

end Expr

/-! ## Checked translation -/

namespace Translator

variable {t : Translator} {select : Select} {e : Expr} {s : Scalar} {condition : Bool}
  {fault : Fault}

theorem translateChecked_of_ok (h : t.translate select e condition = .ok s) :
    t.translateChecked select e condition =
      match s.toExpr.pendingCall? with
      | some first => .error (.unsupported (.pendingCall first.toExpr.render))
      | none => .ok s := by
  rw [translateChecked, h]
  rfl

theorem translateChecked_of_error (h : t.translate select e condition = .error fault) :
    t.translateChecked select e condition = .error fault := by
  rw [translateChecked, h]
  rfl

theorem translateChecked_eq_ok_iff :
    t.translateChecked select e condition = .ok s ↔
      t.translate select e condition = .ok s ∧
        ∀ call : MethodCall, call.toExpr ∉ s.toExpr.nodes := by
  cases htranslate : t.translate select e condition with
  | error other => simp [translateChecked_of_error htranslate]
  | ok found =>
      rw [translateChecked_of_ok htranslate, Except.ok.injEq]
      cases hpending : found.toExpr.pendingCall? with
      | none =>
          have hnone := pendingCall?_eq_none_iff.mp hpending
          simp only [Except.ok.injEq]
          constructor
          · rintro rfl
            exact ⟨rfl, hnone⟩
          · exact And.left
      | some call =>
          simp only [reduceCtorEq, false_iff]
          rintro ⟨rfl, hnone⟩
          rw [pendingCall?_eq_none_iff.mpr hnone] at hpending
          cases hpending

theorem translateChecked_eq_error_iff :
    t.translateChecked select e condition = .error fault ↔
      t.translate select e condition = .error fault ∨
      ∃ s call, t.translate select e condition = .ok s ∧ s.toExpr.FirstCall call ∧
        fault = .unsupported (.pendingCall call.toExpr.render) := by
  cases htranslate : t.translate select e condition with
  | error other => simp [translateChecked_of_error htranslate]
  | ok found =>
      rw [translateChecked_of_ok htranslate]
      simp only [Except.ok.injEq, reduceCtorEq, false_or, ← pendingCall?_eq_some_iff]
      cases hpending : found.toExpr.pendingCall? with
      | none =>
          simp only [reduceCtorEq, false_iff]
          rintro ⟨_, call, rfl, hcall, -⟩
          rw [hpending] at hcall
          cases hcall
      | some call =>
          simp only [Except.error.injEq]
          constructor
          · rintro rfl
            exact ⟨found, call, rfl, hpending, rfl⟩
          · rintro ⟨_, other, rfl, hother, rfl⟩
            rw [hpending] at hother
            cases hother
            rfl

/--
Checked translation gives what translation gives if there is no call at any depth, and
otherwise it names the first one.  The search for a call finds just that.
-/
theorem translateChecked_pending (t : Translator) (select : Select) (e : Expr)
    (condition : Bool) :
    (∀ s, t.translateChecked select e condition = .ok s ↔
      t.translate select e condition = .ok s ∧
        ∀ call : MethodCall, call.toExpr ∉ s.toExpr.nodes) ∧
    (∀ fault, t.translateChecked select e condition = .error fault ↔
      t.translate select e condition = .error fault ∨
      ∃ s call, t.translate select e condition = .ok s ∧ s.toExpr.FirstCall call ∧
        fault = .unsupported (.pendingCall call.toExpr.render)) ∧
    ∀ d : Expr,
      (∀ call, d.pendingCall? = some call ↔ d.FirstCall call) ∧
      (d.pendingCall? = none ↔ ∀ call : MethodCall, call.toExpr ∉ d.nodes) :=
  ⟨fun _ => translateChecked_eq_ok_iff, fun _ => translateChecked_eq_error_iff,
    fun _ => ⟨fun _ => pendingCall?_eq_some_iff, pendingCall?_eq_none_iff⟩⟩

example :
    let upper := CallRule.ofTemplate "upper" ⟨some "ToUpper", none, none, none⟩
      (.function "UPPER" none)
    let t := { Customers.translator with rules := RuleSet.relational.addCalls [upper] }
    let name := Expr.get Customers.query.row "Name" .string
    let trimmed := Expr.call (some name) ⟨"string", "Trim"⟩ [] .string
    t.translateChecked Customers.query.select
        (.call (some trimmed) ⟨"string", "ToUpper"⟩ [] .string) false =
      .error (.unsupported (.pendingCall "c.full_name.Trim()")) := by
  rfl

end Translator

end QueryBinding
