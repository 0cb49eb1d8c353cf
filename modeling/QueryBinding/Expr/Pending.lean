import QueryBinding.Expr

/-!
# Pending calls

A method call that is left in a bound expression has no rewriting yet.
-/

namespace QueryBinding.Expr

mutual

/--
The first method call of an expression that binding left as it is, a node coming
before its parts and the parts from left to right.  The buffer of a row is not
looked at.
-/
def pendingCall? : Expr → Option MethodCall
  | .call receiver method args type => some ⟨receiver, method, args, type⟩
  | .member receiver _ _ => pendingCallOption? receiver
  | .binary _ left right _ => left.pendingCall?.or right.pendingCall?
  | .unary _ operand _ => operand.pendingCall?
  | .scalar inner _ _ => inner.pendingCall?
  | .cast operand _ _ => operand.pendingCall?
  | .function inst _ _ args _ => (pendingCallOption? inst).or (pendingCallAll? args)
  | .constant .. | .parameter .. | .row .. | .projected .. | .column .. | .fragment .. => none

def pendingCallOption? : Option Expr → Option MethodCall
  | some e => e.pendingCall?
  | none => none

def pendingCallAll? : List Expr → Option MethodCall
  | [] => none
  | e :: rest => e.pendingCall?.or (pendingCallAll? rest)

end

@[simp] theorem pendingCallOption?_eq_bind (e : Option Expr) :
    pendingCallOption? e = e.bind pendingCall? := by
  cases e <;> rfl

@[simp] theorem pendingCallAll?_eq_findSome? (es : List Expr) :
    pendingCallAll? es = es.findSome? pendingCall? := by
  induction es with
  | nil => rfl
  | cons e rest ih => cases h : e.pendingCall? <;> simp [pendingCallAll?, h, ih]

end QueryBinding.Expr
