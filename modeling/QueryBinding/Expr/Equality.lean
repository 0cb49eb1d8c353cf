import QueryBinding.Expr

/-!
# Structural equality

Two expressions are equal when they are built alike from equal parts.  Constants
are compared as values, so the two floating-point zeros are equal and an
expression that holds a NaN does not even equal itself.
-/

namespace QueryBinding

namespace Expr

mutual

def equal : Expr → Expr → Bool
  | .constant v t, .constant v' t' => v.equal v' && t == t'
  | .parameter n t, .parameter n' t' => n == n' && t == t'
  | .member r n t, .member r' n' t' => equalOption r r' && n == n' && t == t'
  | .call r m as t, .call r' m' as' t' => equalOption r r' && m == m' && equalAll as as' && t == t'
  | .binary op l r t, .binary op' l' r' t' => op == op' && l.equal l' && r.equal r' && t == t'
  | .unary op e t, .unary op' e' t' => op == op' && e.equal e' && t == t'
  | .row entity buffer, .row entity' buffer' => entity == entity' && buffer.equal buffer'
  | .projected p t, .projected p' t' => p == p' && t == t'
  | .scalar e m c, .scalar e' m' c' => e.equal e' && m == m' && c == c'
  | .column c, .column c' => c == c'
  | .cast e t s, .cast e' t' s' => e.equal e' && t == t' && s == s'
  | .function i n s as t, .function i' n' s' as' t' =>
      equalOption i i' && n == n' && s == s' && equalAll as as' && t == t'
  | .fragment s t, .fragment s' t' => s == s' && t == t'
  | _, _ => false

def equalOption : Option Expr → Option Expr → Bool
  | some e, some e' => e.equal e'
  | none, none => true
  | _, _ => false

def equalAll : List Expr → List Expr → Bool
  | e :: rest, e' :: rest' => e.equal e' && equalAll rest rest'
  | [], [] => true
  | _, _ => false

end

end Expr

def Scalar.equal (s t : Scalar) : Bool :=
  s.inner.equal t.inner && s.mapping == t.mapping && s.isCondition == t.isCondition

end QueryBinding
