import QueryBinding.Expr

/-!
# The text of an expression

Expressions are written for error messages and for reading along; a scalar is
written like its inner expression.
-/

namespace QueryBinding

namespace Expr

mutual

def render : Expr → String
  | .constant value _ => value.render
  | .parameter name _ => "@" ++ name
  | .member receiver name _ => renderOwner receiver "" ++ name
  | .call receiver method args _ =>
      renderOwner receiver (method.declaringType ++ ".") ++ method.name ++ "(" ++
        String.intercalate ", " (renderAll args) ++ ")"
  | .binary op left right _ => "(" ++ left.render ++ " " ++ op.render ++ " " ++ right.render ++ ")"
  | .unary .convert operand type => "CONVERT(" ++ operand.render ++ ", " ++ type.name ++ ")"
  | .unary .not operand _ => "NOT " ++ operand.render
  | .unary .negate operand _ => "-" ++ operand.render
  | .row entity _ => "Entity<" ++ entity.name ++ ">"
  | .projected path _ => "Projection(" ++ path.render ++ ")"
  | .scalar inner _ _ => inner.render
  | .column c => c.tableAlias ++ "." ++ c.name
  | .cast operand _ storeType => "CAST(" ++ operand.render ++ " AS " ++ storeType ++ ")"
  | .function inst name schema args _ =>
      renderOwner inst ((schema.map (· ++ ".")).getD "") ++ name ++ "(" ++
        String.intercalate ", " (renderAll args) ++ ")"
  | .fragment sql _ => sql

def renderOwner : Option Expr → (static : String) → String
  | some receiver, _ => receiver.render ++ "."
  | none, static => static

def renderAll : List Expr → List String
  | [] => []
  | e :: rest => e.render :: renderAll rest

end

@[simp] theorem renderAll_eq_map (es : List Expr) : renderAll es = es.map render := by
  induction es with
  | nil => rfl
  | cons e rest ih => simp [renderAll, ih]

end Expr

def Scalar.render (s : Scalar) : String :=
  s.inner.render

end QueryBinding
