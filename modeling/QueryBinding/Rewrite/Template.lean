import QueryBinding.Rewrite.Rule

/-!
# Rules written as data

A template rule has conditions that a call or member has to meet and a template
for the node that takes its place.
-/

namespace QueryBinding

inductive Template where
  | fragment (sql : String) (type : HostType)
  | function (name : String) (schema : Option String)
  | receiverFunction (name : String)
  | mappedFunction (name : String) (mapping : TypeMapping)
  | conditionFunction (name : String)
  | argument (index : Nat)
  | receiver
  | decline
  deriving DecidableEq, Repr

namespace Template

/-- Fill a template in; a part that the node does not have makes it decline. -/
def fill? (template : Template) (receiver : Option Expr) (args : List Expr) (type : HostType) :
    Option Expr :=
  match template with
  | .fragment sql type => some (.fragment sql type)
  | .function name schema => some (.function none name schema (receiver.toList ++ args) type)
  | .receiverFunction name => receiver.map fun r => .function (some r) name none args type
  | .mappedFunction name mapping =>
      some (Scalar.value (.function none name none (receiver.toList ++ args) type) mapping).toExpr
  | .conditionFunction name =>
      some (Scalar.condition (.function none name none (receiver.toList ++ args) .bool)).toExpr
  | .argument index => args[index]?
  | .receiver => receiver
  | .decline => none

end Template

def isMet {α : Type} [DecidableEq α] (condition : Option α) (actual : α) : Bool :=
  condition.all (· == actual)

/-- The conditions of a template rule for calls, those that are missing being met. -/
structure CallPattern where
  name : Option String
  declaringType : Option String
  argCount : Option Nat
  onInstance : Option Bool
  deriving DecidableEq, Repr

def CallPattern.accepts (pattern : CallPattern) (call : MethodCall) : Bool :=
  isMet pattern.name call.method.name && isMet pattern.declaringType call.method.declaringType &&
    isMet pattern.argCount call.args.length && isMet pattern.onInstance call.receiver.isSome

structure MemberPattern where
  name : Option String
  receiverType : Option String
  deriving DecidableEq, Repr

def MemberPattern.accepts (pattern : MemberPattern) (access : MemberAccess) : Bool :=
  isMet pattern.name access.name &&
    isMet pattern.receiverType ((access.receiver.map fun r => r.type.name).getD "")

def CallRule.ofTemplate (id : String) (pattern : CallPattern) (template : Template) : CallRule :=
  ⟨id, fun call =>
    if pattern.accepts call then template.fill? call.receiver call.args call.type else none⟩

def MemberRule.ofTemplate (id : String) (pattern : MemberPattern) (template : Template) :
    MemberRule :=
  ⟨id, fun access =>
    if pattern.accepts access then template.fill? access.receiver [] access.type else none⟩

end QueryBinding
