import QueryBinding.Proofs.Columns
import QueryBinding.Proofs.Parts

/-!
# Binding, node by node

`Resolves` lists everything that binding does to a node under the relational
rules, given what its parts were bound to.  `visit_induction` turns a property of
these steps into a property of whole bound expressions.
-/

namespace QueryBinding

open QueryBinding.Expr

/-! ## The relational rules -/

@[simp] theorem RuleSet.rewriteCall?_relational (call : MethodCall) :
    RuleSet.relational.rewriteCall? call = Equality.rewrite? call := by
  simp [relational, addCalls, empty, rewriteCall?, CallRule.equality]

@[simp] theorem RuleSet.rewriteMember?_relational (access : MemberAccess) :
    RuleSet.relational.rewriteMember? access = none :=
  rfl

theorem Equality.rewrite?_eq_some_iff {call : MethodCall} {e : Expr} :
    rewrite? call = some e ↔
      ∃ left right, operands? call = some (left, right) ∧ left.type = right.type ∧
        (condition left right).toExpr = e := by
  unfold rewrite?
  cases hoperands : operands? call with
  | none => simp
  | some operands =>
      obtain ⟨left, right⟩ := operands
      simp only [Option.ite_none_right_eq_some, Option.some.injEq, Prod.mk.injEq]
      constructor
      · rintro ⟨htype, rfl⟩
        exact ⟨left, right, ⟨rfl, rfl⟩, htype, rfl⟩
      · rintro ⟨_, _, ⟨rfl, rfl⟩, htype, rfl⟩
        exact ⟨htype, rfl⟩

theorem Equality.operands?_eq_some_iff {call : MethodCall} {left right : Expr} :
    operands? call = some (left, right) ↔ call.method.name = "Equals" ∧
      (call.receiver = some left ∧ call.args = [right] ∨
        call.receiver = none ∧ call.args = [left, right] ∧ left.type = right.type) := by
  unfold operands?
  by_cases hname : call.method.name = "Equals"
  · rw [if_pos hname]
    split
    · next receiver other hreceiver hargs => simp [hname, hreceiver, hargs]
    · next first second hreceiver hargs =>
        simp only [hname, hreceiver, hargs, Option.ite_none_right_eq_some, Option.some.injEq,
          Prod.mk.injEq, reduceCtorEq, false_and, true_and, false_or, List.cons.injEq, and_true]
        constructor
        · rintro ⟨htype, rfl, rfl⟩
          exact ⟨⟨rfl, rfl⟩, htype⟩
        · rintro ⟨⟨rfl, rfl⟩, htype⟩
          exact ⟨htype, rfl, rfl⟩
    · next hinstance hstatic =>
        simp only [hname, true_and, reduceCtorEq, false_iff]
        rintro (⟨hreceiver, hargs⟩ | ⟨hreceiver, hargs, -⟩)
        · exact hinstance _ _ hreceiver hargs
        · exact hstatic _ _ hreceiver hargs
  · simp [hname]

theorem Equality.rewrite?_of_operands {call : MethodCall} {left right : Expr}
    (hname : call.method.name = "Equals")
    (h : call.receiver = some left ∧ call.args = [right] ∨
      call.receiver = none ∧ call.args = [left, right]) :
    rewrite? call =
      if left.type = right.type then some (condition left right).toExpr else none := by
  rcases h with ⟨hreceiver, hargs⟩ | ⟨hreceiver, hargs⟩ <;>
    by_cases htype : left.type = right.type <;>
    simp [rewrite?, operands?, hname, hreceiver, hargs, htype]

/-! ## Property accesses -/

/--
`e.Accesses entity buffer name`: the expression reads property `name` of the row
that `entity` and `buffer` make up, as a member of the row or through the property
accessor, which may see the row converted to `object`.
-/
inductive Expr.Accesses : Expr → EntityType → Expr → String → Prop
  | member (entity : EntityType) (buffer : Expr) (name : String) (type : HostType) :
      Accesses (.member (some (.row entity buffer)) name type) entity buffer name
  | accessor (entity : EntityType) (buffer : Expr) (name : String) (receiver : Option Expr)
      (rest : List Expr) (nameType type : HostType) :
      Accesses (.call receiver .propertyAccessor
        (.row entity buffer :: .constant (.string name) nameType :: rest) type)
        entity buffer name
  | convertedAccessor (entity : EntityType) (buffer : Expr) (name : String)
      (receiver : Option Expr) (rest : List Expr) (nameType type : HostType) :
      Accesses (.call receiver .propertyAccessor
        (.unary .convert (.row entity buffer) .object ::
          .constant (.string name) nameType :: rest) type)
        entity buffer name

theorem Expr.Accesses.row_mem_nodes {e buffer : Expr} {entity : EntityType} {name : String}
    (h : e.Accesses entity buffer name) : .row entity buffer ∈ e.nodes := by
  cases h <;> simp [nodes]

theorem Expr.Accesses.method_eq {receiver : Option Expr} {method : MethodRef} {args : List Expr}
    {type : HostType} {entity : EntityType} {buffer : Expr} {name : String}
    (h : (Expr.call receiver method args type).Accesses entity buffer name) :
    method = .propertyAccessor := by
  cases h <;> rfl

theorem EntityQuery.column_of_accesses {entity other : EntityType} {source : MappingSource}
    {query : EntityQuery} {select : Select} {e buffer bound : Expr} {name : String}
    (hquery : ofEntity entity source = .ok query) (hselect : select.mapping = query.select.mapping)
    (hrow : e.OnlyRow query.row) (haccess : e.Accesses other buffer name)
    (hbound : Translator.bindName select other buffer name = .ok bound) :
    e.Accesses entity (.projected .root .object) name ∧
      ∃ property mapping, entity.findProperty? name = some property ∧
        property.typeMapping source = .ok mapping ∧
        bound = .scalar (.column (property.columnIn (Select.tableAlias entity.table)))
          (some mapping) false := by
  have hread := hrow _ haccess.row_mem_nodes rfl
  rw [(item?_ofEntity hquery).1] at hread
  cases hread
  exact ⟨haccess, column_of_bindName_row hquery hselect hbound⟩

def Expr.IsAccess (e : Expr) : Prop :=
  ∃ entity buffer name, e.Accesses entity buffer name

namespace Translator

variable {t : Translator} {select : Select} {e e' : Expr}

/-! ## Inverting a bound form -/

theorem visit_of_isSettled (h : e.isSettled) : t.visit select e = .ok e := by
  cases e with
  | member | call | binary | unary => simp [isSettled] at h
  | _ => simp [visit]

theorem visit_member_eq_ok_iff {receiver : Option Expr} {name : String} {type : HostType} :
    t.visit select (.member receiver name type) = .ok e' ↔
      ∃ receiver', t.visitOption select receiver = .ok receiver' ∧
        t.resolveMember select ⟨receiver', name, type⟩ = .ok e' := by
  rw [visit, bind_eq_ok_iff]

theorem visit_call_eq_ok_iff {receiver : Option Expr} {method : MethodRef} {args : List Expr}
    {type : HostType} :
    t.visit select (.call receiver method args type) = .ok e' ↔
      ∃ receiver', t.visitOption select receiver = .ok receiver' ∧
        ∃ args', t.visitAll select args = .ok args' ∧
          t.resolveCall select ⟨receiver', method, args', type⟩ = .ok e' := by
  simp only [visit, bind_eq_ok_iff]

theorem visit_binary_eq_ok_iff {op : BinaryOp} {left right : Expr} {type : HostType} :
    t.visit select (.binary op left right type) = .ok e' ↔
      ∃ left', t.visit select left = .ok left' ∧
        ∃ right', t.visit select right = .ok right' ∧
          (Expr.binary op left' right' type).reconcile = e' := by
  simp only [visit, bind_eq_ok_iff, pure_eq_ok_iff]

theorem visit_unary_eq_ok_iff {op : UnaryOp} {operand : Expr} {type : HostType} :
    t.visit select (.unary op operand type) = .ok e' ↔
      ∃ operand', t.visit select operand = .ok operand' ∧
        t.resolveUnary op operand' type = .ok e' := by
  rw [visit, bind_eq_ok_iff]

theorem visitOption_eq_ok_iff {receiver receiver' : Option Expr} :
    t.visitOption select receiver = .ok receiver' ↔
      Option.Rel (fun d d' => t.visit select d = .ok d') receiver receiver' := by
  cases receiver with
  | none =>
      cases receiver' <;> simp [visitOption]
  | some d =>
      rw [visitOption, bind_eq_ok_iff]
      cases receiver' <;> simp [pure_eq_ok_iff]

theorem visitAll_eq_ok_iff {args args' : List Expr} :
    t.visitAll select args = .ok args' ↔
      List.Forall₂ (fun d d' => t.visit select d = .ok d') args args' := by
  rw [visitAll_eq_mapM, mapM_eq_ok_iff]

theorem translate_eq_ok_iff {condition : Bool} {s : Scalar} :
    t.translate select e condition = .ok s ↔
      ∃ e', t.visit select e = .ok e' ∧
        ∃ unflagged, t.toScalar e' = .ok unflagged ∧ t.flag condition unflagged = s := by
  simp only [translate, bind_eq_ok_iff, pure_eq_ok_iff]

theorem visit_of_mem_parts {c : Expr} (he : e.isHost) (h : t.visit select e = .ok e')
    (hc : c ∈ e.parts) : ∃ c', t.visit select c = .ok c' := by
  cases e with
  | member receiver name type =>
      obtain ⟨receiver', hreceiver, -⟩ := visit_member_eq_ok_iff.mp h
      obtain rfl : receiver = some c := by simpa [parts] using hc
      obtain ⟨hd⟩ := visitOption_eq_ok_iff.mp hreceiver
      exact ⟨_, hd⟩
  | call receiver method args type =>
      obtain ⟨receiver', hreceiver, args', hargs, -⟩ := visit_call_eq_ok_iff.mp h
      rcases List.mem_append.mp hc with hc | hc
      · obtain rfl : receiver = some c := by simpa using hc
        obtain ⟨hd⟩ := visitOption_eq_ok_iff.mp hreceiver
        exact ⟨_, hd⟩
      · rw [visitAll_eq_mapM] at hargs
        exact ok_of_mem_mapM hargs hc
  | binary op left right type =>
      obtain ⟨left', hleft, right', hright, -⟩ := visit_binary_eq_ok_iff.mp h
      have hc : c = left ∨ c = right := by simpa [parts] using hc
      rcases hc with rfl | rfl
      · exact ⟨left', hleft⟩
      · exact ⟨right', hright⟩
  | unary op operand type =>
      obtain ⟨operand', hoperand, -⟩ := visit_unary_eq_ok_iff.mp h
      obtain rfl : c = operand := by simpa [parts] using hc
      exact ⟨operand', hoperand⟩
  | constant | parameter | row | projected => simp [parts] at hc
  | scalar | column | cast | function | fragment => cases he

theorem visit_of_mem_nodes {d : Expr} (he : e.Everywhere fun d => d.isHost)
    (h : t.visit select e = .ok e') (hd : d ∈ e.nodes) : ∃ d', t.visit select d = .ok d' := by
  induction e using induction_parts generalizing e' with
  | node e ih =>
      rcases mem_nodes_iff.mp hd with rfl | ⟨c, hc, hd⟩
      · exact ⟨e', h⟩
      · obtain ⟨c', hc'⟩ := visit_of_mem_parts he.root h hc
        exact ih c hc (he.of_mem_parts hc) hc' hd

/-! ## Single nodes -/

theorem asRow?_stripObjectConversion_eq_some_iff {arg : Expr} {entity : EntityType}
    {buffer : Expr} :
    (stripObjectConversion arg).asRow? = some (entity, buffer) ↔
      arg = .row entity buffer ∨ arg = .unary .convert (.row entity buffer) .object := by
  unfold stripObjectConversion
  split
  · simp [asRow?_eq_some_iff]
  · next hconvert =>
      rw [asRow?_eq_some_iff, or_iff_left_of_imp]
      intro h
      exact (hconvert _ h).elim

theorem accessedName_eq_ok_iff {arg : Option Expr} {name : String} :
    accessedName arg = .ok name ↔ ∃ type, arg = some (.constant (.string name) type) := by
  unfold accessedName
  split <;> simp_all

theorem accessedRow?_eq_some_iff {call : MethodCall} {entity : EntityType} {buffer : Expr} :
    accessedRow? call = some (entity, buffer) ↔ call.method = .propertyAccessor ∧
      ∃ first rest, call.args = first :: rest ∧
        (first = .row entity buffer ∨ first = .unary .convert (.row entity buffer) .object) := by
  simp only [accessedRow?, MethodRef.isPropertyAccessor, decide_eq_true_eq,
    Option.ite_none_right_eq_some, Option.bind_eq_some_iff,
    asRow?_stripObjectConversion_eq_some_iff, List.head?_eq_some_iff]
  constructor
  · rintro ⟨hmethod, first, ⟨rest, hargs⟩, hfirst⟩
    exact ⟨hmethod, first, rest, hargs, hfirst⟩
  · rintro ⟨hmethod, first, rest, hargs, hfirst⟩
    exact ⟨hmethod, first, ⟨rest, hargs⟩, hfirst⟩

theorem accesses_toExpr_iff {call : MethodCall} {entity : EntityType} {buffer : Expr}
    {name : String} :
    call.toExpr.Accesses entity buffer name ↔
      accessedRow? call = some (entity, buffer) ∧ accessedName call.args[1]? = .ok name := by
  obtain ⟨receiver, method, args, type⟩ := call
  rw [accessedName_eq_ok_iff, accessedRow?_eq_some_iff]
  constructor
  · intro h
    cases h with
    | accessor => exact ⟨⟨rfl, _, _, rfl, .inl rfl⟩, _, rfl⟩
    | convertedAccessor => exact ⟨⟨rfl, _, _, rfl, .inr rfl⟩, _, rfl⟩
  · rintro ⟨⟨rfl, first, rest, rfl, hfirst⟩, nameType, hname⟩
    cases rest with
    | nil => simp at hname
    | cons nameArg rest =>
        simp only [List.getElem?_cons_succ, List.getElem?_cons_zero, Option.some.injEq] at hname
        subst hname
        rcases hfirst with rfl | rfl
        · exact .accessor ..
        · exact .convertedAccessor ..

theorem resolveMember_eq_ok (hrules : t.rules = .relational) {access : MemberAccess}
    (h : t.resolveMember select access = .ok e') :
    (∃ entity buffer name, access.toExpr.Accesses entity buffer name ∧
      bindName select entity buffer name = .ok e') ∨
    ¬ access.toExpr.IsAccess ∧ e' = access.toExpr := by
  obtain ⟨receiver, name, type⟩ := access
  unfold resolveMember at h
  split at h
  · next entity buffer hrow =>
      obtain ⟨d, rfl, hd⟩ := Option.bind_eq_some_iff.mp hrow
      cases d with
      | row =>
          cases hd
          exact .inl ⟨entity, buffer, name, .member .., h⟩
      | _ => simp [asRow?] at hd
  · next hrow =>
      refine .inr ⟨?_, ?_⟩
      · rintro ⟨entity, buffer, name, haccess⟩
        cases haccess
        simp [asRow?] at hrow
      · rw [hrules, RuleSet.rewriteMember?_relational] at h
        exact (Except.ok.inj h).symm

theorem resolveCall_eq_ok (hrules : t.rules = .relational) {call : MethodCall}
    (h : t.resolveCall select call = .ok e') :
    (∃ entity buffer name, call.toExpr.Accesses entity buffer name ∧
      bindName select entity buffer name = .ok e') ∨
    ¬ call.toExpr.IsAccess ∧
      (Equality.rewrite? call = some e' ∨ Equality.rewrite? call = none ∧ e' = call.toExpr) := by
  unfold resolveCall at h
  split at h
  · next entity buffer hrow =>
      obtain ⟨name, hname, hbound⟩ := bind_eq_ok_iff.mp h
      exact .inl ⟨entity, buffer, name, accesses_toExpr_iff.mpr ⟨hrow, hname⟩, hbound⟩
  · next hrow =>
      refine .inr ⟨?_, ?_⟩
      · rintro ⟨entity, buffer, name, haccess⟩
        rw [(accesses_toExpr_iff.mp haccess).1] at hrow
        contradiction
      · rw [hrules, RuleSet.rewriteCall?_relational] at h
        cases hrewrite : Equality.rewrite? call with
        | some answer => simpa [hrewrite] using h
        | none => simpa [hrewrite, eq_comm] using h

theorem resolveUnary_eq_ok {op : UnaryOp} {operand : Expr} {type : HostType}
    (h : t.resolveUnary op operand type = .ok e') :
    (op = .convert ∧ operand.isScalar ∧ type ≠ .object ∧
      ∃ mapping, t.source.mapping type = .ok mapping ∧
        e' = .scalar (.cast operand type mapping.storeType) (some mapping) false) ∨
    ¬ (op = .convert ∧ operand.isScalar ∧ type ≠ .object) ∧ e' = .unary op operand type := by
  unfold resolveUnary at h
  split at h
  · next hcast =>
      obtain ⟨mapping, hmapping, h⟩ := bind_eq_ok_iff.mp h
      exact .inl ⟨hcast.1, hcast.2.1, hcast.2.2, mapping, hmapping, (Except.ok.inj h).symm⟩
  · next hcast => exact .inr ⟨hcast, (Except.ok.inj h).symm⟩

theorem visit_of_isScalar_eq_false (hrules : t.rules = .relational)
    (h : t.visit select e = .ok e') (hscalar : e'.isScalar = false) :
    e.isSettled ∧ e' = e ∨
    (∃ access access' : MemberAccess, e = access.toExpr ∧ e' = access'.toExpr) ∨
    (∃ call call' : MethodCall, e = call.toExpr ∧ e' = call'.toExpr) ∨
    (∃ op left right left' right' type,
      e = .binary op left right type ∧ e' = .binary op left' right' type) ∨
    ∃ op operand operand' type, e = .unary op operand type ∧
      t.visit select operand = .ok operand' ∧ e' = .unary op operand' type := by
  have hbind : ∀ {entity buffer name}, bindName select entity buffer name ≠ .ok e' := by
    intro entity buffer name hbound
    obtain ⟨_, _, _, column, _, _, _, _, rfl⟩ := bindName_eq_ok_iff.mp hbound
    simp [Scalar.toExpr, isScalar, asScalar?] at hscalar
  cases e with
  | member receiver name type =>
      obtain ⟨receiver', -, h⟩ := visit_member_eq_ok_iff.mp h
      rcases resolveMember_eq_ok hrules h with ⟨_, _, _, -, hbound⟩ | ⟨-, rfl⟩
      · exact (hbind hbound).elim
      · exact .inr (.inl ⟨⟨receiver, name, type⟩, _, rfl, rfl⟩)
  | call receiver method args type =>
      obtain ⟨receiver', -, args', -, h⟩ := visit_call_eq_ok_iff.mp h
      rcases resolveCall_eq_ok hrules h with ⟨_, _, _, -, hbound⟩ | ⟨-, hrewrite | ⟨-, rfl⟩⟩
      · exact (hbind hbound).elim
      · obtain ⟨left, right, -, -, rfl⟩ := Equality.rewrite?_eq_some_iff.mp hrewrite
        simp [Scalar.toExpr, isScalar, asScalar?] at hscalar
      · exact .inr (.inr (.inl ⟨⟨receiver, method, args, type⟩, _, rfl, rfl⟩))
  | binary op left right type =>
      obtain ⟨left', -, right', -, rfl⟩ := visit_binary_eq_ok_iff.mp h
      exact .inr (.inr (.inr (.inl ⟨_, _, _, _, _, _, rfl, rfl⟩)))
  | unary op operand type =>
      obtain ⟨operand', hoperand, h⟩ := visit_unary_eq_ok_iff.mp h
      rcases resolveUnary_eq_ok h with ⟨-, -, -, mapping, -, rfl⟩ | ⟨-, rfl⟩
      · simp [isScalar, asScalar?] at hscalar
      · exact .inr (.inr (.inr (.inr ⟨_, _, _, _, rfl, hoperand, rfl⟩)))
  | _ =>
      rw [visit_of_isSettled rfl] at h
      exact .inl ⟨rfl, (Except.ok.inj h).symm⟩

theorem eq_of_visit_isSettled (hrules : t.rules = .relational)
    (h : t.visit select e = .ok e') (hsettled : e'.isSettled) (hscalar : e'.isScalar = false) :
    e = e' := by
  rcases visit_of_isScalar_eq_false hrules h hscalar with
    ⟨-, rfl⟩ | ⟨_, _, -, rfl⟩ | ⟨_, _, -, rfl⟩ | ⟨_, _, _, _, _, _, -, rfl⟩ |
      ⟨_, _, _, _, -, -, rfl⟩
  · rfl
  all_goals simp [MemberAccess.toExpr, MethodCall.toExpr, isSettled] at hsettled

theorem eq_convert_row_of_visit (hrules : t.rules = .relational) {entity : EntityType}
    {buffer : Expr}
    (h : t.visit select e = .ok (.unary .convert (.row entity buffer) .object)) :
    e = .unary .convert (.row entity buffer) .object := by
  rcases visit_of_isScalar_eq_false hrules h rfl with
    ⟨-, h⟩ | ⟨_, _, -, h⟩ | ⟨_, _, -, h⟩ | ⟨_, _, _, _, _, _, -, h⟩ |
      ⟨_, _, _, _, rfl, hoperand, h⟩
  · exact h.symm
  · cases h
  · cases h
  · cases h
  · cases h
    rw [eq_of_visit_isSettled hrules hoperand rfl rfl]

theorem visit_convert_row (t : Translator) (select : Select) (entity : EntityType)
    (buffer : Expr) :
    t.visit select (.unary .convert (.row entity buffer) .object) =
      .ok (.unary .convert (.row entity buffer) .object) :=
  visit_unary_eq_ok_iff.mpr ⟨_, visit_of_isSettled rfl, by simp [resolveUnary]⟩

theorem accesses_member_iff (hrules : t.rules = .relational) {receiver receiver' : Option Expr}
    (hreceiver : Option.Rel (fun d d' => t.visit select d = .ok d') receiver receiver')
    {name field : String} {type : HostType} {entity : EntityType} {buffer : Expr} :
    (Expr.member receiver' name type).Accesses entity buffer field ↔
      (Expr.member receiver name type).Accesses entity buffer field := by
  constructor
  · intro h
    cases h
    cases hreceiver with
    | some hd =>
        rw [eq_of_visit_isSettled hrules hd rfl rfl]
        exact .member ..
  · intro h
    cases h
    cases hreceiver with
    | some hd =>
        rw [visit_of_isSettled rfl] at hd
        cases hd
        exact .member ..

theorem accesses_call_iff (hrules : t.rules = .relational) {receiver receiver' : Option Expr}
    {args args' : List Expr}
    (hargs : List.Forall₂ (fun d d' => t.visit select d = .ok d') args args')
    {method : MethodRef} {name : String} {type : HostType} {entity : EntityType}
    {buffer : Expr} :
    (Expr.call receiver' method args' type).Accesses entity buffer name ↔
      (Expr.call receiver method args type).Accesses entity buffer name := by
  constructor
  · intro h
    cases h with
    | accessor =>
        obtain _ | ⟨hfirst, _ | ⟨hsecond, -⟩⟩ := hargs
        rw [eq_of_visit_isSettled hrules hfirst rfl rfl,
          eq_of_visit_isSettled hrules hsecond rfl rfl]
        exact .accessor ..
    | convertedAccessor =>
        obtain _ | ⟨hfirst, _ | ⟨hsecond, -⟩⟩ := hargs
        rw [eq_convert_row_of_visit hrules hfirst,
          eq_of_visit_isSettled hrules hsecond rfl rfl]
        exact .convertedAccessor ..
  · intro h
    cases h with
    | accessor =>
        obtain _ | ⟨hfirst, _ | ⟨hsecond, -⟩⟩ := hargs
        rw [visit_of_isSettled rfl] at hfirst hsecond
        cases hfirst
        cases hsecond
        exact .accessor ..
    | convertedAccessor =>
        obtain _ | ⟨hfirst, _ | ⟨hsecond, -⟩⟩ := hargs
        rw [visit_convert_row] at hfirst
        rw [visit_of_isSettled rfl] at hsecond
        cases hfirst
        cases hsecond
        exact .convertedAccessor ..

/-! ## One step of binding -/

/--
What binding makes of a node under the relational rules, `Bound` telling what its
parts are bound to.
-/
inductive Resolves (t : Translator) (select : Select) (Bound : Expr → Expr → Prop) :
    Expr → Expr → Prop
  | settled {e : Expr} (hsettled : e.isSettled) : Resolves t select Bound e e
  | access {e bound : Expr} {entity : EntityType} {buffer : Expr} {name : String}
      (haccess : e.Accesses entity buffer name)
      (hbound : bindName select entity buffer name = .ok bound) :
      Resolves t select Bound e bound
  | member {receiver receiver' : Option Expr} {name : String} {type : HostType}
      (hreceiver : Option.Rel Bound receiver receiver')
      (haccess : ¬ (Expr.member receiver name type).IsAccess) :
      Resolves t select Bound (.member receiver name type) (.member receiver' name type)
  | equalsCall {left left' right right' : Expr} {declaringType : String} {type : HostType}
      (hleft : Bound left left') (hright : Bound right right')
      (htype : left'.type = right'.type) :
      Resolves t select Bound (.call (some left) ⟨declaringType, "Equals"⟩ [right] type)
        (Equality.condition left' right').toExpr
  | staticEqualsCall {left left' right right' : Expr} {declaringType : String}
      {type : HostType} (hleft : Bound left left') (hright : Bound right right')
      (htype : left'.type = right'.type) :
      Resolves t select Bound (.call none ⟨declaringType, "Equals"⟩ [left, right] type)
        (Equality.condition left' right').toExpr
  | call {receiver receiver' : Option Expr} {method : MethodRef} {args args' : List Expr}
      {type : HostType} (hreceiver : Option.Rel Bound receiver receiver')
      (hargs : List.Forall₂ Bound args args')
      (haccess : ¬ (Expr.call receiver method args type).IsAccess)
      (hrewrite : Equality.rewrite? ⟨receiver', method, args', type⟩ = none) :
      Resolves t select Bound (.call receiver method args type)
        (.call receiver' method args' type)
  | binary {op : BinaryOp} {left left' right right' : Expr} {type : HostType}
      (hleft : Bound left left') (hright : Bound right right') :
      Resolves t select Bound (.binary op left right type)
        (Expr.binary op left' right' type).reconcile
  | cast {operand operand' : Expr} {type : HostType} {mapping : TypeMapping}
      (hoperand : Bound operand operand') (hscalar : operand'.isScalar)
      (htype : type ≠ .object) (hmapping : t.source.mapping type = .ok mapping) :
      Resolves t select Bound (.unary .convert operand type)
        (.scalar (.cast operand' type mapping.storeType) (some mapping) false)
  | unary {op : UnaryOp} {operand operand' : Expr} {type : HostType}
      (hoperand : Bound operand operand')
      (hcast : ¬ (op = .convert ∧ operand'.isScalar ∧ type ≠ .object)) :
      Resolves t select Bound (.unary op operand type) (.unary op operand' type)

theorem resolves_of_visit (hrules : t.rules = .relational) (h : t.visit select e = .ok e') :
    Resolves t select (fun d d' => t.visit select d = .ok d') e e' := by
  cases e with
  | member receiver name type =>
      obtain ⟨receiver', hreceiver, h⟩ := visit_member_eq_ok_iff.mp h
      rw [visitOption_eq_ok_iff] at hreceiver
      have hsame := @accesses_member_iff _ _ hrules _ _ hreceiver
      rcases resolveMember_eq_ok hrules h with ⟨entity, buffer, field, hread, hbound⟩ | ⟨hread, rfl⟩
      · exact .access (hsame.mp hread) hbound
      · refine .member hreceiver ?_
        rintro ⟨entity, buffer, field, hmember⟩
        exact hread ⟨entity, buffer, field, hsame.mpr hmember⟩
  | call receiver method args type =>
      obtain ⟨receiver', hreceiver, args', hargs, h⟩ := visit_call_eq_ok_iff.mp h
      rw [visitOption_eq_ok_iff] at hreceiver
      rw [visitAll_eq_ok_iff] at hargs
      have hsame := @accesses_call_iff _ _ hrules receiver receiver' _ _ hargs
      rcases resolveCall_eq_ok hrules h with ⟨entity, buffer, name, hread, hbound⟩ |
        ⟨hread, hrewrite | ⟨hrewrite, rfl⟩⟩
      · exact .access (hsame.mp hread) hbound
      · obtain ⟨left', right', hoperands, htype, rfl⟩ := Equality.rewrite?_eq_some_iff.mp hrewrite
        obtain ⟨declaringType, methodName⟩ := method
        obtain ⟨rfl, ⟨rfl, rfl⟩ | ⟨rfl, rfl, -⟩⟩ := Equality.operands?_eq_some_iff.mp hoperands
        · obtain ⟨hleft⟩ := hreceiver
          obtain _ | ⟨hright, _ | _⟩ := hargs
          exact .equalsCall hleft hright htype
        · cases hreceiver
          obtain _ | ⟨hleft, _ | ⟨hright, _ | _⟩⟩ := hargs
          exact .staticEqualsCall hleft hright htype
      · refine .call hreceiver hargs ?_ hrewrite
        rintro ⟨entity, buffer, name, hcall⟩
        exact hread ⟨entity, buffer, name, hsame.mpr hcall⟩
  | binary op left right type =>
      obtain ⟨left', hleft, right', hright, rfl⟩ := visit_binary_eq_ok_iff.mp h
      exact .binary hleft hright
  | unary op operand type =>
      obtain ⟨operand', hoperand, h⟩ := visit_unary_eq_ok_iff.mp h
      rcases resolveUnary_eq_ok h with ⟨rfl, hscalar, htype, mapping, hmapping, rfl⟩ | ⟨hcast, rfl⟩
      · exact .cast hoperand hscalar htype hmapping
      · exact .unary hoperand hcast
  | _ =>
      rw [visit_of_isSettled rfl] at h
      cases h
      exact .settled rfl

theorem Resolves.mono {Bound Bound' : Expr → Expr → Prop} (h : Resolves t select Bound e e')
    (himp : ∀ d ∈ e.parts, ∀ d', Bound d d' → Bound' d d') : Resolves t select Bound' e e' := by
  have hoption : ∀ {receiver receiver' : Option Expr}, (∀ d ∈ receiver, d ∈ e.parts) →
      Option.Rel Bound receiver receiver' → Option.Rel Bound' receiver receiver' := by
    intro receiver receiver' hparts hrel
    cases hrel with
    | none => exact .none
    | some hd => exact .some (himp _ (hparts _ rfl) _ hd)
  have hlist : ∀ {args args' : List Expr}, (∀ d ∈ args, d ∈ e.parts) →
      List.Forall₂ Bound args args' → List.Forall₂ Bound' args args' := by
    intro args args' hparts hrel
    induction hrel with
    | nil => exact .nil
    | cons hd _ ih =>
        exact .cons (himp _ (hparts _ (by simp)) _ hd) (ih fun d hmem => hparts d (by simp [hmem]))
  cases h with
  | settled hsettled => exact .settled hsettled
  | access haccess hbound => exact .access haccess hbound
  | member hreceiver haccess => exact .member (hoption (by simp [parts]) hreceiver) haccess
  | equalsCall hleft hright htype =>
      exact .equalsCall (himp _ (by simp [parts]) _ hleft) (himp _ (by simp [parts]) _ hright) htype
  | staticEqualsCall hleft hright htype =>
      exact .staticEqualsCall (himp _ (by simp [parts]) _ hleft)
        (himp _ (by simp [parts]) _ hright) htype
  | call hreceiver hargs haccess hrewrite =>
      exact .call (hoption (by simp +contextual [parts]) hreceiver)
        (hlist (by simp +contextual [parts]) hargs) haccess hrewrite
  | binary hleft hright =>
      exact .binary (himp _ (by simp [parts]) _ hleft) (himp _ (by simp [parts]) _ hright)
  | cast hoperand hscalar htype hmapping =>
      exact .cast (himp _ (by simp [parts]) _ hoperand) hscalar htype hmapping
  | unary hoperand hcast => exact .unary (himp _ (by simp [parts]) _ hoperand) hcast

/--
To relate expressions to their bound forms, relate each node to what one step makes
of it, its parts being related to their bound forms already.  A property that the
expression has everywhere is there for every node.
-/
theorem visit_induction (hrules : t.rules = .relational) {P : Expr → Prop}
    {motive : Expr → Expr → Prop}
    (step : ∀ e e', e.Everywhere P → Resolves t select motive e e' → motive e e')
    (he : e.Everywhere P) (h : t.visit select e = .ok e') : motive e e' := by
  induction e using induction_parts generalizing e' with
  | node e ih =>
      refine step e e' he ((resolves_of_visit hrules h).mono ?_)
      intro d hd d' hbound
      exact ih d hd (he.of_mem_parts hd) hbound

end Translator

end QueryBinding
