import QueryBinding.Expr.Build
import QueryBinding.Proofs.Forms
import QueryBinding.Proofs.Origins
import QueryBinding.Proofs.Rows

/-!
# Failing translations

Over the row of a query a node fails on its own account when it reads a property
that the entity does not declare, when the property accessor is not told a name, or
when a scalar is converted to a type without a mapping.  Binding stops at the first
such node, the parts of a node coming before it and the parts themselves from left
to right.  If there is none, making a scalar of the whole can still fail.
-/

namespace QueryBinding

open QueryBinding.Expr

/-! ## Visited nodes -/

namespace Expr

mutual

/-- The nodes that binding visits, in the order in which it is done with them. -/
def visited : Expr → List Expr
  | .member receiver name type => visitedOption receiver ++ [.member receiver name type]
  | .call receiver method args type =>
      visitedOption receiver ++ visitedAll args ++ [.call receiver method args type]
  | .binary op left right type => left.visited ++ right.visited ++ [.binary op left right type]
  | .unary op operand type => operand.visited ++ [.unary op operand type]
  | e => [e]

def visitedOption : Option Expr → List Expr
  | some e => e.visited
  | none => []

def visitedAll : List Expr → List Expr
  | [] => []
  | e :: rest => e.visited ++ visitedAll rest

end

@[simp] theorem visitedOption_eq_flatMap (e : Option Expr) :
    visitedOption e = e.toList.flatMap visited := by
  cases e <;> simp [visitedOption]

@[simp] theorem visitedAll_eq_flatMap (es : List Expr) :
    visitedAll es = es.flatMap visited := by
  induction es with
  | nil => rfl
  | cons e rest ih => rw [visitedAll, ih, List.flatMap_cons]

def visitedParts (e : Expr) : List Expr :=
  if e.isSettled then [] else e.parts

theorem visited_eq (e : Expr) : e.visited = e.visitedParts.flatMap visited ++ [e] := by
  cases e <;> simp [visited, visitedParts, isSettled, parts]

theorem mem_parts_of_mem_visitedParts {d e : Expr} (h : d ∈ e.visitedParts) : d ∈ e.parts := by
  unfold visitedParts at h
  split at h
  · cases h
  · exact h

def IsRowArgument (entity : EntityType) (arg : Expr) : Prop :=
  arg = EntityQuery.rowOf entity ∨ arg = .unary .convert (EntityQuery.rowOf entity) .object

end Expr

/-! ## Faults of single nodes -/

namespace Translator

def boundForm (t : Translator) (select : Select) (e : Expr) : Expr :=
  match t.visit select e with
  | .ok bound => bound
  | .error _ => e

/-- The nodes that fail although their parts do not, and their faults. -/
inductive NodeFault (t : Translator) (select : Select) (entity : EntityType) :
    Expr → Fault → Prop
  | undefinedMember {name : String} {type : HostType} (hname : entity.findProperty? name = none) :
      NodeFault t select entity (.member (some (EntityQuery.rowOf entity)) name type)
        (.undefinedProperty entity.name name)
  | missingName {receiver : Option Expr} {arg : Expr} {type : HostType}
      (harg : arg.IsRowArgument entity) :
      NodeFault t select entity (.call receiver .propertyAccessor [arg] type)
        (.unsupported .missingPropertyName)
  | dynamicName {receiver : Option Expr} {arg nameArg : Expr} {rest : List Expr} {type : HostType}
      (harg : arg.IsRowArgument entity)
      (hname : ∀ name nameType, nameArg ≠ .constant (.string name) nameType) :
      NodeFault t select entity (.call receiver .propertyAccessor (arg :: nameArg :: rest) type)
        (.unsupported (.dynamicPropertyName (t.boundForm select nameArg).render))
  | undefinedName {receiver : Option Expr} {arg : Expr} {name : String} {nameType : HostType}
      {rest : List Expr} {type : HostType} (harg : arg.IsRowArgument entity)
      (hname : entity.findProperty? name = none) :
      NodeFault t select entity
        (.call receiver .propertyAccessor (arg :: .constant (.string name) nameType :: rest) type)
        (.undefinedProperty entity.name name)
  | unmappedCast {operand : Expr} {type : HostType} (hoperand : operand.becomesScalar entity)
      (htype : type ≠ .object) (hmapping : t.source.find? type = none) :
      NodeFault t select entity (.unary .convert operand type) (.unmappedType type)

/-- The expressions of which no scalar can be made although they are bound, and their faults. -/
inductive RootFault (t : Translator) (entity : EntityType) : Expr → Fault → Prop
  | row : RootFault t entity (EntityQuery.rowOf entity) (.unsupported (.entityAsScalar entity.name))
  | projected {path : ProjectionPath} {type : HostType} :
      RootFault t entity (.projected path type) (.unsupported (.projectionAsScalar path))
  | unmapped {e : Expr} (hplaceholder : e.isPlaceholder = false)
      (hscalar : e.becomesScalar entity = false) (hmapping : t.source.find? e.type = none) :
      RootFault t entity e (.unmappedType e.type)

variable {t : Translator} {source : MappingSource} {entity : EntityType} {query : EntityQuery}
  {select : Select} {e d d' : Expr} {fault : Fault}

theorem boundForm_of_visit (h : t.visit select d = .ok d') : t.boundForm select d = d' := by
  rw [boundForm, h]

/-! ## Failing steps -/

theorem mapping_eq_error_iff {type : HostType} :
    source.mapping type = .error fault ↔
      source.find? type = none ∧ fault = .unmappedType type := by
  unfold MappingSource.mapping
  cases source.find? type <;> simp [eq_comm]

theorem accessedName_eq_error_iff {arg : Option Expr} :
    accessedName arg = .error fault ↔
      arg = none ∧ fault = .unsupported .missingPropertyName ∨
      ∃ d, arg = some d ∧ (∀ name type, d ≠ .constant (.string name) type) ∧
        fault = .unsupported (.dynamicPropertyName d.render) := by
  unfold accessedName
  split
  · simp [eq_comm]
  · simp
  · next d hconstant =>
      simp only [Except.error.injEq, reduceCtorEq, false_and, false_or, Option.some.injEq]
      constructor
      · rintro rfl
        exact ⟨d, rfl, hconstant, rfl⟩
      · rintro ⟨_, rfl, -, rfl⟩
        rfl

theorem bindName_rowOf_eq_error_iff (hquery : EntityQuery.ofEntity entity source = .ok query)
    (hselect : select.mapping = query.select.mapping) {name : String} :
    bindName select entity (.projected .root .object) name = .error fault ↔
      entity.findProperty? name = none ∧ fault = .undefinedProperty entity.name name := by
  obtain ⟨-, projection, -, rfl, -, hitem⟩ := EntityQuery.item?_ofEntity hquery
  have hroot : select.item? .root = some (.entity projection) := by
    rw [Select.item?_congr hselect, hitem, if_pos rfl]
  rw [bindName_eq_error_iff (EntityQuery.builtWith_of_mapping hquery hselect).built]
  constructor
  · intro h
    cases h with
    | undeclared hname => exact ⟨hname, rfl⟩
    | unknownMember _ hnone | scalar _ hnone => cases hnone.symm.trans hroot
    | missing hown hentity hmissing =>
        cases hentity.symm.trans hroot
        cases hown.symm.trans hmissing
  · rintro ⟨hname, rfl⟩
    exact .undeclared hname

theorem resolveMember_eq_error_iff {access : MemberAccess} :
    t.resolveMember select access = .error fault ↔
      ∃ other buffer, access.receiver = some (.row other buffer) ∧
        bindName select other buffer access.name = .error fault := by
  have hrow : ∀ other buffer, access.receiver.bind asRow? = some (other, buffer) ↔
      access.receiver = some (.row other buffer) := by
    simp [Option.bind_eq_some_iff, asRow?_eq_some_iff]
  unfold resolveMember
  split
  · next other buffer h =>
      rw [(hrow other buffer).mp h]
      simp
  · next h => simp [← hrow, h]

theorem resolveCall_eq_error_iff {call : MethodCall} :
    t.resolveCall select call = .error fault ↔
      ∃ other buffer, accessedRow? call = some (other, buffer) ∧
        (accessedName call.args[1]? = .error fault ∨
          ∃ name, accessedName call.args[1]? = .ok name ∧
            bindName select other buffer name = .error fault) := by
  unfold resolveCall
  split
  · next other buffer h => simp [h, bind_eq_error_iff]
  · next h => simp [h]

theorem resolveUnary_eq_error_iff {op : UnaryOp} {type : HostType} :
    t.resolveUnary op d type = .error fault ↔
      op = .convert ∧ d.isScalar ∧ type ≠ .object ∧ t.source.find? type = none ∧
        fault = .unmappedType type := by
  unfold resolveUnary
  split
  · next h => simp [h, bind_eq_error_iff, pure, Except.pure, mapping_eq_error_iff]
  · next h =>
      simp only [reduceCtorEq, false_iff]
      rintro ⟨hop, hscalar, htype, -⟩
      exact h ⟨hop, hscalar, htype⟩

/-! ## Nodes whose parts are bound -/

theorem isRowArgument_iff (hrules : t.rules = .relational) (h : t.visit select d = .ok d') :
    d'.IsRowArgument entity ↔ d.IsRowArgument entity := by
  constructor
  · rintro (rfl | rfl)
    · exact .inl (eq_of_visit_isSettled hrules h rfl rfl)
    · exact .inr (eq_convert_row_of_visit hrules h)
  · rintro (rfl | rfl)
    · rw [visit_of_isSettled rfl] at h
      exact .inl (Except.ok.inj h).symm
    · exact .inr (Except.ok.inj (h.symm.trans (visit_convert_row ..)))

theorem resolveMember_eq_error_iff_nodeFault (hrules : t.rules = .relational)
    (hquery : EntityQuery.ofEntity entity source = .ok query)
    (hselect : select.mapping = query.select.mapping) {receiver receiver' : Option Expr}
    {name : String} {type : HostType} (hrow : (Expr.member receiver name type).OnlyRow query.row)
    (hreceiver : t.visitOption select receiver = .ok receiver') :
    t.resolveMember select ⟨receiver', name, type⟩ = .error fault ↔
      t.NodeFault select entity (.member receiver name type) fault := by
  rw [visitOption_eq_ok_iff] at hreceiver
  rw [resolveMember_eq_error_iff]
  constructor
  · rintro ⟨other, buffer, rfl, hbound⟩
    cases hreceiver with
    | some hr =>
        obtain rfl := eq_of_visit_isSettled hrules hr rfl rfl
        have hread := hrow (.row other buffer) (by simp [nodes]) rfl
        rw [(EntityQuery.item?_ofEntity hquery).1] at hread
        cases hread
        obtain ⟨hname, rfl⟩ := (bindName_rowOf_eq_error_iff hquery hselect).mp hbound
        exact .undefinedMember hname
  · intro h
    cases h with
    | undefinedMember hname =>
        cases hreceiver with
        | some hr =>
            rw [visit_of_isSettled rfl] at hr
            cases hr
            exact ⟨_, _, rfl, (bindName_rowOf_eq_error_iff hquery hselect).mpr ⟨hname, rfl⟩⟩

theorem nodeFault_of_resolveCall (hrules : t.rules = .relational)
    (hquery : EntityQuery.ofEntity entity source = .ok query)
    (hselect : select.mapping = query.select.mapping) {receiver receiver' : Option Expr}
    {method : MethodRef} {args args' : List Expr} {type : HostType}
    (hrow : (Expr.call receiver method args type).OnlyRow query.row)
    (hargs : List.Forall₂ (fun d d' => t.visit select d = .ok d') args args')
    (h : t.resolveCall select ⟨receiver', method, args', type⟩ = .error fault) :
    t.NodeFault select entity (.call receiver method args type) fault := by
  obtain ⟨other, buffer, hrowArg, hfault⟩ := resolveCall_eq_error_iff.mp h
  obtain ⟨rfl, first, rest', rfl, hfirst'⟩ := accessedRow?_eq_some_iff.mp hrowArg
  obtain _ | @⟨arg, _, rest, _, hfirst, hrest⟩ := hargs
  have hsame : arg = first := by
    rcases hfirst' with rfl | rfl
    · exact eq_of_visit_isSettled hrules hfirst rfl rfl
    · exact eq_convert_row_of_visit hrules hfirst
  subst hsame
  have hread := hrow (.row other buffer) (by rcases hfirst' with rfl | rfl <;> simp [nodes]) rfl
  rw [(EntityQuery.item?_ofEntity hquery).1] at hread
  cases hread
  have harg : arg.IsRowArgument entity := hfirst'
  rcases hfault with hname | ⟨name, hname, hbound⟩
  · rcases accessedName_eq_error_iff.mp hname with ⟨hmissing, rfl⟩ | ⟨bound, hget, hdynamic, rfl⟩
    · cases hrest with
      | nil => exact .missingName harg
      | cons => simp at hmissing
    · cases hrest with
      | nil => simp at hget
      | cons hnameArg =>
          obtain rfl : _ = bound := by simpa using hget
          rw [← boundForm_of_visit hnameArg]
          refine .dynamicName harg ?_
          rintro name nameType rfl
          rw [visit_of_isSettled rfl] at hnameArg
          exact hdynamic name nameType (Except.ok.inj hnameArg).symm
  · obtain ⟨nameType, hget⟩ := accessedName_eq_ok_iff.mp hname
    cases hrest with
    | nil => simp at hget
    | cons hnameArg =>
        obtain rfl : _ = Expr.constant (.string name) nameType := by simpa using hget
        obtain rfl := eq_of_visit_isSettled hrules hnameArg rfl rfl
        obtain ⟨hundefined, rfl⟩ := (bindName_rowOf_eq_error_iff hquery hselect).mp hbound
        exact .undefinedName harg hundefined

theorem resolveCall_of_nodeFault (hrules : t.rules = .relational)
    (hquery : EntityQuery.ofEntity entity source = .ok query)
    (hselect : select.mapping = query.select.mapping) {receiver receiver' : Option Expr}
    {method : MethodRef} {args args' : List Expr} {type : HostType}
    (hargs : List.Forall₂ (fun d d' => t.visit select d = .ok d') args args')
    (h : t.NodeFault select entity (.call receiver method args type) fault) :
    t.resolveCall select ⟨receiver', method, args', type⟩ = .error fault := by
  have hrow : ∀ {arg arg' rest}, arg.IsRowArgument entity → t.visit select arg = .ok arg' →
      accessedRow? ⟨receiver', .propertyAccessor, arg' :: rest, type⟩ =
        some (entity, .projected .root .object) :=
    fun harg hbound => accessedRow?_eq_some_iff.mpr
      ⟨rfl, _, _, rfl, (isRowArgument_iff hrules hbound).mpr harg⟩
  rw [resolveCall_eq_error_iff]
  cases h with
  | missingName harg =>
      obtain _ | ⟨hfirst, _ | _⟩ := hargs
      exact ⟨_, _, hrow harg hfirst, .inl rfl⟩
  | dynamicName harg hname =>
      obtain _ | ⟨hfirst, _ | ⟨hnameArg, -⟩⟩ := hargs
      rw [boundForm_of_visit hnameArg]
      refine ⟨_, _, hrow harg hfirst, .inl (accessedName_eq_error_iff.mpr ?_)⟩
      refine .inr ⟨_, rfl, ?_, rfl⟩
      rintro name nameType rfl
      exact hname name nameType (eq_of_visit_isSettled hrules hnameArg rfl rfl)
  | @undefinedName _ _ name _ _ _ harg hname =>
      obtain _ | ⟨hfirst, _ | ⟨hnameArg, -⟩⟩ := hargs
      rw [visit_of_isSettled rfl] at hnameArg
      cases hnameArg
      have hbound := (bindName_rowOf_eq_error_iff hquery hselect).mpr ⟨hname, rfl⟩
      exact ⟨_, _, hrow harg hfirst, .inr ⟨name, rfl, hbound⟩⟩

theorem resolveUnary_eq_error_iff_nodeFault {op : UnaryOp} {type : HostType}
    (hform : HasForm entity d d') :
    t.resolveUnary op d' type = .error fault ↔
      t.NodeFault select entity (.unary op d type) fault := by
  rw [resolveUnary_eq_error_iff, hform.isScalar]
  constructor
  · rintro ⟨rfl, hscalar, htype, hmapping, rfl⟩
    exact .unmappedCast hscalar htype hmapping
  · intro h
    cases h with
    | unmappedCast hscalar htype hmapping => exact ⟨rfl, hscalar, htype, hmapping, rfl⟩

/-! ## Binding -/

theorem visitOption_eq_error_iff {receiver : Option Expr} :
    t.visitOption select receiver = .error fault ↔
      First (fun d fault => t.visit select d = .error fault) receiver.toList fault := by
  cases receiver with
  | none => simp [visitOption, First.nil_iff]
  | some d => simp [visitOption, bind_eq_error_iff, pure, Except.pure, First.singleton_iff]

theorem visitAll_eq_error_iff {args : List Expr} :
    t.visitAll select args = .error fault ↔
      First (fun d fault => t.visit select d = .error fault) args fault := by
  rw [visitAll_eq_mapM, mapM_eq_error_iff]

theorem visit_eq_error_iff_parts (hrules : t.rules = .relational)
    (hquery : EntityQuery.ofEntity entity source = .ok query)
    (hselect : select.mapping = query.select.mapping) (hrow : e.OnlyRow query.row) :
    t.visit select e = .error fault ↔
      First (fun d fault => t.visit select d = .error fault) e.visitedParts fault ∨
      (∀ d ∈ e.visitedParts, ∀ other, t.visit select d ≠ .error other) ∧
        t.NodeFault select entity e fault := by
  cases e with
  | member receiver name type =>
      have hstep : ∀ receiver', t.visitOption select receiver = .ok receiver' →
          (t.resolveMember select ⟨receiver', name, type⟩ = .error fault ↔ _) :=
        fun _ => resolveMember_eq_error_iff_nodeFault hrules hquery hselect hrow
      rw [visit, bind_eq_error_iff_of_ok hstep]
      simp only [ne_eq, visitOption_eq_error_iff, First.forall_not_iff]
      rfl
  | call receiver method args type =>
      have hstep : ∀ receiver' args', t.visitAll select args = .ok args' →
          (t.resolveCall select ⟨receiver', method, args', type⟩ = .error fault ↔
            t.NodeFault select entity (.call receiver method args type) fault) := by
        intro receiver' args' hargs
        rw [visitAll_eq_ok_iff] at hargs
        exact ⟨nodeFault_of_resolveCall hrules hquery hselect hrow hargs,
          resolveCall_of_nodeFault hrules hquery hselect hargs⟩
      have hparts : (Expr.call receiver method args type).visitedParts = receiver.toList ++ args :=
        rfl
      rw [visit,
        bind_eq_error_iff_of_ok fun receiver' _ => bind_eq_error_iff_of_ok (hstep receiver'),
        hparts, First.append_iff]
      simp only [ne_eq, visitOption_eq_error_iff, visitAll_eq_error_iff, First.forall_not_iff,
        List.forall_mem_append, and_or_left, and_assoc, or_assoc]
  | binary op left right type =>
      have hnone : t.NodeFault select entity (.binary op left right type) fault ↔ False :=
        ⟨fun h => (by cases h), False.elim⟩
      have hparts : (Expr.binary op left right type).visitedParts = [left, right] := rfl
      simp [visit, hnone, hparts, First.cons_iff, First.nil_iff, bind_eq_error_iff, pure,
        Except.pure, forall_ne_error_iff]
  | unary op operand type =>
      have hoperand : operand.OnlyRow query.row := hrow.of_mem_parts (by simp [parts])
      have hstep : ∀ operand', t.visit select operand = .ok operand' →
          (t.resolveUnary op operand' type = .error fault ↔
            t.NodeFault select entity (.unary op operand type) fault) := fun operand' hbound =>
        resolveUnary_eq_error_iff_nodeFault (hasForm_visit hrules hquery hselect hoperand hbound)
      have hparts : (Expr.unary op operand type).visitedParts = [operand] := rfl
      rw [visit, bind_eq_error_iff_of_ok hstep, hparts, First.singleton_iff]
      simp
  | _ =>
      rw [visit_of_isSettled rfl]
      simp only [reduceCtorEq, visitedParts, isSettled, if_true, First.nil_iff, false_or,
        false_iff, not_and]
      rintro - ⟨⟩

theorem visit_eq_error_iff (hrules : t.rules = .relational)
    (hquery : EntityQuery.ofEntity entity source = .ok query)
    (hselect : select.mapping = query.select.mapping) (hrow : e.OnlyRow query.row) :
    t.visit select e = .error fault ↔ First (t.NodeFault select entity) e.visited fault := by
  induction e using induction_parts generalizing fault with
  | node e ih =>
      have hparts : ∀ d ∈ e.visitedParts, ∀ other, t.visit select d = .error other ↔
          First (t.NodeFault select entity) d.visited other := by
        intro d hd other
        have hd := mem_parts_of_mem_visitedParts hd
        exact ih d hd (hrow.of_mem_parts hd)
      rw [visit_eq_error_iff_parts hrules hquery hselect hrow, visited_eq, First.append_iff,
        First.singleton_iff, First.flatMap_iff hparts, ← First.forall_not_iff,
        ← First.forall_not_iff]
      simp only [First.flatMap_iff hparts]

/-! ## Whole translations -/

theorem toScalar_eq_error_iff :
    t.toScalar e = .error fault ↔
      (∃ other buffer, e = .row other buffer ∧
        fault = .unsupported (.entityAsScalar other.name)) ∨
      (∃ path type, e = .projected path type ∧
        fault = .unsupported (.projectionAsScalar path)) ∨
      e.isScalar = false ∧ e.isPlaceholder = false ∧ t.source.find? e.type = none ∧
        fault = .unmappedType e.type := by
  unfold toScalar
  split
  · simp [isScalar, asScalar?]
  · constructor
    · rintro ⟨⟩
      exact .inl ⟨_, _, rfl, rfl⟩
    · rintro (⟨_, _, ⟨⟩, rfl⟩ | ⟨_, _, ⟨⟩, -⟩ | ⟨-, ⟨⟩, -⟩)
      rfl
  · constructor
    · rintro ⟨⟩
      exact .inr (.inl ⟨_, _, rfl, rfl⟩)
    · rintro (⟨_, _, ⟨⟩, -⟩ | ⟨_, _, ⟨⟩, rfl⟩ | ⟨-, ⟨⟩, -⟩)
      rfl
  · next hscalar hrow hprojected =>
      have hkinds : e.isScalar = false ∧ e.isPlaceholder = false ∧
          (∀ other buffer, e ≠ .row other buffer) ∧ ∀ path type, e ≠ .projected path type := by
        refine ⟨?_, ?_, hrow, hprojected⟩ <;>
          cases e <;> simp_all [isScalar, asScalar?, isPlaceholder]
      simp [bind_eq_error_iff, pure, Except.pure, mapping_eq_error_iff, hkinds]

theorem isPlaceholder_visit (hrules : t.rules = .relational) (h : t.visit select d = .ok d') :
    d'.isPlaceholder = d.isPlaceholder := by
  cases hd : d.isPlaceholder with
  | true =>
      have hsettled : d.isSettled := by cases d <;> simp_all [isPlaceholder, isSettled]
      rw [visit_of_isSettled hsettled] at h
      rw [← Except.ok.inj h, hd]
  | false =>
      cases hd' : d'.isPlaceholder with
      | false => rfl
      | true =>
          have hkinds : d'.isSettled ∧ d'.isScalar = false := by
            cases d' <;> simp_all [isPlaceholder, isSettled, isScalar, asScalar?]
          rw [eq_of_visit_isSettled hrules h hkinds.1 hkinds.2, hd'] at hd
          cases hd

theorem toScalar_eq_error_iff_rootFault (hrules : t.rules = .relational)
    (hquery : EntityQuery.ofEntity entity source = .ok query)
    (hselect : select.mapping = query.select.mapping) (hrow : e.OnlyRow query.row) {bound : Expr}
    (hbound : t.visit select e = .ok bound) :
    t.toScalar bound = .error fault ↔ t.RootFault entity e fault := by
  have hform := hasForm_visit hrules hquery hselect hrow hbound
  rw [toScalar_eq_error_iff]
  constructor
  · rintro (⟨other, buffer, rfl, rfl⟩ | ⟨path, type, rfl, rfl⟩ |
      ⟨hscalar, hplaceholder, hmapping, rfl⟩)
    · obtain rfl := eq_of_visit_isSettled hrules hbound rfl rfl
      have hread := hrow.root rfl
      rw [(EntityQuery.item?_ofEntity hquery).1] at hread
      cases hread
      exact .row
    · obtain rfl := eq_of_visit_isSettled hrules hbound rfl rfl
      exact .projected
    · rw [hform.isScalar] at hscalar
      rw [hform.type, boundType_of_becomesScalar hscalar] at hmapping ⊢
      refine .unmapped ?_ hscalar hmapping
      rw [← hplaceholder, isPlaceholder_visit hrules hbound]
  · intro h
    cases h with
    | row =>
        rw [visit_of_isSettled rfl] at hbound
        cases hbound
        exact .inl ⟨_, _, rfl, rfl⟩
    | projected =>
        rw [visit_of_isSettled rfl] at hbound
        cases hbound
        exact .inr (.inl ⟨_, _, rfl, rfl⟩)
    | unmapped hplaceholder hscalar hmapping =>
        have htype := hform.type.trans (boundType_of_becomesScalar hscalar)
        rw [← htype] at hmapping ⊢
        exact .inr (.inr ⟨hform.isScalar.trans hscalar,
          (isPlaceholder_visit hrules hbound).trans hplaceholder, hmapping, rfl⟩)

/--
A translation fails when some visited node has a fault or, else, when no scalar can be
made of the whole.  The fault is that of the first such node.
-/
theorem translate_fault (hquery : Compiler.query ⟨source, .relational⟩ entity = .ok query)
    (ht : Compiler.translator ⟨source, .relational⟩ = .ok t)
    (hselect : select.mapping = query.select.mapping) (hrow : e.OnlyRow query.row)
    (condition : Bool) :
    ((∃ fault, t.translate select e condition = .error fault) ↔
      (∃ d ∈ e.visited, ∃ fault, t.NodeFault select entity d fault) ∨
        ∃ fault, t.RootFault entity e fault) ∧
    ∀ fault, t.translate select e condition = .error fault ↔
      First (t.NodeFault select entity) e.visited fault ∨
        (∀ d ∈ e.visited, ∀ other, ¬ t.NodeFault select entity d other) ∧
          t.RootFault entity e fault := by
  obtain ⟨-, hrules, -⟩ := Compiler.translator_eq_ok_iff.mp ht
  have hexact : ∀ fault, t.translate select e condition = .error fault ↔
      First (t.NodeFault select entity) e.visited fault ∨
        (∀ d ∈ e.visited, ∀ other, ¬ t.NodeFault select entity d other) ∧
          t.RootFault entity e fault := by
    intro fault
    have hroot : ∀ bound, t.visit select e = .ok bound →
        ((do return t.flag condition (← t.toScalar bound)) = .error fault ↔
          t.RootFault entity e fault) := by
      intro bound hbound
      rw [← toScalar_eq_error_iff_rootFault hrules hquery hselect hrow hbound, bind_eq_error_iff]
      simp [pure, Except.pure]
    rw [translate, bind_eq_error_iff_of_ok hroot]
    simp only [ne_eq, visit_eq_error_iff hrules hquery hselect hrow, First.forall_not_iff]
  refine ⟨?_, hexact⟩
  simp only [hexact, exists_or, First.exists_iff, exists_and_left]
  constructor
  · rintro (hnode | ⟨-, hroot⟩)
    · exact .inl hnode
    · exact .inr hroot
  · intro h
    by_cases hnode : ∃ d ∈ e.visited, ∃ fault, t.NodeFault select entity d fault
    · exact .inl hnode
    · push Not at hnode
      exact .inr ⟨hnode, h.resolve_left (by push Not; exact hnode)⟩

theorem translate_fault_money :
    let e := operation
      (convert (equalsCall (Expr.property (convert Customers.query.row .object) "Age" .int64)
        (.parameter "age" .int32)) (.named "Money"))
      .andAlso (Expr.get Customers.query.row "Email" .string)
    Customers.translator.translate Customers.query.select e true =
        .error (.unmappedType (.named "Money")) ∧
      First (Customers.translator.NodeFault Customers.query.select Customers.entity) e.visited
        (.unmappedType (.named "Money")) := by
  intro e
  have hrow : e.OnlyRow Customers.query.row := by
    simp [e, OnlyRow, Everywhere, operation, equalsCall, convert, Expr.get, Expr.property, literal,
      nodes, Customers.query, EntityQuery.rowOf, asRow?]
  have hfault :=
    translate_fault Customers.query_entity Customers.translator_relational rfl hrow true
  refine ⟨rfl, ?_⟩
  rcases (hfault.2 (.unmappedType (.named "Money"))).mp rfl with hfirst | ⟨-, hroot⟩
  · exact hfirst
  · have htype : ∀ {d type},
        Customers.translator.RootFault Customers.entity d (.unmappedType type) → type = d.type := by
      rintro d type ⟨⟩
      rfl
    exact absurd (htype hroot) (by decide)

end Translator

end QueryBinding
