import Mathlib.Data.List.Forall2

/-!
# Successful and failing computations

When a composed computation succeeds, each step has succeeded before it.  A
traversal succeeds exactly when it succeeds element by element, and otherwise it
fails as the first element does that fails.
-/

namespace QueryBinding

variable {ε α β : Type}

theorem bind_eq_ok_iff {x : Except ε α} {f : α → Except ε β} {b : β} :
    x >>= f = .ok b ↔ ∃ a, x = .ok a ∧ f a = .ok b := by
  cases x <;> simp [bind, Except.bind]

theorem pure_eq_ok_iff {a b : α} : (pure a : Except ε α) = .ok b ↔ a = b := by
  simp [pure, Except.pure]

theorem map_eq_ok_iff {x : Except ε α} {f : α → β} {b : β} :
    x.map f = .ok b ↔ ∃ a, x = .ok a ∧ f a = b := by
  cases x <;> simp [Except.map]

theorem toOption_eq_some_iff {x : Except ε α} {a : α} : x.toOption = some a ↔ x = .ok a := by
  cases x <;> simp [Except.toOption]

theorem mapM_eq_ok_iff {f : α → Except ε β} {xs : List α} {ys : List β} :
    xs.mapM f = .ok ys ↔ List.Forall₂ (fun x y => f x = .ok y) xs ys := by
  induction xs generalizing ys with
  | nil => rw [List.mapM_nil, pure_eq_ok_iff, List.forall₂_nil_left_iff, eq_comm]
  | cons x xs ih =>
      simp only [List.mapM_cons, bind_eq_ok_iff, pure_eq_ok_iff, ih,
        List.forall₂_cons_left_iff]
      constructor
      · rintro ⟨y, hy, ys', hys, rfl⟩
        exact ⟨y, ys', hy, hys, rfl⟩
      · rintro ⟨y, ys', hy, hys, rfl⟩
        exact ⟨y, hy, ys', hys, rfl⟩

theorem ok_of_mem_mapM {f : α → Except ε β} {xs : List α} {ys : List β} {x : α}
    (h : xs.mapM f = .ok ys) (hx : x ∈ xs) : ∃ y, f x = .ok y := by
  rw [mapM_eq_ok_iff] at h
  induction h with
  | nil => cases hx
  | @cons z y _ _ hz _ ih =>
      rcases List.mem_cons.mp hx with rfl | hx
      · exact ⟨y, hz⟩
      · exact ih hx

/-! ## Related results -/

theorem map_eq_map_of_rel {γ : Type*} {R : α → β → Prop} {f : β → γ} {g : α → γ}
    {x : Option α} {y : Option β} (h : Option.Rel R x y) (heq : ∀ a b, R a b → f b = g a) :
    y.map f = x.map g := by
  cases h with
  | none => rfl
  | some hab => rw [Option.map_some, Option.map_some, heq _ _ hab]

theorem map_eq_map_of_forall₂ {γ : Type*} {R : α → β → Prop} {f : β → γ} {g : α → γ}
    {xs : List α} {ys : List β} (h : List.Forall₂ R xs ys) (heq : ∀ a b, R a b → f b = g a) :
    ys.map f = xs.map g := by
  induction h with
  | nil => rfl
  | cons hab _ ih => rw [List.map_cons, List.map_cons, heq _ _ hab, ih]

theorem forall_mem_of_rel {R : α → β → Prop} {P : β → Prop} {x : Option α} {y : Option β}
    (h : Option.Rel R x y) (himp : ∀ a ∈ x, ∀ b, R a b → P b) : ∀ b ∈ y, P b := by
  cases h with
  | none => simp
  | some hab =>
      rintro _ ⟨⟩
      exact himp _ rfl _ hab

theorem forall_mem_of_forall₂ {R : α → β → Prop} {P : β → Prop} {xs : List α} {ys : List β}
    (h : List.Forall₂ R xs ys) (himp : ∀ a ∈ xs, ∀ b, R a b → P b) : ∀ b ∈ ys, P b := by
  induction h with
  | nil => simp
  | cons hab _ ih =>
      obtain ⟨hhead, htail⟩ := List.forall_mem_cons.mp himp
      exact List.forall_mem_cons.mpr ⟨hhead _ hab, ih htail⟩

theorem mapM_perm {read : α → Option β} {xs ys : List α} (h : xs.Perm ys) :
    Option.Rel List.Perm (xs.mapM read) (ys.mapM read) := by
  induction h with
  | nil => exact .some (.refl [])
  | @cons x xs ys _ ih =>
      rw [List.mapM_cons, List.mapM_cons]
      generalize xs.mapM read = front, ys.mapM read = back at ih ⊢
      cases read x with
      | none => exact .none
      | some y =>
          cases ih with
          | none => exact .none
          | some hperm => exact .some (hperm.cons y)
  | swap x y rest =>
      simp only [List.mapM_cons]
      cases read x with
      | none => cases read y <;> exact .none
      | some a =>
          cases read y with
          | none => exact .none
          | some b =>
              cases rest.mapM read with
              | none => exact .none
              | some rest => exact .some (.swap a b rest)
  | @trans xs ys zs _ _ ih ih' =>
      generalize xs.mapM read = x, ys.mapM read = y, zs.mapM read = z at ih ih' ⊢
      cases ih with
      | none => exact ih'
      | some hperm =>
          cases ih' with
          | some hperm' => exact .some (hperm.trans hperm')

/-! ## Failures -/

theorem map_eq_error_iff {x : Except ε α} {f : α → β} {err : ε} :
    x.map f = .error err ↔ x = .error err := by
  cases x <;> simp [Except.map]

theorem bind_eq_error_iff {x : Except ε α} {f : α → Except ε β} {err : ε} :
    x >>= f = .error err ↔ x = .error err ∨ ∃ a, x = .ok a ∧ f a = .error err := by
  cases x <;> simp [bind, Except.bind]

theorem bind_eq_error_iff_of_ok {x : Except ε α} {f : α → Except ε β} {err : ε} {P : Prop}
    (h : ∀ a, x = .ok a → (f a = .error err ↔ P)) :
    x >>= f = .error err ↔ x = .error err ∨ (∀ other, x ≠ .error other) ∧ P := by
  cases x with
  | error => simp [bind, Except.bind]
  | ok a => simp [bind, Except.bind, h a rfl]

theorem forall_ne_error_iff {x : Except ε α} : (∀ err, x ≠ .error err) ↔ ∃ a, x = .ok a := by
  cases x <;> simp

/-- `First P xs b`: the first element of `xs` that `P` relates to anything, it relates to `b`. -/
inductive First (P : α → β → Prop) : List α → β → Prop
  | head {a : α} {as : List α} {b : β} (h : P a b) : First P (a :: as) b
  | tail {a : α} {as : List α} {b : β} (hnone : ∀ c, ¬ P a c) (h : First P as b) :
      First P (a :: as) b

namespace First

variable {P : α → β → Prop} {a : α} {as bs : List α} {b : β}

theorem nil_iff : First P [] b ↔ False :=
  ⟨fun h => (nomatch h), False.elim⟩

theorem cons_iff : First P (a :: as) b ↔ P a b ∨ (∀ c, ¬ P a c) ∧ First P as b := by
  constructor
  · intro h
    cases h with
    | head h => exact .inl h
    | tail hnone h => exact .inr ⟨hnone, h⟩
  · rintro (h | ⟨hnone, h⟩)
    · exact .head h
    · exact .tail hnone h

theorem singleton_iff : First P [a] b ↔ P a b := by
  simp [cons_iff, nil_iff]

theorem append_iff :
    First P (as ++ bs) b ↔ First P as b ∨ (∀ a ∈ as, ∀ c, ¬ P a c) ∧ First P bs b := by
  induction as with
  | nil => simp [nil_iff]
  | cons a as ih =>
      rw [List.cons_append, cons_iff, cons_iff, ih, List.forall_mem_cons]
      constructor
      · rintro (h | ⟨hnone, h | ⟨hrest, h⟩⟩)
        · exact .inl (.inl h)
        · exact .inl (.inr ⟨hnone, h⟩)
        · exact .inr ⟨⟨hnone, hrest⟩, h⟩
      · rintro ((h | ⟨hnone, h⟩) | ⟨⟨hnone, hrest⟩, h⟩)
        · exact .inl h
        · exact .inr ⟨hnone, .inl h⟩
        · exact .inr ⟨hnone, .inr ⟨hrest, h⟩⟩

theorem exists_iff : (∃ b, First P as b) ↔ ∃ a ∈ as, ∃ b, P a b := by
  induction as with
  | nil => simp [nil_iff]
  | cons a as ih =>
      simp only [cons_iff, List.mem_cons, exists_eq_or_imp, ← ih]
      constructor
      · rintro ⟨b, h | ⟨-, h⟩⟩
        · exact .inl ⟨b, h⟩
        · exact .inr ⟨b, h⟩
      · intro h
        by_cases hhead : ∃ b, P a b
        · obtain ⟨b, hb⟩ := hhead
          exact ⟨b, .inl hb⟩
        · obtain ⟨b, hb⟩ := h.resolve_left hhead
          exact ⟨b, .inr ⟨not_exists.mp hhead, hb⟩⟩

theorem forall_not_iff : (∀ b, ¬ First P as b) ↔ ∀ a ∈ as, ∀ b, ¬ P a b := by
  have h := not_congr (@exists_iff _ _ P as)
  push Not at h
  exact h

theorem flatMap_iff {γ : Type} {Q : γ → β → Prop} {g : α → List γ}
    (h : ∀ a ∈ as, ∀ b, P a b ↔ First Q (g a) b) :
    First P as b ↔ First Q (as.flatMap g) b := by
  induction as with
  | nil => simp [nil_iff]
  | cons a as ih =>
      obtain ⟨ha, has⟩ := List.forall_mem_cons.mp h
      have hnone : (∀ c, ¬ P a c) ↔ ∀ d ∈ g a, ∀ c, ¬ Q d c := by
        rw [← forall_not_iff]
        exact forall_congr' fun c => not_congr (ha c)
      rw [List.flatMap_cons, cons_iff, append_iff, ha, hnone, ih has]

end First

theorem mapM_eq_error_iff {f : α → Except ε β} {xs : List α} {err : ε} :
    xs.mapM f = .error err ↔ First (fun x err => f x = .error err) xs err := by
  induction xs with
  | nil => simp [First.nil_iff, pure, Except.pure]
  | cons x xs ih =>
      rw [First.cons_iff, ← ih, List.mapM_cons, bind_eq_error_iff]
      have hrest : (∃ y, f x = .ok y ∧ (xs.mapM f >>= fun ys => pure (y :: ys)) = .error err) ↔
          (∃ y, f x = .ok y) ∧ xs.mapM f = .error err := by
        simp [bind_eq_error_iff, pure, Except.pure]
      rw [hrest, ← forall_ne_error_iff]

theorem foldlM_eq_error_iff {f : β → α → Except ε β} {b : β} {xs : List α} {err : ε} :
    xs.foldlM f b = .error err ↔
      ∃ before x rest c, xs = before ++ x :: rest ∧ before.foldlM f b = .ok c ∧
        f c x = .error err := by
  induction xs generalizing b with
  | nil => simp [pure, Except.pure]
  | cons x xs ih =>
      rw [List.foldlM_cons, bind_eq_error_iff]
      constructor
      · rintro (h | ⟨c, hc, h⟩)
        · exact ⟨[], x, xs, b, rfl, rfl, h⟩
        · obtain ⟨before, y, rest, d, rfl, hbefore, hy⟩ := ih.mp h
          refine ⟨x :: before, y, rest, d, rfl, ?_, hy⟩
          exact bind_eq_ok_iff.mpr ⟨c, hc, hbefore⟩
      · rintro ⟨before, y, rest, d, hsplit, hbefore, hy⟩
        cases before with
        | nil =>
            obtain ⟨rfl, rfl⟩ := List.cons.inj hsplit
            cases hbefore
            exact .inl hy
        | cons z before =>
            obtain ⟨rfl, rfl⟩ := List.cons.inj hsplit
            obtain ⟨c, hc, hbefore⟩ := bind_eq_ok_iff.mp hbefore
            exact .inr ⟨c, hc, ih.mpr ⟨before, y, rest, d, rfl, hbefore, hy⟩⟩

end QueryBinding
