import QueryBinding.Fault

/-!
# Changes

A change works on a state and can be ended by a fault.  What it has done to the state by
then stays done, so that a change is refused as a whole only if it fails before it writes.
-/

namespace QueryBinding

abbrev Change (σ α : Type) :=
  ExceptT Fault (StateM σ) α

namespace Change

variable {σ α β : Type}

/-- What a change answers, and the state that it leaves. -/
def on (change : Change σ α) (state : σ) : Except Fault α × σ :=
  change.run.run state

@[simp] theorem on_pure (a : α) (state : σ) : (pure a : Change σ α).on state = (.ok a, state) :=
  rfl

@[simp] theorem on_throw (fault : Fault) (state : σ) :
    (throw fault : Change σ α).on state = (.error fault, state) :=
  rfl

@[simp] theorem on_lift (result : Except Fault α) (state : σ) :
    (liftM result : Change σ α).on state = (result, state) :=
  rfl

@[simp] theorem on_get (state : σ) : (get : Change σ σ).on state = (.ok state, state) :=
  rfl

@[simp] theorem on_modify (f : σ → σ) (state : σ) :
    (modify f : Change σ PUnit).on state = (.ok (), f state) :=
  rfl

@[simp] theorem on_bind (change : Change σ α) (next : α → Change σ β) (state : σ) :
    (change >>= next).on state =
      match change.on state with
      | (.ok a, state) => (next a).on state
      | (.error fault, state) => (.error fault, state) := by
  have hbind : (change >>= next).on state =
      (ExceptT.bindCont next (change.on state).1).run (change.on state).2 := rfl
  rw [hbind]
  rcases change.on state with ⟨_ | _, _⟩ <;> rfl

@[simp] theorem on_map (f : α → β) (change : Change σ α) (state : σ) :
    (f <$> change).on state =
      match change.on state with
      | (.ok a, state) => (.ok (f a), state)
      | (.error fault, state) => (.error fault, state) := by
  rw [← bind_pure_comp, on_bind]
  rcases change.on state with ⟨_ | _, _⟩ <;> rfl

end Change

end QueryBinding
