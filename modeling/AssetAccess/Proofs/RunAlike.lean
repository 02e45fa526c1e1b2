import AssetAccess.Proofs.Action
/-!
# Actions that run alike

Two actions run alike when nobody around them can tell which of the two has run: started in the same
surroundings they leave the same clock and the same events behind, and either fail with the same
error or return values that are related (`RunAlike`).

Every way of building an action keeps this, so that two long actions are compared step by step:
`RunAlike.bind` goes past a step, and `RunAlike.tryCatch` past a handler.
-/

namespace AssetAccess.Action

variable {α β γ δ : Type} {R R' : α → β → Prop} {S : γ → δ → Prop}

/-- The results are the same error, or values that are related. -/
inductive ResultsAlike (R : α → β → Prop) : Except Error α → Except Error β → Prop where
  | error (e : Error) : ResultsAlike R (.error e) (.error e)
  | ok {x : α} {y : β} (h : R x y) : ResultsAlike R (.ok x) (.ok y)

/-- Wherever the two actions start, their results are alike and they leave the same behind. -/
def RunAlike (R : α → β → Prop) (a : Action α) (b : Action β) : Prop :=
  ∀ s, ResultsAlike R (a.runFrom s).1 (b.runFrom s).1 ∧ (a.runFrom s).2 = (b.runFrom s).2

/-! ### Results -/

theorem ResultsAlike.refl (x : Except Error α) : ResultsAlike Eq x x := by
  cases x with
  | error e => exact .error e
  | ok x => exact .ok rfl

theorem ResultsAlike.mono (h : ∀ x y, R x y → R' x y) {x : Except Error α} {y : Except Error β}
    (hx : ResultsAlike R x y) : ResultsAlike R' x y := by
  cases hx with
  | error e => exact .error e
  | ok hr => exact .ok (h _ _ hr)

/-! ### Actions -/

theorem RunAlike.refl (a : Action α) : RunAlike Eq a a := fun _ => ⟨.refl _, rfl⟩

theorem RunAlike.mono (h : ∀ x y, R x y → R' x y) {a : Action α} {b : Action β}
    (hab : RunAlike R a b) : RunAlike R' a b := fun s => ⟨(hab s).1.mono h, (hab s).2⟩

theorem RunAlike.pure {x : α} {y : β} (h : R x y) :
    RunAlike R (Pure.pure x : Action α) (Pure.pure y) := fun _ => ⟨.ok h, rfl⟩

theorem RunAlike.throw (e : Error) :
    RunAlike R (MonadExcept.throw e : Action α) (MonadExcept.throw e) := fun _ => ⟨.error e, rfl⟩

theorem RunAlike.ofExcept {x : Except Error α} {y : Except Error β} (h : ResultsAlike R x y) :
    RunAlike R (ofExcept x) (ofExcept y) := fun _ => ⟨h, rfl⟩

/-- Actions that run alike may be followed by actions that run alike for related values. -/
theorem RunAlike.bind {a : Action α} {b : Action β} {f : α → Action γ} {g : β → Action δ}
    (h : RunAlike R a b) (hf : ∀ x y, R x y → RunAlike S (f x) (g y)) :
    RunAlike S (a >>= f) (b >>= g) := by
  intro s
  have hs := h s
  rw [runFrom_bind, runFrom_bind]
  rcases ha : runFrom a s with ⟨x, s'⟩
  rcases hb : runFrom b s with ⟨y, t'⟩
  rw [ha, hb] at hs
  obtain ⟨hres, rfl⟩ := hs
  cases hres with
  | error e => exact ⟨.error e, rfl⟩
  | ok hr => exact hf _ _ hr s'

/-- The same step may come first. -/
theorem RunAlike.bind_left (a : Action α) {f : α → Action γ} {g : α → Action δ}
    (hf : ∀ x, RunAlike S (f x) (g x)) : RunAlike S (a >>= f) (a >>= g) := by
  refine (RunAlike.refl a).bind ?_
  rintro x _ rfl
  exact hf x

/-- Past a known result, what follows has to run alike for its value alone. -/
theorem RunAlike.ofExcept_bind {x : Except Error α} {f : α → Action γ} {g : α → Action δ}
    (hf : ∀ y, x = .ok y → RunAlike S (f y) (g y)) :
    RunAlike S (Action.ofExcept x >>= f) (Action.ofExcept x >>= g) := by
  have hx : RunAlike (fun y y' => x = .ok y ∧ y = y') (Action.ofExcept x) (Action.ofExcept x) := by
    refine .ofExcept ?_
    cases x with
    | error e => exact .error e
    | ok y => exact .ok ⟨rfl, rfl⟩
  refine hx.bind ?_
  rintro y _ ⟨hy, rfl⟩
  exact hf y hy

/-- An action that fails ends alike whatever would follow. -/
theorem RunAlike.throw_bind (e : Error) {f : α → Action γ} {g : β → Action δ} :
    RunAlike S ((MonadExcept.throw e : Action α) >>= f) ((MonadExcept.throw e : Action β) >>= g) :=
  RunAlike.bind (R := fun _ _ => False) (.throw e) fun _ _ h => h.elim

/-- What fails alike may be handled alike. -/
theorem RunAlike.tryCatch {a : Action α} {b : Action β} {handle : Error → Action α}
    {handle' : Error → Action β} (h : RunAlike R a b)
    (hh : ∀ e, RunAlike R (handle e) (handle' e)) :
    RunAlike R (MonadExcept.tryCatch a handle) (MonadExcept.tryCatch b handle') := by
  intro s
  have hs := h s
  rw [runFrom_tryCatch, runFrom_tryCatch]
  rcases ha : runFrom a s with ⟨x, s'⟩
  rcases hb : runFrom b s with ⟨y, t'⟩
  rw [ha, hb] at hs
  obtain ⟨hres, rfl⟩ := hs
  cases hres with
  | error e => exact hh e s'
  | ok hr => exact ⟨.ok hr, rfl⟩

end AssetAccess.Action
