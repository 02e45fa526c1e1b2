import AssetAccess.Action
/-!
# Running actions

`runFrom a s` is what an action makes of the surroundings `s`: its result, and what it leaves
behind.  Each way of building an action has one law, so that an action is run by rewriting.  The
laws of a request action say besides what it makes of the request (`RequestAction.runFrom`).

`FailsOnlyWith P a` says which errors an action can end with, whatever its surroundings are.  It is
looked for step by step: an action fails as one of its steps does (`FailsOnlyWith.bind`).
`ReportsOnly P a` says in the same way which events an action can add to those that it finds.
-/

namespace AssetAccess

variable {α β : Type}

namespace Action

/-- The result of an action that starts in these surroundings, and what it leaves behind. -/
def runFrom (a : Action α) (s : Surroundings) : Except Error α × Surroundings :=
  (ExceptT.run a).run s

theorem result_eq (a : Action α) (clock : Clock) : a.result clock = (a.runFrom { clock }).1 := rfl

theorem runFrom_pure (x : α) (s : Surroundings) : runFrom (pure x) s = (.ok x, s) := rfl

theorem runFrom_throw (e : Error) (s : Surroundings) :
    runFrom (throw e : Action α) s = (.error e, s) := rfl

theorem runFrom_ofExcept (x : Except Error α) (s : Surroundings) :
    runFrom (ofExcept x) s = (x, s) := rfl

theorem runFrom_unixSecond (s : Surroundings) :
    runFrom unixSecond s = (.ok s.clock.unixSecond, { s with clock := s.clock.next }) := rfl

theorem runFrom_report (e : LogEvent) (s : Surroundings) :
    runFrom (report e) s = (.ok (), { s with events := s.events ++ [e] }) := rfl

/-- A failure ends an action; otherwise the next one starts where the first one ended. -/
theorem runFrom_bind (a : Action α) (f : α → Action β) (s : Surroundings) :
    runFrom (a >>= f) s = match runFrom a s with
      | (.ok x, s') => runFrom (f x) s'
      | (.error e, s') => (.error e, s') := by
  -- the two layers of the monad are taken off by definition
  change (ExceptT.bindCont f (runFrom a s).1 : StateM Surroundings (Except Error β))
    (runFrom a s).2 = _
  rcases runFrom a s with ⟨x | x, s'⟩
  · rfl
  · rfl

/-- Two steps succeed when each of them does. -/
theorem runFrom_bind_eq_ok_iff {a : Action α} {f : α → Action β} {s s'' : Surroundings} {y : β} :
    runFrom (a >>= f) s = (.ok y, s'') ↔
      ∃ x s', runFrom a s = (.ok x, s') ∧ runFrom (f x) s' = (.ok y, s'') := by
  rw [runFrom_bind]
  rcases runFrom a s with ⟨e | x, s'⟩
  · simp
  · constructor
    · exact fun h => ⟨x, s', rfl, h⟩
    · rintro ⟨x', s₁, ⟨⟩, h⟩
      exact h

/-- A handler takes over where the action failed. -/
theorem runFrom_tryCatch (a : Action α) (handle : Error → Action α) (s : Surroundings) :
    runFrom (tryCatch a handle) s = match runFrom a s with
      | (.ok x, s') => (.ok x, s')
      | (.error e, s') => runFrom (handle e) s' := by
  simp only [runFrom, ExceptT.run, StateT.run, tryCatch, tryCatchThe, MonadExceptOf.tryCatch,
    ExceptT.tryCatch, ExceptT.mk, bind, StateT.bind]
  rcases a s with ⟨x | x, s'⟩
  · rfl
  · rfl

/-! ### Errors -/

/-- Wherever the action starts, it ends with no other errors than these. -/
def FailsOnlyWith (P : Error → Prop) (a : Action α) : Prop :=
  ∀ s e, (runFrom a s).1 = .error e → P e

variable {P : Error → Prop}

theorem FailsOnlyWith.pure (x : α) : FailsOnlyWith P (Pure.pure x : Action α) := by
  intro s e h
  cases h

theorem FailsOnlyWith.throw {e : Error} (he : P e) :
    FailsOnlyWith P (MonadExcept.throw e : Action α) := by
  intro s e' h
  cases h
  exact he

theorem FailsOnlyWith.ofExcept {x : Except Error α} (hx : ∀ e, x = .error e → P e) :
    FailsOnlyWith P (Action.ofExcept x) := fun _ e h => hx e h

theorem FailsOnlyWith.unixSecond : FailsOnlyWith P unixSecond := by
  intro s e h
  cases h

theorem FailsOnlyWith.report (event : LogEvent) : FailsOnlyWith P (report event) := by
  intro s e h
  cases h

theorem FailsOnlyWith.bind {a : Action α} {f : α → Action β} (ha : FailsOnlyWith P a)
    (hf : ∀ x, FailsOnlyWith P (f x)) : FailsOnlyWith P (a >>= f) := by
  intro s e h
  rw [runFrom_bind] at h
  rcases hr : runFrom a s with ⟨e' | x, s'⟩
  · rw [hr] at h
    cases h
    exact ha s e (by rw [hr])
  · rw [hr] at h
    exact hf x s' e h

/-- What would follow a failure brings no error of its own. -/
theorem FailsOnlyWith.throw_bind {e : Error} (he : P e) {f : α → Action β} :
    FailsOnlyWith P ((MonadExcept.throw e : Action α) >>= f) := by
  intro s e' h
  rw [runFrom_bind, runFrom_throw] at h
  cases h
  exact he

/-! ### Events -/

/-- Wherever the action starts, the events that it adds are of these. -/
def ReportsOnly (P : LogEvent → Prop) (a : Action α) : Prop :=
  ∀ s, ∃ added, (runFrom a s).2.events = s.events ++ added ∧ ∀ e ∈ added, P e

variable {Q : LogEvent → Prop}

/-- An action that leaves the events as they are. -/
theorem ReportsOnly.of_events_eq {a : Action α} (h : ∀ s, (runFrom a s).2.events = s.events) :
    ReportsOnly Q a :=
  fun s => ⟨[], by rw [h, List.append_nil], fun _ he => absurd he List.not_mem_nil⟩

theorem ReportsOnly.pure (x : α) : ReportsOnly Q (Pure.pure x : Action α) :=
  .of_events_eq fun _ => rfl

theorem ReportsOnly.throw (e : Error) : ReportsOnly Q (MonadExcept.throw e : Action α) :=
  .of_events_eq fun _ => rfl

theorem ReportsOnly.ofExcept (x : Except Error α) : ReportsOnly Q (Action.ofExcept x) :=
  .of_events_eq fun _ => rfl

theorem ReportsOnly.unixSecond : ReportsOnly Q unixSecond := .of_events_eq fun _ => rfl

theorem ReportsOnly.report {e : LogEvent} (he : Q e) : ReportsOnly Q (report e) :=
  fun _ => ⟨[e], rfl, List.forall_mem_singleton.mpr he⟩

/-- Events are added one step after the other. -/
theorem ReportsOnly.bind {a : Action α} {f : α → Action β} (ha : ReportsOnly Q a)
    (hf : ∀ x, ReportsOnly Q (f x)) : ReportsOnly Q (a >>= f) := by
  intro s
  obtain ⟨added, hadded, hQ⟩ := ha s
  rw [runFrom_bind]
  rcases hr : runFrom a s with ⟨e | x, s'⟩
  · rw [hr] at hadded
    exact ⟨added, hadded, hQ⟩
  · rw [hr] at hadded
    obtain ⟨more, hmore, hQ'⟩ := hf x s'
    refine ⟨added ++ more, ?_, List.forall_mem_append.mpr ⟨hQ, hQ'⟩⟩
    rw [← List.append_assoc, ← hadded]
    exact hmore

/-- What would follow a failure reports nothing. -/
theorem ReportsOnly.throw_bind {e : Error} {f : α → Action β} :
    ReportsOnly Q ((MonadExcept.throw e : Action α) >>= f) :=
  .of_events_eq fun s => by rw [runFrom_bind, runFrom_throw]

end Action

/-! ### Requests in the hands of a caller -/

namespace RequestAction

/-- The result of an action that starts with this request and in these surroundings, what it makes
of the request, and what it leaves behind. -/
def runFrom (a : RequestAction α) (request : Http.Request) (s : Surroundings) :
    Except Error α × Http.Request × Surroundings :=
  let ((x, held), left) := ((ExceptT.run a).run request).run s
  (x, held, left)

theorem perform_eq (a : RequestAction α) (request : Http.Request) (clock : Clock) :
    a.perform request clock = a.runFrom request { clock } := rfl

theorem runFrom_get (request : Http.Request) (s : Surroundings) :
    runFrom get request s = (.ok request, request, s) := rfl

theorem runFrom_modify (f : Http.Request → Http.Request) (request : Http.Request)
    (s : Surroundings) : runFrom (modify f) request s = (.ok (), f request, s) := rfl

theorem runFrom_throw (e : Error) (request : Http.Request) (s : Surroundings) :
    runFrom (throw e : RequestAction α) request s = (.error e, request, s) := rfl

theorem runFrom_ofAction (a : Action α) (request : Http.Request) (s : Surroundings) :
    runFrom (ofAction a) request s = ((a.runFrom s).1, request, (a.runFrom s).2) := rfl

/-- A failure ends an action with the request as it is; otherwise the next one takes over. -/
theorem runFrom_bind (a : RequestAction α) (f : α → RequestAction β) (request : Http.Request)
    (s : Surroundings) :
    runFrom (a >>= f) request s = match runFrom a request s with
      | (.ok x, held, s') => runFrom (f x) held s'
      | (.error e, held, s') => (.error e, held, s') := by
  simp only [runFrom, ExceptT.run, StateT.run, bind, ExceptT.bind, ExceptT.mk, StateT.bind]
  rcases a request s with ⟨⟨x | x, held⟩, s'⟩
  · rfl
  · rfl

end RequestAction

end AssetAccess
