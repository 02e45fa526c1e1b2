import AssetAccess.Error
import AssetAccess.Http.Request
import AssetAccess.Log
import AssetAccess.Time.Clock
/-!
# Actions

An action may read the clock, report events and fail.  A failure keeps the readings that were taken
and the events that were reported before it.

A request action works on a request in the hands of its caller besides.  A failure does not undo
what has been made of the request until then.
-/

namespace AssetAccess

/-- What an action finds and leaves behind: the clock, and the events in order. -/
structure Surroundings where
  clock : Clock
  events : List LogEvent := []

/-- An operation that reads the clock, reports events, and fails or returns a value. -/
abbrev Action (α : Type) := ExceptT Error (StateM Surroundings) α

namespace Action

/-- Takes a reading of the clock and returns its Unix second. -/
def unixSecond : Action Int := do
  let s ← get
  set { s with clock := s.clock.next }
  return s.clock.unixSecond

/-- Reports an event. -/
def report (e : LogEvent) : Action Unit := modify fun s => { s with events := s.events ++ [e] }

/-- The result of an action together with the clock and the events that it leaves behind. -/
def perform {α : Type} (a : Action α) (clock : Clock) : Except Error α × Surroundings :=
  (ExceptT.run a).run { clock }

/-- The result of an action alone. -/
def result {α : Type} (a : Action α) (clock : Clock) : Except Error α := (a.perform clock).1

/-- Fails with the error of `e`, or returns its value. -/
def ofExcept {α : Type} (e : Except Error α) : Action α := ExceptT.mk (pure e)

end Action

/-- An action on a request that its caller holds. -/
abbrev RequestAction (α : Type) := ExceptT Error (StateT Http.Request (StateM Surroundings)) α

namespace RequestAction

/-- The action that leaves the request alone. -/
def ofAction {α : Type} (a : Action α) : RequestAction α :=
  ExceptT.mk (StateT.lift (ExceptT.run a))

/-- The result of an action, the request that the caller is left with, and the clock and the events
that it leaves behind. -/
def perform {α : Type} (a : RequestAction α) (request : Http.Request) (clock : Clock) :
    Except Error α × Http.Request × Surroundings :=
  let ((x, held), left) := ((ExceptT.run a).run request).run { clock }
  (x, held, left)

end RequestAction

end AssetAccess
