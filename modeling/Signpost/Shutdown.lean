import Signpost.Clockwork

/-!
# Shutdown

The program waits for a request from outside to stop. A wait that fails stops nothing: the program
goes on.
-/

namespace Signpost

/-- A wait for the request to stop. -/
structure Shutdown where
  /-- The time that the wait asks of the clock. -/
  takes : Nat := 0
  /-- Why the wait fails, if it does. -/
  failure : Option String := none
  deriving DecidableEq, Repr

/-- How long the wait lasts. -/
def Shutdown.lasts (s : Shutdown) : Nat :=
  waited s.takes

/-- Whether the program is told to stop by the end of the wait, where `already` says whether it was
before. -/
def Shutdown.stops (s : Shutdown) (already : Bool) : Bool :=
  already || s.failure.isNone

end Signpost
