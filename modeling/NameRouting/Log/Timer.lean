/-!
# Timer

Measures the time between two readings of a clock, or up to now while it is running.
-/

namespace NameRouting.Log

/-- When the measured time began, and when it ended if it has. -/
structure Timer where
  start : Float
  finish : Option Float
deriving Inhabited

namespace Timer

/-- A timer that was never started counts from zero. -/
def initial : Timer :=
  ⟨0, none⟩

/-- Starts anew at a reading of the clock. -/
def enter (now : Float) : Timer :=
  ⟨now, none⟩

/-- Stops at a reading of the clock. -/
def exit (timer : Timer) (now : Float) : Timer :=
  ⟨timer.start, some now⟩

/-- The milliseconds measured; a running timer takes a reading of the clock. -/
def milliseconds (timer : Timer) (clock : List Float) : Float × List Float :=
  match timer.finish, clock with
  | some finish, _ => ((finish - timer.start) * 1000.0, clock)
  | none, now :: later => ((now - timer.start) * 1000.0, later)
  | none, [] => ((0 - timer.start) * 1000.0, [])

end Timer

end NameRouting.Log
