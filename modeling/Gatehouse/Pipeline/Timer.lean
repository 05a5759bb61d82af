/-!
# Timers

What takes time is measured by timers: the deadline of a request, and a guard that
waits. A timer runs for at most thirty years, however long it is set for, so every
longer span is the same span.
-/

namespace Gatehouse.Timer

/-- The longest span, in milliseconds: thirty years of 365 days. -/
def longest : Nat := 30 * 365 * 24 * 60 * 60 * 1000

/-- How long a timer runs that is set for this many milliseconds. -/
def span (set : Nat) : Nat := min set longest

end Gatehouse.Timer
