/-! # The cleanup loop

Each windowed aggregator runs a loop that drops its idle buckets once per period, the period
being the aggregator's window. An empty window would make the loop spin, so it is taken as one
second. The first pass comes one full period after the loop starts, and the loop stops at
shutdown, so by any instant it has made one pass per full period elapsed before shutdown. -/

namespace StateMetrics

/-- A cleanup loop, by its period in milliseconds. -/
structure CleanupLoop where
  periodMs : Nat
  deriving Repr, BEq, DecidableEq, Inhabited

namespace CleanupLoop

/-- The loop for a window; an empty window runs once a second. -/
def new (windowMs : Nat) : CleanupLoop := ⟨if windowMs = 0 then 1000 else windowMs⟩

/-- The passes made by `elapsedMs` after the start when shutdown comes at `shutdownMs`. -/
def passes (l : CleanupLoop) (shutdownMs elapsedMs : Nat) : Nat :=
  min shutdownMs elapsedMs / l.periodMs

end CleanupLoop

end StateMetrics
