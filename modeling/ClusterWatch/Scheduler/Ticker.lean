/-
Tickers: what is due once in every period.

A tick that is taken on time keeps the cadence: the next one is due a period after the last was
due. A tick that is taken late by more than a small tolerance delays all that follow: the next one
is due a period after it was taken, so that ticks never come in bursts.
-/
import ClusterWatch.Settings

namespace ClusterWatch

/-- When the next tick is due, and the time between ticks. -/
structure Ticker where
  due : Millis
  period : Millis
deriving DecidableEq, Repr

namespace Ticker

/-- How late a tick may be without delaying the next. -/
def tolerance : Millis := 5

/-- A period within its bounds: one millisecond and the longest interval between checks.  The lower
bound replaces a period of zero alone, which no settings that are kept have for an interval. -/
def clampPeriod (period : Millis) : Millis := max 1 (min period Settings.longestInterval)

/-- A ticker whose first tick is due a period from now. -/
def new (now period : Millis) : Ticker := ⟨now + clampPeriod period, clampPeriod period⟩

def isDue (t : Ticker) (now : Millis) : Bool := t.due ≤ now

def tick (t : Ticker) (now : Millis) : Ticker :=
  { t with due := if t.due + tolerance < now then now + t.period else t.due + t.period }

end Ticker
end ClusterWatch
