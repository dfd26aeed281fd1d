import Turtle.Run.Controller

/-!
# Pauses

A run pauses before it starts and before each step, for the start or step delay of its settings,
and looks for a stop request every poll interval meanwhile. The pause reads the event loop's
clock when it begins, which fixes its deadline, and again at the start of every round. A round
sleeps for the time remaining, raised to zero and cut to the poll interval; the pause ends after
the first round by the end of whose sleep a stop was requested, or which began with at most the
poll interval of time remaining. Neither the delay nor the poll interval is checked: both are any
doubles the settings hold.

What a pause observes of the event loop is a `Pause.Loop`: the clock readings, and whether a stop
is requested when each round's sleep is over. `Pause.endsWithin` says whether the pause has ended
within a number of rounds.

No time remaining is at most a poll interval that is not a number, and only -∞ is at most -∞: with
such a poll interval (`Pause.endless`) a pause ends only at a stop request, as long as the clock
stays within the doubles. The controller's runs take no time (their delays are zero, and the time
a negative poll interval makes a pause wait is left out), so its pause (`Controller.pause`) is one
turn of the event loop, unless no stop is requested and its poll interval is endless: then it
never returns.
-/

namespace Turtle

/-- A pause: how long it lasts and how often it looks for a stop request, in seconds. -/
structure Pause where
  duration : Float
  poll : Float

namespace Pause

/-- What a pause observes of the event loop: the clock when it begins and at the start of each
round, and whether a stop is requested when each round's sleep is over. -/
structure Loop where
  begin : Float
  clock : Nat → Float
  stopped : Nat → Bool

variable (p : Pause) (L : Loop)

-- The larger and the smaller of two doubles are taken as the event loop takes them: the first
-- unless the second is larger (smaller), so the first when the two are not ordered.

/-- The moment the pause is over: its duration after it began, at once for a negative one. -/
def deadline : Float := L.begin + (if 0.0 > p.duration then 0.0 else p.duration)

/-- The time remaining at the start of round `k`. -/
def remaining (k : Nat) : Float := p.deadline L - L.clock k

/-- How long round `k` sleeps: the time remaining, raised to zero and cut to the poll interval. -/
def sleep (k : Nat) : Float :=
  let r := if 0.0 > p.remaining L k then 0.0 else p.remaining L k
  if p.poll < r then p.poll else r

/-- Whether the pause ends after round `k`: a stop was requested by the end of its sleep, or the
time remaining at its start was at most the poll interval. -/
def endsAfter (k : Nat) : Bool := L.stopped k || decide (p.remaining L k ≤ p.poll)

/-- Whether the pause has ended within `n` rounds. -/
def endsWithin : Nat → Bool
  | 0 => false
  | n + 1 => endsWithin n || p.endsAfter L n

/-- The clock honours the sleeps: the first round begins no earlier than the pause, and a sleep
of `s` seconds moves the clock on by at least the larger of `s` and zero. -/
def Honours : Prop :=
  L.begin ≤ L.clock 0 ∧
    ∀ k, L.clock k + (if 0.0 > p.sleep L k then 0.0 else p.sleep L k) ≤ L.clock (k + 1)

/-- A poll interval with which a pause ends only at a stop request while the clock stays within
the doubles: one that is not a number, or -∞. -/
def endless (poll : Float) : Bool := poll.isNaN || poll == -(1.0 / 0.0)

end Pause

namespace Controller

/-- The controller's pause when nothing else runs: one turn of the event loop, or no end at all
when no stop is requested and the poll interval of the settings is endless. -/
def pause : Act Unit := do
  let c ← now
  if !c.stopRequested && Pause.endless c.settings.pollInterval then throw .pauseNeverEnds

end Controller

end Turtle
