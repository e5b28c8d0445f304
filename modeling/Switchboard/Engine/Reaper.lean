import Switchboard.Correlator.Basic
import Switchboard.Engine.Signal

/-!
# Sweeping the correlator

A reaper sweeps the correlator at fixed intervals, the first time one interval
after it began, until its signal stops it.  A sweep comes once its timer has
gone off, which may be later than it was due.
-/

namespace Switchboard

/-- What a reaper does next. -/
inductive ReaperPhase where
  /-- The reaper has not begun. -/
  | created
  /-- The next sweep has a time. -/
  | waiting (due : Instant)
  | stopped
  deriving Repr, DecidableEq

structure Reaper where
  interval : Nat
  /-- The version of the signal that the reaper has seen. -/
  seen : Nat
  phase : ReaperPhase := .created
  deriving Repr, DecidableEq

namespace Reaper

/-- How late a sweep may come and still count as being on time. -/
def tolerance : Nat := 5

/-- The next time of a sweep that was due and comes now.  Sweeps that were
missed are left out, and the later ones stay on multiples of the interval. -/
def nextDue (interval due now : Nat) : Instant :=
  if due + tolerance < now then
    now + interval - (now - due) % interval
  else
    due + interval

def due? (reaper : Reaper) : Option Instant :=
  match reaper.phase with
  | .waiting due => some due
  | _ => none

/-- The reaper begins.  One without an interval cannot, and stops. -/
def begin (reaper : Reaper) (now : Instant) (correlator : Correlator) :
    Step Correlator Reaper :=
  if reaper.interval = 0 then
    { answer := { reaper with phase := .stopped }, after := correlator }
  else
    { answer := { reaper with phase := .waiting (now + reaper.interval) }
      after := correlator
      reports := [.logged (.reaperStarted reaper.interval)] }

def sweep (reaper : Reaper) (due now : Instant) (correlator : Correlator) :
    Step Correlator Reaper :=
  (correlator.sweep now).map fun _ =>
    { reaper with phase := .waiting (nextDue reaper.interval due now) }

/-- The reaper sees its signal, which may tell it to stop. -/
def heed (reaper : Reaper) (signal : Signal) (correlator : Correlator) :
    Step Correlator Reaper :=
  if (signal.change reaper.seen).stops then
    { answer := { reaper with phase := .stopped }
      after := correlator
      reports := [.logged .reaperStopped] }
  else
    { answer := { reaper with seen := signal.version }, after := correlator }

/-- Whether the signal has changed since the reaper saw it. -/
def isSignalled (reaper : Reaper) (signal : Signal) : Bool :=
  signal.change reaper.seen ≠ .unchanged

/-- The next step of a reaper, given the time up to which timers have gone
off.  There is none once it has stopped, and none while no sweep is due and its
signal does not change. -/
def step (reaper : Reaper) (now rung : Instant) (signal : Signal)
    (correlator : Correlator) : Option (Step Correlator Reaper) :=
  match reaper.phase with
  | .created => some (reaper.begin now correlator)
  | .waiting due =>
      if due ≤ rung then
        some (reaper.sweep due now correlator)
      else if reaper.isSignalled signal then
        some (reaper.heed signal correlator)
      else
        none
  | .stopped => none

def isReady (reaper : Reaper) (rung : Instant) (signal : Signal) : Bool :=
  match reaper.phase with
  | .created => true
  | .waiting due => due ≤ rung || reaper.isSignalled signal
  | .stopped => false

end Reaper

end Switchboard
