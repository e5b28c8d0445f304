import Switchboard.Client
import Switchboard.Engine.Basic
import Switchboard.Scenario.Script

/-!
# The world of a script

A script is played on a virtual clock with one thread.  The world holds the
engine or its bare parts, the tasks, and which of the tasks are ready to run,
in the order in which they became ready.  The clock may run ahead of the
timers: a timer goes off when the tasks make room for it, not at once when its
time has come.
-/

namespace Switchboard.Scenario

/-- Which signal a background task watches. -/
inductive SignalSource where
  | engine
  | shared (number : Nat)
  deriving Repr, DecidableEq

/-- What a caller makes of the outcome of a wait. -/
inductive Purpose where
  | outcome
  | result
  deriving Repr, DecidableEq

/-- A request that is being sent. -/
structure Sending where
  call : Call
  purpose : Purpose
  transport : Transport
  /-- When the transport is done with the frame. -/
  doneAt : Instant

/-- What a task is about. -/
inductive Activity where
  | wait (wait : Wait)
  | follow (handle : Handle) (deadline : Option Instant) (purpose : Purpose)
  | send (sending : Sending)
  | drain (source : SignalSource) (drain : Drain)
  | reaper (source : SignalSource) (reaper : Reaper)

structure Task where
  activity : Activity
  /-- The number of the waiter whose task this is. -/
  waiter : Option Nat := none
  /-- Whether the task has not run yet. -/
  fresh : Bool := true
  aborted : Bool := false
  ended : Bool := false
  /-- Whether the task keeps the engine alive. -/
  holdsEngine : Bool := false
  /-- How many timers had been set before the one of the task. -/
  timer : Nat := 0

/-- A waiter's task that has ended. -/
structure Woken where
  waiter : Nat
  time : Instant
  ending : Ending

/-- The engine, or the parts of one that is gone or never was. -/
inductive Board where
  | whole (engine : Engine)
  | parts (hub : Hub) (signal : Signal)

structure World where
  board : Board
  recorder : Recorder
  client : Client
  now : Instant := 0
  /-- The time up to which timers have gone off. -/
  rung : Instant := 0
  /-- How many timers have been set. -/
  timers : Nat := 0
  /-- Whether the script holds on to the engine. -/
  holdsEngine : Bool
  transport : Transport := {}
  /-- The handles by number, those that are used up left empty. -/
  handles : List (Option Handle) := []
  tasks : List Task := []
  /-- The waiters by number, with the tasks of those that have one. -/
  waiters : List (Option TaskId) := []
  ready : List TaskId := []
  /-- The batch that was taken last. -/
  kept : List String := []
  signals : List Signal := []
  /-- The background tasks that the script started itself. -/
  spawned : List TaskId := []
  /-- What has been reported in this step, the last report first. -/
  reports : List Report := []
  /-- The waiters that ended in this step. -/
  woken : List Woken := []

namespace Board

def hub : Board → Hub
  | .whole engine => engine.hub
  | .parts hub _ => hub

def setHub (board : Board) (hub : Hub) : Board :=
  match board with
  | .whole engine => .whole { engine with hub := hub }
  | .parts _ signal => .parts hub signal

/-- The signal that the tasks of the engine watch. -/
def signal : Board → Signal
  | .whole engine => engine.signal
  | .parts _ signal => signal

/-- The board once the engine is gone. -/
def dropEngine : Board → Board
  | .whole engine => .parts engine.hub engine.dropped
  | .parts hub signal => .parts hub signal

end Board

namespace World

def hub (world : World) : Hub :=
  world.board.hub

/-- The engine that the script holds. -/
def engine? (world : World) : Option Engine :=
  match world.board with
  | .whole engine => if world.holdsEngine then some engine else none
  | .parts _ _ => none

def signalOf (world : World) : SignalSource → Signal
  | .engine => world.board.signal
  | .shared number => (world.signals[number]?).getD {}

/-- When a task wants to run again on account of the time. -/
def dueTime (activity : Activity) : Option Instant :=
  match activity with
  | .wait wait => some wait.deadline
  | .follow _ deadline _ => deadline
  | .send sending => some sending.doneAt
  | .drain _ _ => none
  | .reaper _ reaper => reaper.due?

/-- Whether the timer of an activity has gone off. -/
def isDue (world : World) (activity : Activity) : Bool :=
  (dueTime activity).any (· ≤ world.rung)

/-- Whether a waiter on a cell has something to see. -/
def cellReady (world : World) (cell : CellId) : Bool :=
  world.hub.correlator.view cell ≠ .unsettled

/-- Whether an activity has something to run for. -/
def activityReady (world : World) (activity : Activity) : Bool :=
  world.isDue activity ||
    match activity with
    | .wait wait => world.cellReady wait.cell
    | .follow handle _ _ =>
        match handle.source with
        | .ready _ => true
        | .waiting cell => world.cellReady cell
    | .send _ => false
    | .drain source drain =>
        drain.isReady (world.signalOf source) world.hub
    | .reaper source reaper =>
        reaper.isReady world.rung (world.signalOf source)

/-- Whether a task can run. -/
def isReady (world : World) (task : Task) : Bool :=
  !task.ended &&
    (task.fresh || task.aborted || world.activityReady task.activity)

/-- Where a task stands among those that become ready together: by its time
and then by its timer if that has gone off, and otherwise by the turn in which
its cell settled.  Background tasks that are signalled come first. -/
def turn (world : World) (task : Task) : Nat × Nat :=
  let settledAt := fun (cell : CellId) =>
    1 + world.hub.correlator.cells.settled.findIdx fun entry =>
      entry.1 = cell
  match dueTime task.activity with
  | some due =>
      if due ≤ world.rung then
        (due, task.timer)
      else
        (other settledAt task.activity, 0)
  | none => (other settledAt task.activity, 0)
where
  other (settledAt : CellId → Nat) : Activity → Nat
    | .wait wait => settledAt wait.cell
    | .follow handle _ _ =>
        match handle.source with
        | .waiting cell => settledAt cell
        | .ready _ => 0
    | .send _ => 0
    | .drain _ _ => 0
    | .reaper _ _ => 0

/-- The world with the tasks that can run now lined up behind those that
already could. -/
def lineUp (world : World) : World :=
  let fresh := world.tasks.zipIdx.filter fun (task, number) =>
    !world.ready.contains number && world.isReady task
  let order := compareLex (compareOn Prod.fst) (compareOn Prod.snd)
  let ordered := fresh.mergeSort fun first second =>
    (order (world.turn first.1) (world.turn second.1)).isLE
  { world with ready := world.ready ++ ordered.map (·.2) }

/-- Adds reports, and hands the measurements among them to the recorder. -/
def report (world : World) (reports : List Report) : World :=
  let recorder := reports.foldl
    (fun recorder report =>
      match report with
      | .measured measurement => recorder.record measurement
      | _ => recorder)
    world.recorder
  { world with
    recorder := recorder
    reports := reports.reverse ++ world.reports }

/-- The world with a task changed. -/
def changeTask (world : World) (number : TaskId)
    (change : Task → Task) : World :=
  { world with tasks := world.tasks.modify number change }

/-- The world with a task put into an activity.  If that has another due time,
a timer is set for it. -/
def changeActivity (world : World) (number : TaskId)
    (activity : Activity) : World :=
  let changed := world.changeTask number fun task =>
    { task with
      activity := activity
      timer :=
        if dueTime activity = dueTime task.activity then
          task.timer
        else
          world.timers }
  { changed with timers := world.timers + 1 }

/-- The world in which all timers up to now have gone off. -/
def ring (world : World) : World :=
  { world with rung := world.now }.lineUp

/-- The world at a later time, with all timers up to then gone off. -/
def goTo (world : World) (time : Instant) : World :=
  { world with now := time }.ring

/-- Whether a background task of the engine has not ended. -/
def isServed (world : World) : Bool :=
  world.tasks.any fun task =>
    !task.ended &&
      match task.activity with
      | .drain .engine _ => true
      | .reaper .engine _ => true
      | _ => false

/-- Drops the engine once neither the script nor a task holds it. -/
def releaseEngine (world : World) : World :=
  let held := world.holdsEngine ||
    world.tasks.any fun task => task.holdsEngine && !task.ended
  if held then world else { world with board := world.board.dropEngine }

/-- The earliest time after now at which a task wants to run. -/
def nextDue (world : World) : Option Instant :=
  let times := world.tasks.filterMap fun task =>
    if task.ended then none else dueTime task.activity
  (times.filter fun time => world.now < time).min?

end World

/-- Part of the play of a script. -/
abbrev Play := StateM World

namespace Play

def onHub {α : Type} (operation : Hub → Step Hub α) : Play α := do
  let world ← get
  let step := operation world.hub
  set
    (({ world with board := world.board.setHub step.after }.report
      step.reports).lineUp)
  pure step.answer

def onCorrelator {α : Type}
    (operation : Correlator → Step Correlator α) : Play α :=
  onHub (·.onCorrelator operation)

def onDispatcher {α : Type}
    (operation : Dispatcher → Step Dispatcher α) : Play α :=
  onHub (·.onDispatcher operation)

/-- Reports one notice. -/
def log (notice : Notice) : Play Unit :=
  modify (·.report [.logged notice])

def spawn (task : Task) : Play TaskId := do
  let world ← get
  set
    ({ world with
      tasks := world.tasks ++ [{ task with timer := world.timers }]
      timers := world.timers + 1 }.lineUp)
  pure world.tasks.length

end Play

end Switchboard.Scenario
