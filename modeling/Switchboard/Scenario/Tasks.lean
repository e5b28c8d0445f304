import Switchboard.Scenario.World

/-!
# Running tasks

A task runs until it has to wait or ends.  Waiters end with an `Ending`; the
two background tasks drain the dispatcher and sweep the correlator until their
signal stops them.  Ready tasks run in rounds, and timers go off between the
rounds only.  Loops take a bound on their rounds, far above what any script
needs.
-/

namespace Switchboard.Scenario

/-- A bound on the rounds of every loop. -/
def patience : Nat := 1000000

/-- How many tasks run in one round. -/
def roundSize : Nat := 61

/-- What running a waiter's task gives. -/
inductive Progress where
  | ended (ending : Ending)
  | waiting (activity : Activity)

/-- The text with `$ID` replaced. -/
def fillId (id : List Char) : List Char → List Char
  | '$' :: 'I' :: 'D' :: rest => id ++ fillId id rest
  | letter :: rest => letter :: fillId id rest
  | [] => []

/-- What a caller makes of an outcome. -/
def Purpose.ending (purpose : Purpose) (outcome : Outcome) : Ending :=
  match purpose with
  | .outcome => .outcome outcome
  | .result =>
      match Client.result outcome with
      | .ok value => .result value
      | .error error => .failed error

namespace Play

def pollWait (wait : Wait) : Play Progress := do
  let rung := (← get).rung
  match ← onCorrelator (·.pollWait rung wait) with
  | some outcome => pure (.ended (.outcome outcome))
  | none => pure (.waiting (.wait wait))

/-- Polls a handle, with its deadline if it has one. -/
def pollFollow (handle : Handle) (deadline : Option Instant)
    (purpose : Purpose) : Play Progress := do
  let rung := (← get).rung
  let outcome ←
    match deadline with
    | none => (·.1) <$> onCorrelator (·.pollHandle handle)
    | some deadline => onCorrelator (·.pollHandleBefore rung deadline handle)
  match outcome with
  | some outcome => pure (.ended (purpose.ending outcome))
  | none => pure (.waiting (.follow handle deadline purpose))

/-- Polls a request that is being sent. -/
def pollSend (sending : Sending) : Play Progress := do
  let world ← get
  let now := world.now
  let call := sending.call
  if world.rung < sending.doneAt then
    pure (.waiting (.send sending))
  else
    match sending.transport.reply with
    | none => pure ()
    | some reply =>
        let id := Json.renderInteger call.request.id.toInt
        let frame := String.ofList (fillId id reply.toList)
        let _ ← onHub (·.route now frame)
    let failure := sending.transport.failure
    match ← onCorrelator (·.sendEnded now call failure) with
    | .error error => pure (.ended (.failed error))
    | .ok deadline =>
        pollFollow call.handle (some deadline) sending.purpose

/-- Sends a request and waits for its reply. -/
def sendRequest (request : Request) (timeout : Nat)
    (purpose : Purpose) : Play Progress := do
  let world ← get
  match ← onCorrelator (·.openCall world.now request timeout) with
  | .error error => pure (.ended (.failed error))
  | .ok call =>
      pollSend
        { call := call
          purpose := purpose
          transport := world.transport
          doneAt := world.now + world.transport.delay.getD 0 }

/-- Takes the steps of a drain until it has none.  The answer is what it waits
in, or nothing once it has stopped. -/
def runDrain (source : SignalSource) :
    Nat → Drain → Play (Option Activity)
  | 0, drain => pure (some (.drain source drain))
  | rounds + 1, drain => do
      let world ← get
      match drain.step world.now (world.signalOf source) world.hub with
      | some step => do
          let drain ← onHub fun _ => step
          runDrain source rounds drain
      | none =>
          pure
            (if drain.phase = .stopped then
              none
            else
              some (.drain source drain))

/-- Takes the steps of a reaper until it has none.  The answer is what it waits
in, or nothing once it has stopped. -/
def runReaper (source : SignalSource) :
    Nat → Reaper → Play (Option Activity)
  | 0, reaper => pure (some (.reaper source reaper))
  | rounds + 1, reaper => do
      let world ← get
      let signal := world.signalOf source
      match reaper.step world.now world.rung signal world.hub.correlator with
      | some step => do
          let reaper ← onCorrelator fun _ => step
          runReaper source rounds reaper
      | none =>
          pure
            (if reaper.phase = .stopped then
              none
            else
              some (.reaper source reaper))

def endTask (number : TaskId) : Play Unit :=
  modify fun world =>
    (world.changeTask number fun task =>
      { task with ended := true }).releaseEngine.lineUp

/-- Puts a task into the activity it waits in, or ends it. -/
def settleBackground (number : TaskId) :
    Option Activity → Play Unit
  | none => endTask number
  | some activity => modify (·.changeActivity number activity)

/-- Puts a waiter's task into the activity it waits in, or ends it. -/
def settleWaiter (number : TaskId) (waiter : Option Nat) :
    Progress → Play Unit
  | .waiting activity => settleBackground number (some activity)
  | .ended ending => do
      modify fun world =>
        { world with
          woken :=
            world.woken ++
              waiter.toList.map fun waiter => ⟨waiter, world.now, ending⟩ }
      endTask number

/-- Runs one task until it has to wait or ends. -/
def runTask (number : TaskId) : Play Unit := do
  let world ← get
  match world.tasks[number]? with
  | none => pure ()
  | some task =>
      modify (·.changeTask number fun task => { task with fresh := false })
      if task.ended then
        pure ()
      else if task.aborted then
        endTask number
      else
        match task.activity with
        | .wait wait => do
            settleWaiter number task.waiter (← pollWait wait)
        | .follow handle deadline purpose => do
            settleWaiter number task.waiter
              (← pollFollow handle deadline purpose)
        | .send sending => do
            settleWaiter number task.waiter (← pollSend sending)
        | .drain source drain => do
            settleBackground number (← runDrain source patience drain)
        | .reaper source reaper => do
            settleBackground number (← runReaper source patience reaper)

/-- Runs at most so many tasks in the order in which they became ready. -/
def runTasks : Nat → Play Unit
  | 0 => pure ()
  | tasks + 1 => do
      modify (·.lineUp)
      let world ← get
      match world.ready with
      | [] => pure ()
      | number :: rest => do
          set { world with ready := rest }
          runTask number
          runTasks tasks

/-- Runs rounds of tasks, with timers going off behind each, until no task is
ready or the world is as wanted. -/
def runUntil (wanted : World → Bool) : Nat → Play Unit
  | 0 => pure ()
  | rounds + 1 => do
      runTasks roundSize
      modify (·.ring)
      let world ← get
      if world.ready.isEmpty || wanted world then
        pure ()
      else
        runUntil wanted rounds

/-- Runs rounds of tasks until no task is ready. -/
def runReady : Play Unit :=
  runUntil (fun _ => false) patience

/-- Goes from one due time to the next up to a target, running what becomes
ready at each. -/
def advanceTo (target : Instant) : Nat → Play Unit
  | 0 => pure ()
  | rounds + 1 => do
      runReady
      match (← get).nextDue with
      | some due =>
          if due ≤ target then do
            modify (·.goTo due)
            advanceTo target rounds
          else
            modify (·.goTo target)
      | none => modify (·.goTo target)

end Play

end Switchboard.Scenario
