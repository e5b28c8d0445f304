import Switchboard.Scenario.Tasks

/-!
# Playing a script

Each command is carried out on its own; tasks run only in the commands that
let time pass, in `run`, and at a shutdown.  A step shows the answer of its
command and what happened while it was carried out.
-/

namespace Switchboard.Scenario

/-- What one step shows. -/
structure StepRecord where
  answer : Answer
  hearings : List Hearing
  /-- The waiters that ended, by number. -/
  woken : List Woken
  sent : List String
  measurements : List Measurement
  notices : List Notice
  /-- How many requests are pending, completed and held, and how many
  notifications wait. -/
  counts : List Nat

/-- What a whole script shows. -/
structure Showing where
  steps : List StepRecord
  /-- The waiters whose tasks have not ended. -/
  unresolved : List Nat
  recorder : Recorder

/-- How many requests are pending, completed and held. -/
def tallies (correlator : Correlator) : List Nat :=
  [correlator.pending.toNat, correlator.completed.toNat, correlator.count]

/-- Two notices that come in no fixed order when they stand side by side, with
the second one to be told first. -/
def toldLater : Notice → Notice → Bool
  | .reaping first _ _, .reaping second _ _ => second < first
  | .waitTimedOut first, .waitTimedOut second => second < first
  | .reaperStopped, .drainStopped => true
  | _, _ => false

/-- Puts a notice in front of others, behind those that are told before
it. -/
def placeNotice (notice : Notice) : List Notice → List Notice
  | [] => [notice]
  | other :: rest =>
      if toldLater notice other then
        other :: placeNotice notice rest
      else
        notice :: other :: rest

/-- The notices with those in no fixed order sorted. -/
def orderNotices (notices : List Notice) : List Notice :=
  notices.foldr placeNotice []

namespace Play

/-- The answer of a command that only an engine can carry out. -/
def withEngine (act : Engine → Play Answer) : Play Answer := do
  match (← get).engine? with
  | none => pure .gone
  | some engine => act engine

/-- A step of the engine. -/
def onEngine {α : Type} (step : Step Engine α) : Play α := do
  modify fun world =>
    (({ world with board := .whole step.after }.report step.reports).lineUp)
  pure step.answer

/-- Takes the next waiter number, and makes a task of a waiter that has to
wait. -/
def newWaiter (holdsEngine : Bool) (progress : Progress) : Play Answer := do
  let number := (← get).waiters.length
  match progress with
  | .ended ending => do
      modify fun world => { world with waiters := world.waiters ++ [none] }
      pure (.waiter number (some ending))
  | .waiting activity => do
      let task ← spawn
        { activity := activity
          waiter := some number
          holdsEngine := holdsEngine }
      modify fun world =>
        { world with waiters := world.waiters ++ [some task] }
      pure (.waiter number none)

/-- Starts a wait and polls it once. -/
def startWait (id : RequestId) (timeout : Nat) : Play Answer := do
  let world ← get
  let holdsEngine := world.engine?.isSome
  match ← onCorrelator (·.startWait world.now id timeout) with
  | .refused => newWaiter holdsEngine (.ended (.failed .invalidTimeout))
  | .resolved outcome => newWaiter holdsEngine (.ended (.outcome outcome))
  | .waiting wait => do newWaiter holdsEngine (← pollWait wait)

def takeHandle (number : Nat) : Play (Option Handle) := do
  let world ← get
  match world.handles[number]? with
  | some (some handle) => do
      set { world with handles := world.handles.set number none }
      pure (some handle)
  | _ => pure none

/-- Waits on a handle and polls it once. -/
def follow (number : Nat) (timeout : Option Nat) : Play Answer := do
  let now := (← get).now
  match ← takeHandle number with
  | none => pure .gone
  | some handle => do
      newWaiter false
        (← pollFollow handle (timeout.map (now + ·)) .outcome)

/-- Polls a handle that the script keeps.  One that waited is used up once it
resolves. -/
def pollOnce (number : Nat) : Play Answer := do
  match (← get).handles[number]? with
  | some (some handle) => do
      match ← onCorrelator (·.pollHandle handle) with
      | (none, _) => pure (.word "pending")
      | (some outcome, after) => do
          let kept :=
            match handle.source with
            | .ready _ => some after
            | .waiting _ => none
          modify fun world =>
            { world with handles := world.handles.set number kept }
          pure (.outcome outcome)
  | _ => pure .gone

/-- Sends a request of the client. -/
def issue (make : Client → Request × Client) (timeout : Nat)
    (purpose : Purpose) : Play Answer := do
  let world ← get
  let (request, client) := make world.client
  set { world with client := client }
  newWaiter false (← sendRequest request timeout purpose)

/-- Cancels the task of a waiter. -/
def abort (waiter : Nat) : Play Answer := do
  match (← get).waiters[waiter]? with
  | some (some task) => do
      modify fun world =>
        (world.changeTask task fun task =>
          { task with aborted := true }).lineUp
      pure (.word "aborted")
  | _ => pure .gone

/-- Starts a drain under the next task number. -/
def spawnDrain (source : SignalSource) (make : TaskId → Drain) :
    Play TaskId := do
  let number := (← get).tasks.length
  spawn { activity := .drain source (make number) }

def spawnReaper (source : SignalSource) (reaper : Reaper) : Play TaskId :=
  spawn { activity := .reaper source reaper }

def start (engine : Engine) : Play Answer := do
  match ← onEngine engine.start with
  | .error error => pure (.failed error)
  | .ok () => do
      let _ ← spawnDrain .engine engine.drain
      let _ ← spawnReaper .engine engine.reaper
      pure (.word "started")

/-- Shuts the engine down and runs what becomes ready.  The end is told behind
the round in which the tasks of the engine have ended; an engine without tasks
has nothing to wait for. -/
def shutdown (engine : Engine) : Play Answer := do
  let (released, discarded) ← onEngine engine.beginShutdown
  let stopped := Notice.engineStopped released discarded
  if engine.isRunning then
    runUntil (!·.isServed) patience
  log stopped
  runReady
  pure (.word "stopped")

def dropEngine (_ : Engine) : Play Answer := do
  modify fun world =>
    ({ world with holdsEngine := false }.releaseEngine).lineUp
  match (← get).board with
  | .whole _ => pure (.flag false)
  | .parts _ _ => pure (.flag true)

/-- The shared signal, which is made when it is first needed. -/
def sharedSignal : Play (Nat × Signal) := do
  let world ← get
  let fresh : Signal := {}
  match world.signals.getLast? with
  | some signal =>
      if signal.senderGone then do
        set { world with signals := world.signals ++ [fresh] }
        pure (world.signals.length, fresh)
      else
        pure (world.signals.length - 1, signal)
  | none => do
      set { world with signals := [fresh] }
      pure (0, fresh)

/-- Starts a background task of the script on the shared signal, given the
version of that. -/
def spawnShared (start : SignalSource → Nat → Play TaskId) :
    Play Answer := do
  let (number, signal) ← sharedSignal
  let task ← start (.shared number) signal.version
  modify fun world => { world with spawned := world.spawned ++ [task] }
  pure .nothing

/-- Changes the shared signal as long as it has a sender. -/
def changeSignal (change : Signal → Signal) : Play (Option Signal) := do
  let world ← get
  match world.signals.getLast? with
  | some signal =>
      if signal.senderGone then
        pure none
      else do
        set
          ({ world with
            signals := world.signals.dropLast ++ [change signal] }.lineUp)
        pure (some signal)
  | none => pure none

def describe (subject : Subject) : Play Answer := do
  let world ← get
  match subject with
  | .engine => withEngine fun engine => pure (.word engine.describe)
  | .correlator => pure (.word world.hub.correlator.describe)
  | .dispatcher => pure (.word world.hub.dispatcher.describe)
  | .router => pure (.word world.hub.describe)
  | .request request => pure (.word request.describe)

/-- Goes to a time at once and runs what is due by then, behind the tasks that
were ready before. -/
def jumpTo (target : Instant) : Play Unit := do
  modify fun world => { world with now := target }
  runReady

def pass (millis : Nat) (run : Instant → Play Unit) : Play Answer := do
  run ((← get).now + millis)
  pure (.count (← get).now)

/-- Carries out one command. -/
def carryOut (command : Command) : Play Answer := do
  let world ← get
  let now := world.now
  match command with
  | .wait id timeout => startWait id timeout
  | .waitDefault id =>
      startWait id world.hub.correlator.defaultTimeout
  | .openHandle id => do
      let handle ← onCorrelator (·.openHandle now id)
      modify fun world =>
        { world with handles := world.handles ++ [some handle] }
      pure (.handle world.handles.length handle)
  | .poll handle => pollOnce handle
  | .await handle => follow handle none
  | .awaitTimeout handle timeout => follow handle (some timeout)
  | .dropHandle handle => do
      match ← takeHandle handle with
      | some _ => pure (.word "dropped")
      | none => pure .gone
  | .abort waiter => abort waiter
  | .complete id payload =>
      .flag <$> onCorrelator (·.complete now id payload)
  | .cancel id => .flag <$> onCorrelator (·.cancel id)
  | .counts =>
      withEngine fun engine =>
        pure (.counts (tallies engine.hub.correlator))
  | .state id => pure (.state (world.hub.correlator.state? id))
  | .dropCompleted => .count <$> onCorrelator (·.dropCompleted)
  | .sweep time => .count <$> onCorrelator (·.sweep (time.getD now))
  | .shutDownCorrelator => .count <$> onCorrelator (·.shutDown)
  | .enqueue raw => .flag <$> onDispatcher (·.enqueue raw)
  | .dispatch raw => .flag <$> onHub (·.dispatch now raw)
  | .takeAll => do
      let batch ← onDispatcher (·.takeAll)
      modify fun world => { world with kept := batch }
      pure (.texts batch)
  | .deliverBatch => do
      modify fun world => { world with kept := [] }
      .count <$> onHub (·.deliverBatch now world.kept)
  | .close => .count <$> onDispatcher (·.close)
  | .closed =>
      pure (.flags
        [world.hub.correlator.closed, world.hub.dispatcher.closed])
  | .listen slot tag failsOn style deeds => do
      let listener := reaction slot tag failsOn style (programOf deeds)
      onDispatcher fun dispatcher =>
        { answer := (), after := dispatcher.setListener slot (some listener) }
      pure .nothing
  | .unlisten slot => do
      onDispatcher fun dispatcher =>
        { answer := (), after := dispatcher.setListener slot none }
      pure .nothing
  | .message raw => do
      match ← onHub (·.route now raw) with
      | .reply => pure (.word "reply")
      | .lateReply => pure (.word "late_reply")
      | .notification => pure (.word "notification")
      | .dropped => pure (.word "dropped")
  | .connection connected => do
      onHub (·.connectionChanged now connected)
      pure .nothing
  | .transport transport => do
      modify fun world => { world with transport := transport }
      pure .nothing
  | .call method params timeout =>
      issue (·.call method params) timeout .outcome
  | .callResult method params timeout =>
      issue (·.call method params) timeout .result
  | .subscription interest callsign event timeout =>
      issue (·.subscription interest callsign event) timeout .outcome
  | .start => withEngine start
  | .running =>
      withEngine fun engine => pure (.flag engine.isRunning)
  | .shutdown => withEngine shutdown
  | .dropEngine => do
      match world.engine? with
      | none => pure .nothing
      | some engine => dropEngine engine
  | .describe subject => describe subject
  | .spawnReaper interval =>
      spawnShared fun source seen =>
        spawnReaper source { interval := interval, seen := seen }
  | .spawnDrain =>
      spawnShared fun source seen =>
        spawnDrain source fun task => { task := task, seen := seen }
  | .signal value => do
      match ← changeSignal (·.set value) with
      | some _ => pure .nothing
      | none => pure .gone
  | .dropSignal => do
      let _ ← changeSignal (·.dropSender)
      pure .nothing
  | .tasks =>
      pure (.flags (world.spawned.map fun task =>
        (world.tasks[task]?).any (·.ended)))
  | .run => do
      runReady
      pure .nothing
  | .advance millis => pass millis fun target => advanceTo target patience
  | .jump millis => pass millis jumpTo
  | .metrics => pure (.metrics world.recorder)

/-- Carries out one command and tells what happened. -/
def step (command : Command) : Play StepRecord := do
  modify fun world => { world with reports := [], woken := [] }
  let answer ← carryOut command
  let world ← get
  let reports := world.reports.reverse
  pure
    { answer := answer
      hearings := reports.filterMap fun report =>
        match report with
        | .heard hearing => some hearing
        | _ => none
      woken := world.woken.mergeSort fun first second =>
        first.waiter ≤ second.waiter
      sent := reports.filterMap fun report =>
        match report with
        | .sent frame => some frame
        | _ => none
      measurements := reports.filterMap fun report =>
        match report with
        | .measured measurement => some measurement
        | _ => none
      notices := orderNotices
        (reports.filterMap fun report =>
          match report with
          | .logged notice => some notice
          | _ => none)
      counts := tallies world.hub.correlator ++ [world.hub.dispatcher.queued] }

end Play

/-- What a script is played on. -/
structure Setting where
  config : EngineConfig := {}
  recorder : Recorder := .silent
  /-- Whether there are only the parts of an engine. -/
  parts : Bool := false
  firstId : RequestId := 1001

/-- The world in which a script begins. -/
def Setting.world (setting : Setting) : Except CorrelationError World :=
  let client : Client := { ids := ⟨setting.firstId⟩ }
  if setting.parts then
    .ok
      { board := .parts (.ofConfig setting.config) {}
        recorder := setting.recorder
        client := client
        holdsEngine := false }
  else
    match Engine.create setting.config with
    | .error error => .error (.config error)
    | .ok engine =>
        .ok
          { board := .whole engine
            recorder := setting.recorder
            client := client
            holdsEngine := true }

/-- The waiters whose tasks have not ended. -/
def World.unresolved (world : World) : List Nat :=
  world.tasks.filterMap fun task =>
    if task.ended then none else task.waiter

def play (setting : Setting) (commands : List Command) :
    Except CorrelationError Showing := do
  let world ← setting.world
  let (steps, final) := (commands.mapM Play.step).run world
  pure
    { steps := steps
      unresolved := final.unresolved
      recorder := final.recorder }

end Switchboard.Scenario
