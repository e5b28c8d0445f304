import Switchboard.Correlator.Record
import Switchboard.Report

/-!
# The correlator

The correlator holds a record for each request in flight.  Every operation is
one atomic step.  Two tallies count the pending and the completed records as
they come and go.
-/

namespace Switchboard

structure Correlator where
  records : Records := []
  cells : Cells := {}
  /-- Tally of the pending records. -/
  pending : UInt64 := 0
  /-- Tally of the completed records. -/
  completed : UInt64 := 0
  closed : Bool := false
  defaultTimeout : Nat
  maxRecordAge : Nat
  deriving Repr, DecidableEq

/-- What attaching to a record gives: an outcome at once, or a cell to wait
on. -/
inductive Attachment where
  | resolved (outcome : Outcome)
  | waiting (cell : CellId)
  deriving Repr, DecidableEq

namespace Correlator

def count (correlator : Correlator) : Nat :=
  correlator.records.length

def state? (correlator : Correlator) (id : RequestId) :
    Option RequestState :=
  (Records.find? id correlator.records).map (·.state)

/-- Whether a record in the map still owns a cell. -/
def owns (correlator : Correlator) (cell : CellId) : Bool :=
  correlator.records.any fun entry => entry.2.cell = cell

/-- A record leaves a state, or the map. -/
def tallyOut (correlator : Correlator) : RequestState → Correlator
  | .pending => { correlator with pending := correlator.pending - 1 }
  | .completed => { correlator with completed := correlator.completed - 1 }
  | .timedOut => correlator
  | .cancelled => correlator

/-- A record enters a state. -/
def tallyIn (correlator : Correlator) : RequestState → Correlator
  | .pending => { correlator with pending := correlator.pending + 1 }
  | .completed => { correlator with completed := correlator.completed + 1 }
  | .timedOut => correlator
  | .cancelled => correlator

def remove (correlator : Correlator) (id : RequestId) : Correlator :=
  { correlator with records := Records.erase id correlator.records }

/-- The correlator with a record stored under an id. -/
def store (correlator : Correlator) (id : RequestId)
    (record : Record) : Correlator :=
  { correlator with records := Records.put id record correlator.records }

@[simp]
theorem records_tallyOut (correlator : Correlator) (state : RequestState) :
    (correlator.tallyOut state).records = correlator.records := by
  cases state <;> rfl

@[simp]
theorem cells_tallyOut (correlator : Correlator) (state : RequestState) :
    (correlator.tallyOut state).cells = correlator.cells := by
  cases state <;> rfl

@[simp]
theorem closed_tallyOut (correlator : Correlator) (state : RequestState) :
    (correlator.tallyOut state).closed = correlator.closed := by
  cases state <;> rfl

@[simp]
theorem defaultTimeout_tallyOut (correlator : Correlator)
    (state : RequestState) :
    (correlator.tallyOut state).defaultTimeout =
      correlator.defaultTimeout := by
  cases state <;> rfl

@[simp]
theorem maxRecordAge_tallyOut (correlator : Correlator)
    (state : RequestState) :
    (correlator.tallyOut state).maxRecordAge = correlator.maxRecordAge := by
  cases state <;> rfl

@[simp]
theorem records_tallyIn (correlator : Correlator) (state : RequestState) :
    (correlator.tallyIn state).records = correlator.records := by
  cases state <;> rfl

@[simp]
theorem cells_tallyIn (correlator : Correlator) (state : RequestState) :
    (correlator.tallyIn state).cells = correlator.cells := by
  cases state <;> rfl

@[simp]
theorem closed_tallyIn (correlator : Correlator) (state : RequestState) :
    (correlator.tallyIn state).closed = correlator.closed := by
  cases state <;> rfl

@[simp]
theorem defaultTimeout_tallyIn (correlator : Correlator)
    (state : RequestState) :
    (correlator.tallyIn state).defaultTimeout =
      correlator.defaultTimeout := by
  cases state <;> rfl

@[simp]
theorem maxRecordAge_tallyIn (correlator : Correlator)
    (state : RequestState) :
    (correlator.tallyIn state).maxRecordAge = correlator.maxRecordAge := by
  cases state <;> rfl

/-- Attaches to the record of an id, which is made if there is none.  A
completed record is handed over and removed. -/
def attach (correlator : Correlator) (now : Instant) (id : RequestId) :
    Step Correlator Attachment :=
  if correlator.closed then
    { answer := .resolved .abandoned, after := correlator }
  else
    match Records.find? id correlator.records with
    | some record =>
        match record.state with
        | .pending => { answer := .waiting record.cell, after := correlator }
        | .completed =>
            { answer := .resolved (.completed (record.payload.getD ""))
              after := (correlator.remove id).tallyOut .completed
              reports := [.logged (.collected id)] }
        | .timedOut => { answer := .resolved .timedOut, after := correlator }
        | .cancelled =>
            { answer := .resolved .cancelled, after := correlator }
    | none =>
        let (cell, cells) := correlator.cells.issue
        let record : Record :=
          { id := id, state := .pending, payload := none, createdAt := now
            cell := cell }
        { answer := .waiting cell
          after :=
            ({ correlator with cells := cells }.store id record).tallyIn
              .pending
          reports := [.measured .registered, .logged (.registered id)] }

/-- Delivers the reply to a request.  Only a pending request takes it. -/
def complete (correlator : Correlator) (now : Instant) (id : RequestId)
    (payload : String) : Step Correlator Bool :=
  if correlator.closed then
    { answer := false, after := correlator
      reports := [.logged (.replyAfterShutdown id)] }
  else
    match Records.find? id correlator.records with
    | none =>
        { answer := false, after := correlator
          reports := [.measured .lateReply, .logged (.replyUnknown id)] }
    | some record =>
        match record.fulfil correlator.cells payload with
        | some (fulfilled, cells) =>
            let latency := Span.ofMillis (record.age now)
            { answer := true
              after :=
                (({ correlator with cells := cells }.store id
                  fulfilled).tallyOut record.state).tallyIn .completed
              reports :=
                [.measured (.completed latency),
                  .logged (.completed id latency.micros)] }
        | none =>
            { answer := false, after := correlator
              reports :=
                [.measured .lateReply,
                  .logged (.replyNotPending id record.state)] }

/-- Cancels a pending request and removes its record. -/
def cancel (correlator : Correlator) (id : RequestId) :
    Step Correlator Bool :=
  match Records.find? id correlator.records with
  | none => { answer := false, after := correlator }
  | some record =>
      match record.cancel correlator.cells with
      | none => { answer := false, after := correlator }
      | some (_, cells) =>
          { answer := true
            after :=
              ({ correlator with cells := cells }.remove id).tallyOut .pending
            reports := [.measured .cancelled, .logged (.cancelled id)] }

/-- Removes the completed records that nobody collected. -/
def dropCompleted (correlator : Correlator) : Step Correlator Nat :=
  let kept := correlator.records.filter fun entry =>
    entry.2.state ≠ .completed
  let removed := correlator.records.length - kept.length
  { answer := removed
    after := { correlator with records := kept, completed := 0 }
    reports :=
      if removed = 0 then [] else [.logged (.completedCleared removed)] }

/-- Whether a sweep keeps a record: it is pending and not over age. -/
def keeps (correlator : Correlator) (now : Instant)
    (record : Record) : Bool :=
  record.age now ≤ correlator.maxRecordAge && record.state = .pending

/-- Removes the records that are over age or no longer pending, and lets their
waiters go. -/
def sweep (correlator : Correlator) (now : Instant) :
    Step Correlator Nat :=
  let stale := correlator.records.filter fun entry =>
    !correlator.keeps now entry.2
  let kept := correlator.records.filter fun entry =>
    correlator.keeps now entry.2
  let (released, cells) :=
    Records.release .expired correlator.cells stale
  let tallied := stale.foldl
    (fun counted entry => counted.tallyOut entry.2.state) correlator
  let removed := stale.length
  let remaining := kept.length
  { answer := removed
    after := { tallied with records := kept, cells := cells }
    reports :=
      (released.map fun record =>
        .logged (.reaping record.id record.state (record.age now))) ++
      [.measured (.reaped removed), .measured (.inFlight remaining)] ++
      (if removed = 0 then [] else [.logged (.reaped removed remaining)]) }

/-- Lets every waiter go and empties the map for good. -/
def shutDown (correlator : Correlator) : Step Correlator Nat :=
  let (released, cells) :=
    Records.release .shutdown correlator.cells correlator.records
  { answer := released.length
    after :=
      { correlator with
        records := []
        cells := cells
        pending := 0
        completed := 0
        closed := true }
    reports :=
      [.measured (.inFlight 0),
        .logged (.correlatorShutDown released.length)] }

/-- Turns a settlement into an outcome.  A reply takes a completed record with
it. -/
def collect (correlator : Correlator) (id : RequestId)
    (settlement : Settlement) : Step Correlator Outcome :=
  match settlement with
  | .reply _ =>
      if correlator.state? id = some .completed then
        { answer := settlement.outcome
          after := (correlator.remove id).tallyOut .completed }
      else
        { answer := settlement.outcome, after := correlator }
  | _ => { answer := settlement.outcome, after := correlator }

/-- Ends a wait whose deadline has passed. -/
def expire (correlator : Correlator) (id : RequestId) :
    Step Correlator Outcome :=
  match Records.find? id correlator.records with
  | none => { answer := .timedOut, after := correlator }
  | some record =>
      match record.state with
      | .pending =>
          { answer := .timedOut
            after :=
              (correlator.store id
                (record.timeOut.getD record)).tallyOut .pending
            reports := [.measured .timedOut, .logged (.waitTimedOut id)] }
      | .completed =>
          { answer := .completed (record.payload.getD "")
            after := (correlator.remove id).tallyOut .completed }
      | .timedOut => { answer := .timedOut, after := correlator }
      | .cancelled => { answer := .cancelled, after := correlator }

theorem expire_of_pending {correlator : Correlator} {id : RequestId}
    {record : Record}
    (found : Records.find? id correlator.records = some record)
    (pending : record.state = .pending) :
    correlator.expire id =
      { answer := .timedOut
        after :=
          (correlator.store id { record with state := .timedOut }).tallyOut
            .pending
        reports := [.measured .timedOut, .logged (.waitTimedOut id)] } := by
  simp [expire, found, pending, Record.timeOut]

def describe (correlator : Correlator) : String :=
  "Correlator \x7b records: " ++ toString correlator.count ++
    ", closed: " ++ toString correlator.closed ++
    ", default_timeout: " ++
    (Span.ofMillis correlator.defaultTimeout).render ++
    ", max_record_age: " ++
    (Span.ofMillis correlator.maxRecordAge).render ++ " \x7d"

end Correlator

end Switchboard
