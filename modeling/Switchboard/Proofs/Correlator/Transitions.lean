import Switchboard.Correlator.Wait
import Switchboard.Proofs.Correlator.Records

/-!
# What operations do to a correlator

Every operation on an id touches the correlator in one of six ways.
`Touches` lists them, together with what each decides about the record it
finds.  The theorems below say which of them an operation takes, so that laws
of all operations need one case for each way and not one for each branch of
the code.
-/

namespace Switchboard

/-- What can be decided about a record. -/
inductive Decision where
  | completed (payload : String)
  | cancelled
  | timedOut
  deriving Repr, DecidableEq

/-- A decision, with the cell of the record it is about. -/
abbrev Ruling := CellId × Decision

/-- A record as it is when it is registered. -/
def Record.fresh (id : RequestId) (now : Instant) (cell : CellId) : Record :=
  { id := id, state := .pending, payload := none, createdAt := now
    cell := cell }

namespace Correlator

/-- One way in which an operation on an id touches a correlator, what it
decides, and the correlator behind it. -/
inductive Touches (id : RequestId) (before : Correlator) :
    Option Ruling → Correlator → Prop where
  | unchanged : Touches id before none before
  | registered (now : Instant) :
      before.closed = false →
      Records.find? id before.records = none →
      Touches id before none
        (({ before with cells := before.cells.issue.2 }.store id
          (.fresh id now before.cells.issued)).tallyIn .pending)
  | fulfilled (record : Record) (payload : String) :
      Records.find? id before.records = some record →
      record.state = .pending →
      Touches id before (some (record.cell, .completed payload))
        ((({ before with
            cells :=
              before.cells.settle record.cell (.reply payload) }.store id
          { record with
            state := .completed
            payload := some payload }).tallyOut .pending).tallyIn .completed)
  | cancelled (record : Record) :
      Records.find? id before.records = some record →
      record.state = .pending →
      Touches id before (some (record.cell, .cancelled))
        (({ before with
            cells := before.cells.settle record.cell .cancelled }.remove
          id).tallyOut .pending)
  | timedOut (record : Record) :
      Records.find? id before.records = some record →
      record.state = .pending →
      Touches id before (some (record.cell, .timedOut))
        ((before.store id { record with state := .timedOut }).tallyOut
          .pending)
  | collected (record : Record) :
      Records.find? id before.records = some record →
      record.state = .completed →
      Touches id before none ((before.remove id).tallyOut .completed)

/-- How attaching to an id can go: the attachment, the cell of the record that
the caller now belongs to, and the correlator behind it. -/
inductive Attaches (now : Instant) (id : RequestId) (before : Correlator) :
    Attachment → Option CellId → Correlator → Prop where
  | closed :
      before.closed = true →
      Attaches now id before (.resolved .abandoned) none before
  | joined (record : Record) :
      Records.find? id before.records = some record →
      record.state = .pending →
      Attaches now id before (.waiting record.cell) (some record.cell) before
  | collected (record : Record) :
      Records.find? id before.records = some record →
      record.state = .completed →
      Attaches now id before
        (.resolved (.completed (record.payload.getD "")))
        (some record.cell) ((before.remove id).tallyOut .completed)
  | late (record : Record) :
      Records.find? id before.records = some record →
      record.state = .timedOut →
      Attaches now id before (.resolved .timedOut) (some record.cell) before
  | cancelled (record : Record) :
      Records.find? id before.records = some record →
      record.state = .cancelled →
      Attaches now id before (.resolved .cancelled) (some record.cell) before
  | registered :
      before.closed = false →
      Records.find? id before.records = none →
      Attaches now id before (.waiting before.cells.issued)
        (some before.cells.issued)
        (({ before with cells := before.cells.issue.2 }.store id
          (.fresh id now before.cells.issued)).tallyIn .pending)

/-- The cell of the record that a caller belongs to who attaches to an id. -/
def origin (correlator : Correlator) (id : RequestId) : Option CellId :=
  if correlator.closed then
    none
  else
    match Records.find? id correlator.records with
    | some record => some record.cell
    | none => some correlator.cells.issued

theorem attach_attaches (correlator : Correlator) (now : Instant)
    (id : RequestId) :
    Attaches now id correlator (correlator.attach now id).answer
      (correlator.origin id) (correlator.attach now id).after := by
  unfold attach origin
  by_cases closed : correlator.closed = true
  · simp only [if_pos closed]
    exact .closed closed
  · have opened : correlator.closed = false := by simpa using closed
    simp only [if_neg closed]
    cases found : Records.find? id correlator.records with
    | none => exact .registered opened found
    | some record =>
        cases state : record.state with
        | pending => simpa only [state] using .joined record found state
        | completed => simpa only [state] using .collected record found state
        | timedOut => simpa only [state] using .late record found state
        | cancelled => simpa only [state] using .cancelled record found state

theorem Attaches.touches {now : Instant} {id : RequestId}
    {before after : Correlator} {attachment : Attachment}
    {origin : Option CellId}
    (attaches : Attaches now id before attachment origin after) :
    Touches id before none after := by
  cases attaches with
  | closed _ => exact .unchanged
  | joined _ _ _ => exact .unchanged
  | collected record found completed => exact .collected record found completed
  | late _ _ _ => exact .unchanged
  | cancelled _ _ _ => exact .unchanged
  | registered opened absent => exact .registered now opened absent

theorem attach_touches (correlator : Correlator) (now : Instant)
    (id : RequestId) :
    Touches id correlator none (correlator.attach now id).after :=
  (correlator.attach_attaches now id).touches

/-- What a reply decides, given whether it was taken. -/
def replyRuling (correlator : Correlator) (id : RequestId)
    (payload : String) (taken : Bool) : Option Ruling :=
  if taken then
    (Records.find? id correlator.records).map fun record =>
      (record.cell, .completed payload)
  else
    none

theorem complete_touches (correlator : Correlator) (now : Instant)
    (id : RequestId) (payload : String) :
    Touches id correlator
      (correlator.replyRuling id payload
        (correlator.complete now id payload).answer)
      (correlator.complete now id payload).after := by
  unfold complete replyRuling
  by_cases closed : correlator.closed = true
  · simp only [if_pos closed]
    exact .unchanged
  · simp only [if_neg closed]
    cases found : Records.find? id correlator.records with
    | none => exact .unchanged
    | some record =>
        by_cases pending : record.state = .pending
        · simpa [Record.fulfil, pending] using
            .fulfilled record payload found pending
        · simpa [Record.fulfil, pending] using .unchanged

/-- What a cancellation decides, given whether it went through. -/
def cancelRuling (correlator : Correlator) (id : RequestId)
    (cancelled : Bool) : Option Ruling :=
  if cancelled then
    (Records.find? id correlator.records).map fun record =>
      (record.cell, .cancelled)
  else
    none

theorem cancel_touches (correlator : Correlator) (id : RequestId) :
    Touches id correlator
      (correlator.cancelRuling id (correlator.cancel id).answer)
      (correlator.cancel id).after := by
  unfold cancel cancelRuling
  cases found : Records.find? id correlator.records with
  | none => exact .unchanged
  | some record =>
      by_cases pending : record.state = .pending
      · simpa [Record.cancel, pending] using
          .cancelled record found pending
      · simpa [Record.cancel, pending] using .unchanged

theorem collect_touches (correlator : Correlator) (id : RequestId)
    (settlement : Settlement) :
    Touches id correlator none (correlator.collect id settlement).after := by
  cases settlement with
  | reply payload =>
      unfold collect
      by_cases completed : correlator.state? id = some .completed
      · simp only [completed, if_true]
        obtain ⟨record, found, state⟩ := Option.map_eq_some_iff.mp completed
        exact .collected record found state
      · simp only [completed, if_false]
        exact .unchanged
  | cancelled => exact .unchanged
  | expired => exact .unchanged
  | shutdown => exact .unchanged

@[simp]
theorem answer_collect (correlator : Correlator) (id : RequestId)
    (settlement : Settlement) :
    (correlator.collect id settlement).answer = settlement.outcome := by
  cases settlement with
  | reply payload =>
      unfold collect
      dsimp only
      split <;> rfl
  | cancelled => rfl
  | expired => rfl
  | shutdown => rfl

end Correlator

end Switchboard
