import Switchboard.Correlator.Cells
import Switchboard.Request.Id
import Switchboard.Request.Outcome

/-!
# Records of requests

A record follows one request from its registration to its removal.  It owns a
cell, through which its waiters learn how the request ended.
-/

namespace Switchboard

/-- A point in time, in milliseconds. -/
abbrev Instant := Nat

structure Record where
  id : RequestId
  state : RequestState
  payload : Option String
  createdAt : Instant
  cell : CellId
  deriving Repr, DecidableEq

namespace Record

/-- How old a record is.  Before its creation it has no age. -/
def age (record : Record) (now : Instant) : Nat :=
  now - record.createdAt

/-- A pending record takes its reply. -/
def fulfil (record : Record) (cells : Cells) (payload : String) :
    Option (Record × Cells) :=
  if record.state = .pending then
    some
      ({ record with state := .completed, payload := some payload },
        cells.settle record.cell (.reply payload))
  else
    none

/-- A pending record is marked as timed out.  Its cell stays unsettled. -/
def timeOut (record : Record) : Option Record :=
  if record.state = .pending then
    some { record with state := .timedOut }
  else
    none

/-- A pending record is cancelled. -/
def cancel (record : Record) (cells : Cells) : Option (Record × Cells) :=
  if record.state = .pending then
    some
      ({ record with state := .cancelled },
        cells.settle record.cell .cancelled)
  else
    none

end Record

/-- Records by id, each id once. -/
abbrev Records := List (RequestId × Record)

namespace Records

/-- The record stored under an id. -/
def find? (id : RequestId) (records : Records) : Option Record :=
  records.lookup id

/-- Stores a record under an id, in place of the one that is there. -/
def put (id : RequestId) (record : Record) : Records → Records
  | [] => [(id, record)]
  | (other, held) :: rest =>
      if id = other then
        (id, record) :: rest
      else
        (other, held) :: put id record rest

/-- Removes what is stored under an id. -/
def erase (id : RequestId) (records : Records) : Records :=
  records.filter fun entry => entry.1 ≠ id

theorem find?_cons (id other : RequestId) (record : Record)
    (records : Records) :
    find? id ((other, record) :: records) =
      if id = other then some record else find? id records := by
  by_cases same : id = other
  · simp [find?, same]
  · have unequal : (id == other) = false := by simpa using same
    simp [find?, List.lookup_cons, same, unequal]

theorem find?_put_self (id : RequestId) (record : Record)
    (records : Records) :
    find? id (put id record records) = some record := by
  induction records with
  | nil => simp [put, find?_cons]
  | cons entry rest induction =>
      obtain ⟨other, held⟩ := entry
      by_cases same : id = other <;>
        simp [put, find?_cons, same, induction]

theorem find?_put_of_ne {id other : RequestId} (different : other ≠ id)
    (record : Record) (records : Records) :
    find? other (put id record records) = find? other records := by
  induction records with
  | nil => simp [put, find?_cons, different]
  | cons entry rest induction =>
      obtain ⟨next, held⟩ := entry
      by_cases same : id = next
      · subst same
        simp [put, find?_cons, different]
      · simp [put, find?_cons, same, induction]

theorem find?_erase_self (id : RequestId) (records : Records) :
    find? id (erase id records) = none := by
  induction records with
  | nil => rfl
  | cons entry rest induction =>
      obtain ⟨other, held⟩ := entry
      by_cases same : other = id
      · simpa [erase, same] using induction
      · have apart : id ≠ other := fun equal => same equal.symm
        simpa [erase, same, find?_cons, apart] using induction

theorem find?_erase_of_ne {id other : RequestId} (different : other ≠ id)
    (records : Records) :
    find? other (erase id records) = find? other records := by
  induction records with
  | nil => rfl
  | cons entry rest induction =>
      obtain ⟨next, held⟩ := entry
      by_cases removed : next = id
      · subst removed
        simpa [erase, find?_cons, different] using induction
      · have kept :
            erase id ((next, held) :: rest) =
              (next, held) :: erase id rest := by
          simp [erase, removed]
        rw [kept, find?_cons, find?_cons, induction]

/-- How many records are in a state. -/
def countIn (state : RequestState) (records : Records) : Nat :=
  records.countP fun entry => entry.2.state = state

/-- Settles the cells of records that are not settled yet.  Gives the records
whose waiters it let go. -/
def release (reason : Settlement) (cells : Cells) :
    Records → List Record × Cells
  | [] => ([], cells)
  | (_, record) :: rest =>
      if cells.isSettled record.cell then
        release reason cells rest
      else
        let (released, settled) :=
          release reason (cells.settle record.cell reason) rest
        (record :: released, settled)

end Records

end Switchboard
