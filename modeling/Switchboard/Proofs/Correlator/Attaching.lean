import Switchboard.Proofs.Correlator.Polling

/-!
# What attaching gives a caller

A caller who attaches to an id belongs to the record that is stored under it,
or to the one that is made for it.  The caller is told the outcome at once, or
waits on that record's cell.
-/

namespace Switchboard

namespace Correlator

variable {now : Instant} {id : RequestId} {before after : Correlator}
  {attachment : Attachment} {origin : Option CellId}

theorem Attaches.origin_issued (sound : before.Sound)
    (attaches : Attaches now id before attachment origin after)
    {cell : CellId} (own : origin = some cell) :
    cell < after.cells.issued := by
  cases attaches with
  | closed _ => cases own
  | joined record found _ =>
      cases own
      exact (sound.records found).issued
  | collected record found _ =>
      cases own
      simpa [remove] using (sound.records found).issued
  | late record found _ =>
      cases own
      exact (sound.records found).issued
  | cancelled record found _ =>
      cases own
      exact (sound.records found).issued
  | registered _ _ =>
      cases own
      simp [store, Cells.issue]

/-- A caller who is told to wait waits on the cell of the id's record. -/
theorem Attaches.attached (sound : before.Sound)
    (attaches : Attaches now id before attachment origin after)
    {cell : CellId} (waits : attachment = .waiting cell) :
    origin = some cell ∧ after.Attached id cell := by
  cases attaches with
  | closed _ => cases waits
  | joined record found _ =>
      cases waits
      exact ⟨rfl, (sound.records found).issued, .inr ⟨record, found, rfl⟩⟩
  | collected record found _ => cases waits
  | late record found _ => cases waits
  | cancelled record found _ => cases waits
  | registered _ _ =>
      cases waits
      refine ⟨rfl, by simp [store, Cells.issue],
        .inr ⟨.fresh id now before.cells.issued, ?_, rfl⟩⟩
      simpa [store] using Records.find?_put_self id _ before.records

theorem Attaches.answer_ne_cancelled (sound : before.Sound)
    (attaches : Attaches now id before attachment origin after) :
    attachment ≠ .resolved .cancelled := by
  cases attaches with
  | cancelled record found cancelled =>
      exact ((sound.records found).uncancelled cancelled).elim
  | _ => simp

theorem Attaches.payload_of_completed (sound : before.Sound)
    (attaches : Attaches now id before attachment origin after)
    {payload : String}
    (handed : attachment = .resolved (.completed payload)) :
    ∃ record, (id, record) ∈ before.records ∧
      record.payload = some payload := by
  cases attaches with
  | collected record found completed =>
      obtain ⟨stored, isStored, _⟩ := (sound.records found).completed completed
      have same : stored = payload := by simpa [isStored] using handed
      exact ⟨record, Records.mem_of_find? found, same ▸ isStored⟩
  | _ => simp at handed

/-- Records get later cells as they replace each other. -/
theorem Attaches.origin_le
    (attaches : Attaches now id before attachment origin after)
    {cell : CellId} {record : Record} (own : origin = some cell)
    (found : Records.find? id after.records = some record) :
    cell ≤ record.cell := by
  cases attaches with
  | closed _ => cases own
  | joined held heldFound _ =>
      cases own
      rw [heldFound] at found
      cases found
      exact Nat.le_refl _
  | collected held _ _ => simp [remove, Records.find?_erase_self] at found
  | late held heldFound _ =>
      cases own
      rw [heldFound] at found
      cases found
      exact Nat.le_refl _
  | cancelled held heldFound _ =>
      cases own
      rw [heldFound] at found
      cases found
      exact Nat.le_refl _
  | registered _ _ =>
      cases own
      have equal : Record.fresh id now before.cells.issued = record := by
        simpa [store, Records.find?_put_self] using found
      rw [← equal]
      exact Nat.le_refl _

end Correlator

/-- A stage that follows from an attachment. -/
def Stage.ComesFrom (attachment : Attachment) (stage : Stage) : Prop :=
  match attachment with
  | .resolved outcome => stage.known? = some outcome
  | .waiting cell => stage.cell? = some cell

theorem Stage.ComesFrom.waiting {attachment : Attachment} {stage : Stage}
    (comes : stage.ComesFrom attachment) {cell : CellId}
    (waits : stage.cell? = some cell) : attachment = .waiting cell := by
  cases attachment with
  | resolved outcome =>
      rw [Stage.cell?_eq_none_of_known? comes] at waits
      cases waits
  | waiting held =>
      have same : held = cell := Option.some.inj (comes.symm.trans waits)
      rw [same]

theorem Stage.ComesFrom.resolved {attachment : Attachment} {stage : Stage}
    (comes : stage.ComesFrom attachment) {outcome : Outcome}
    (known : stage.known? = some outcome) :
    attachment = .resolved outcome := by
  cases attachment with
  | resolved held =>
      have same : held = outcome := Option.some.inj (comes.symm.trans known)
      rw [same]
  | waiting cell =>
      have waits : stage.cell? = some cell := comes
      rw [Stage.cell?_eq_none_of_known? known] at waits
      cases waits

/-- A wait that is not refused attaches, and stands where the attachment
puts it. -/
theorem Correlator.comesFrom_startWait (correlator : Correlator)
    (now : Instant) (id : RequestId) (timeout : Nat) {stage : Stage}
    (started :
      (correlator.startWait now id timeout).answer.stage? = some stage) :
    (correlator.startWait now id timeout).after =
        (correlator.attach now id).after ∧
      stage.IsFor id ∧
        stage.ComesFrom (correlator.attach now id).answer := by
  by_cases zero : timeout = 0
  · simp [startWait, zero, WaitStart.stage?] at started
  · refine ⟨by simp [startWait, zero], ?_⟩
    simp only [startWait, if_neg zero, Step.answer_map] at started
    cases answer : (correlator.attach now id).answer with
    | resolved outcome =>
        simp only [answer, WaitStart.stage?] at started
        cases started
        exact ⟨trivial, rfl⟩
    | waiting cell =>
        simp only [answer, WaitStart.stage?] at started
        cases started
        exact ⟨rfl, rfl⟩

theorem Correlator.comesFrom_openHandle (correlator : Correlator)
    (now : Instant) (id : RequestId) :
    (Stage.holding (correlator.openHandle now id).answer).IsFor id ∧
      (Stage.holding (correlator.openHandle now id).answer).ComesFrom
        (correlator.attach now id).answer := by
  simp only [openHandle, Step.answer_map]
  cases (correlator.attach now id).answer with
  | resolved outcome => exact ⟨rfl, rfl⟩
  | waiting cell => exact ⟨rfl, rfl⟩

end Switchboard
