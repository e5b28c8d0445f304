import Switchboard.Proofs.Correlator.Session

/-!
# What a poll does

A wait, a handle and a handle with a deadline are polled by three pieces of
code.  On a cell that is settled they all collect, and on one that is not they
all expire once the time is up.  In a sound correlator the poll of an attached
caller therefore goes one of four ways, listed by `Polls`.
-/

namespace Switchboard

namespace Handle

theorem known?_of_cell?_eq_none {handle : Handle}
    (free : handle.cell? = none) : ∃ outcome, handle.known? = some outcome := by
  obtain ⟨id, source⟩ := handle
  cases source with
  | ready outcome => exact ⟨_, rfl⟩
  | waiting cell => cases free

theorem cell?_eq_none_of_known? {handle : Handle} {outcome : Outcome}
    (known : handle.known? = some outcome) : handle.cell? = none := by
  obtain ⟨id, source⟩ := handle
  cases source with
  | ready ready => rfl
  | waiting cell => cases known

end Handle

namespace Stage

theorem known?_of_cell?_eq_none {stage : Stage} (free : stage.cell? = none) :
    ∃ outcome, stage.known? = some outcome := by
  cases stage with
  | waiting wait => cases free
  | holding handle => exact Handle.known?_of_cell?_eq_none free
  | limited handle deadline => exact Handle.known?_of_cell?_eq_none free
  | ended outcome => exact ⟨outcome, rfl⟩

theorem cell?_eq_none_of_known? {stage : Stage} {outcome : Outcome}
    (known : stage.known? = some outcome) : stage.cell? = none := by
  cases stage with
  | waiting wait => cases known
  | holding handle => exact Handle.cell?_eq_none_of_known? known
  | limited handle deadline => exact Handle.cell?_eq_none_of_known? known
  | ended outcome => rfl

end Stage

namespace Correlator

theorem pollHandle_of_known (correlator : Correlator) {handle : Handle}
    {outcome : Outcome} (known : handle.known? = some outcome) :
    correlator.pollHandle handle =
      { answer := (some outcome, { handle with source := .ready none })
        after := correlator } := by
  obtain ⟨id, source⟩ := handle
  cases source with
  | ready ready =>
      cases known
      rfl
  | waiting cell => cases known

theorem pollHandle_of_settled (correlator : Correlator) {handle : Handle}
    {cell : CellId} {settlement : Settlement}
    (waits : handle.cell? = some cell)
    (seen : correlator.view cell = .settled settlement) :
    correlator.pollHandle handle =
      (correlator.collect handle.id settlement).map fun outcome =>
        (some outcome, handle) := by
  obtain ⟨id, source⟩ := handle
  cases source with
  | ready ready => cases waits
  | waiting held =>
      cases waits
      simp [pollHandle, seen]

theorem pollHandle_of_unsettled (correlator : Correlator) {handle : Handle}
    {cell : CellId} (waits : handle.cell? = some cell)
    (seen : correlator.view cell = .unsettled) :
    correlator.pollHandle handle =
      { answer := (none, handle), after := correlator } := by
  obtain ⟨id, source⟩ := handle
  cases source with
  | ready ready => cases waits
  | waiting held =>
      cases waits
      simp [pollHandle, seen]

theorem pollStage_of_known (correlator : Correlator) (rung : Instant)
    {stage : Stage} {outcome : Outcome} (active : stage.isEnded = false)
    (known : stage.known? = some outcome) :
    correlator.pollStage rung stage =
      { answer := some outcome, after := correlator } := by
  cases stage with
  | waiting wait => cases known
  | holding handle =>
      simp [pollStage, correlator.pollHandle_of_known known, Step.map]
  | limited handle deadline =>
      simp [pollStage, pollHandleBefore, correlator.pollHandle_of_known known]
  | ended ended => cases active

/-- The poll of a caller who does not wait on a cell leaves the correlator
alone. -/
theorem after_pollStage_of_free (correlator : Correlator) (rung : Instant)
    {stage : Stage} (free : stage.cell? = none) :
    (correlator.pollStage rung stage).after = correlator := by
  cases ended : stage.isEnded with
  | true =>
      cases stage with
      | ended outcome => rfl
      | _ => cases ended
  | false =>
      obtain ⟨outcome, known⟩ := Stage.known?_of_cell?_eq_none free
      rw [correlator.pollStage_of_known rung ended known]

theorem known?_of_answer_pollStage {correlator : Correlator} {rung : Instant}
    {stage : Stage} {outcome : Outcome} (free : stage.cell? = none)
    (answered : (correlator.pollStage rung stage).answer = some outcome) :
    stage.known? = some outcome := by
  cases ended : stage.isEnded with
  | true =>
      cases stage with
      | ended known => cases answered
      | _ => cases ended
  | false =>
      obtain ⟨known, isKnown⟩ := Stage.known?_of_cell?_eq_none free
      rw [correlator.pollStage_of_known rung ended isKnown] at answered
      exact isKnown.trans answered

theorem pollStage_of_settled (correlator : Correlator) (rung : Instant)
    {stage : Stage} {id : RequestId} {cell : CellId}
    {settlement : Settlement} (mine : stage.IsFor id)
    (waits : stage.cell? = some cell)
    (settled : correlator.cells.settlement? cell = some settlement) :
    correlator.pollStage rung stage =
      (correlator.collect id settlement).map some := by
  have seen : correlator.view cell = .settled settlement := by
    simp [view, settled]
  cases stage with
  | waiting wait =>
      cases waits
      cases mine
      simp [pollStage, pollWait, seen]
  | holding handle =>
      cases mine
      simp [pollStage, correlator.pollHandle_of_settled waits seen, Step.map]
  | limited handle deadline =>
      cases mine
      simp [pollStage, pollHandleBefore,
        correlator.pollHandle_of_settled waits seen, Step.map]
  | ended outcome => cases waits

/-- On an unsettled cell with an owner every poll waits until the time is
up, and then expires. -/
theorem pollStage_of_unsettled (correlator : Correlator) (rung : Instant)
    {stage : Stage} {id : RequestId} {cell : CellId}
    (mine : stage.IsFor id) (waits : stage.cell? = some cell)
    (unsettled : correlator.cells.settlement? cell = none)
    (owned : correlator.owns cell = true) :
    correlator.pollStage rung stage =
      if stage.isLate rung then (correlator.expire id).map some
      else { answer := none, after := correlator } := by
  have seen : correlator.view cell = .unsettled := by
    simp [view, unsettled, owned]
  cases stage with
  | waiting wait =>
      cases waits
      cases mine
      simp [pollStage, pollWait, seen, unsettled, Stage.isLate,
        Stage.deadline?]
  | holding handle =>
      simp [pollStage, correlator.pollHandle_of_unsettled waits seen,
        Stage.isLate, Stage.deadline?, Step.map]
  | limited handle deadline =>
      have held : handle.cell? = some cell := waits
      have polled := correlator.pollHandle_of_unsettled held seen
      obtain ⟨own, source⟩ := handle
      cases source with
      | ready ready => cases waits
      | waiting held =>
          cases mine
          simp [pollStage, pollHandleBefore, polled, Stage.isLate,
            Stage.deadline?]
  | ended outcome => cases waits

theorem expire_touches (correlator : Correlator) (id : RequestId) :
    ∃ ruling, Touches id correlator ruling (correlator.expire id).after := by
  unfold expire
  cases found : Records.find? id correlator.records with
  | none => exact ⟨none, .unchanged⟩
  | some record =>
      cases state : record.state with
      | pending =>
          have late := Touches.timedOut record found state
          exact ⟨_, by simpa [state, Record.timeOut] using late⟩
      | completed =>
          exact ⟨_, by simpa [state] using .collected record found state⟩
      | timedOut => exact ⟨none, by simpa [state] using .unchanged⟩
      | cancelled => exact ⟨none, by simpa [state] using .unchanged⟩

theorem pollHandle_touches (correlator : Correlator) (handle : Handle) :
    Touches handle.id correlator none (correlator.pollHandle handle).after := by
  unfold pollHandle
  split
  · exact .unchanged
  · split
    · exact correlator.collect_touches handle.id _
    · exact .unchanged
    · exact .unchanged

theorem pollHandleBefore_touches (correlator : Correlator)
    (rung deadline : Instant) (handle : Handle) :
    ∃ ruling, Touches handle.id correlator ruling
      (correlator.pollHandleBefore rung deadline handle).after := by
  unfold pollHandleBefore
  dsimp only
  split
  · exact ⟨none, correlator.pollHandle_touches handle⟩
  · split
    · split
      · exact correlator.expire_touches handle.id
      · exact ⟨none, .unchanged⟩
    · exact ⟨none, .unchanged⟩

theorem owns_of_find? {correlator : Correlator} {id : RequestId}
    {record : Record}
    (found : Records.find? id correlator.records = some record) :
    correlator.owns record.cell = true := by
  simp only [owns, List.any_eq_true, decide_eq_true_eq]
  exact ⟨(id, record), Records.mem_of_find? found, rfl⟩

/-- What a poll decides: it may move the record of the id from pending to
timed out. -/
def lapseRuling (before after : Correlator) (id : RequestId) :
    Option Ruling :=
  if before.state? id = some .pending ∧ after.state? id = some .timedOut then
    (Records.find? id before.records).map fun record =>
      (record.cell, .timedOut)
  else
    none

/-- How the poll of a caller can go who is attached to a cell: the answer,
what is decided, and the correlator behind it. -/
inductive Polls (id : RequestId) (cell : CellId) (before : Correlator) :
    Option Outcome → Option Ruling → Correlator → Prop where
  | collected (settlement : Settlement) :
      before.cells.settlement? cell = some settlement →
      Polls id cell before (some settlement.outcome) none
        (before.collect id settlement).after
  | blocked :
      before.cells.settlement? cell = none →
      Polls id cell before none none before
  | lapsed (record : Record) :
      before.cells.settlement? cell = none →
      Records.find? id before.records = some record →
      record.cell = cell →
      record.state = .pending →
      Polls id cell before (some .timedOut) (some (cell, .timedOut))
        ((before.store id { record with state := .timedOut }).tallyOut
          .pending)
  | late (record : Record) :
      before.cells.settlement? cell = none →
      Records.find? id before.records = some record →
      record.cell = cell →
      record.state = .timedOut →
      Polls id cell before (some .timedOut) none before

theorem lapseRuling_self (correlator : Correlator) (id : RequestId) :
    lapseRuling correlator correlator id = none := by
  unfold lapseRuling
  rw [if_neg]
  rintro ⟨pending, timedOut⟩
  rw [pending] at timedOut
  cases timedOut

theorem lapseRuling_collect (correlator : Correlator) (id : RequestId)
    (settlement : Settlement) :
    lapseRuling correlator (correlator.collect id settlement).after id =
      none := by
  cases settlement with
  | reply payload =>
      unfold collect
      by_cases completed : correlator.state? id = some .completed
      · simp [completed, lapseRuling]
      · simp only [if_neg completed]
        exact lapseRuling_self correlator id
  | cancelled => exact lapseRuling_self correlator id
  | expired => exact lapseRuling_self correlator id
  | shutdown => exact lapseRuling_self correlator id

/-- The record of a caller who is attached to an unsettled cell is in the
map, and it is pending or has timed out. -/
theorem Sound.record_of_attached {correlator : Correlator}
    (sound : correlator.Sound) {id : RequestId} {cell : CellId}
    (attached : correlator.Attached id cell)
    (unsettled : correlator.cells.settlement? cell = none) :
    ∃ record, Records.find? id correlator.records = some record ∧
      record.cell = cell ∧
        (record.state = .pending ∨ record.state = .timedOut) := by
  rcases attached.reachable with
    ⟨settlement, settled⟩ | ⟨record, found, owned⟩
  · rw [unsettled] at settled
    cases settled
  · exact ⟨record, found, owned,
      (sound.records found).undecided (owned ▸ unsettled)⟩

/-- The record of an attached caller does not go without settling the
caller's cell. -/
theorem Sound.view_ne_orphaned {correlator : Correlator}
    (sound : correlator.Sound) {id : RequestId} {cell : CellId}
    (attached : correlator.Attached id cell) :
    correlator.view cell ≠ .orphaned := by
  cases settled : correlator.cells.settlement? cell with
  | some settlement => simp [view, settled]
  | none =>
      obtain ⟨record, found, owned, _⟩ :=
        sound.record_of_attached attached settled
      have owns := owns_of_find? found
      rw [owned] at owns
      simp [view, settled, owns]

theorem settlement?_of_view {correlator : Correlator} {cell : CellId}
    (blocked : correlator.view cell = .unsettled) :
    correlator.cells.settlement? cell = none := by
  cases settled : correlator.cells.settlement? cell with
  | none => rfl
  | some settlement => simp [view, settled] at blocked

theorem pollStage_polls {correlator : Correlator} (sound : correlator.Sound)
    (rung : Instant) {stage : Stage} {id : RequestId} {cell : CellId}
    (mine : stage.IsFor id) (waits : stage.cell? = some cell)
    (attached : correlator.Attached id cell) :
    Polls id cell correlator (correlator.pollStage rung stage).answer
      (lapseRuling correlator (correlator.pollStage rung stage).after id)
      (correlator.pollStage rung stage).after := by
  cases settled : correlator.cells.settlement? cell with
  | some settlement =>
      rw [correlator.pollStage_of_settled rung mine waits settled,
        Step.answer_map, Step.after_map, answer_collect, lapseRuling_collect]
      exact .collected settlement settled
  | none =>
      obtain ⟨record, found, owned, undecided⟩ :=
        sound.record_of_attached attached settled
      rw [correlator.pollStage_of_unsettled rung mine waits settled
        (owned ▸ owns_of_find? found)]
      by_cases late : stage.isLate rung = true
      · rw [if_pos late, Step.answer_map, Step.after_map]
        rcases undecided with pending | timedOut
        · have ruling :
              lapseRuling correlator (correlator.expire id).after id =
                some (cell, .timedOut) := by
            simp [lapseRuling, state?, expire_of_pending found pending, found,
              pending, store, Records.find?_put_self, owned]
          rw [ruling]
          simpa [expire_of_pending found pending] using
            Polls.lapsed record settled found owned pending
        · have unchanged : (correlator.expire id).after = correlator := by
            simp [expire, found, timedOut]
          rw [unchanged, lapseRuling_self]
          simpa [expire, found, timedOut] using
            Polls.late record settled found owned timedOut
      · rw [if_neg late]
        dsimp only
        rw [lapseRuling_self]
        exact .blocked settled

theorem Polls.touches {id : RequestId} {cell : CellId}
    {before after : Correlator} {answer : Option Outcome}
    {ruling : Option Ruling}
    (polls : Polls id cell before answer ruling after) :
    Touches id before ruling after := by
  cases polls with
  | collected settlement settled => exact before.collect_touches id settlement
  | blocked unsettled => exact .unchanged
  | lapsed record unsettled found owned pending =>
      rw [← owned]
      exact .timedOut record found pending
  | late record unsettled found owned timedOut => exact .unchanged

end Correlator

end Switchboard
