import Switchboard.Proofs.Correlator.Transitions

/-!
# Sound correlators

In a sound correlator every record is stored under its own id, a record that
can still be decided or has timed out has an unsettled cell, and a completed
one has a cell settled with the reply that it holds.  A caller is attached to
a cell as long as the cell is settled or belongs to the record stored under
the caller's id.  Every operation keeps correlators sound and callers
attached.
-/

namespace Switchboard

/-- What holds of a record stored under an id, given the cells. -/
structure Record.Sound (cells : Cells) (id : RequestId)
    (record : Record) : Prop where
  ownId : record.id = id
  issued : record.cell < cells.issued
  unsettled : record.state = .pending ∨ record.state = .timedOut →
    record.payload = none ∧ cells.settlement? record.cell = none
  completed : record.state = .completed →
    ∃ payload, record.payload = some payload ∧
      cells.settlement? record.cell = some (.reply payload)
  uncancelled : record.state ≠ .cancelled

/-- A record stays sound as long as its own cell stays as it is. -/
theorem Record.Sound.transport {before after : Cells} {id : RequestId}
    {record : Record} (sound : record.Sound before id)
    (issued : before.issued ≤ after.issued)
    (same :
      after.settlement? record.cell = before.settlement? record.cell) :
    record.Sound after id := by
  refine ⟨sound.ownId, Nat.lt_of_lt_of_le sound.issued issued, ?_, ?_,
    sound.uncancelled⟩
  · rw [same]
    exact sound.unsettled
  · rw [same]
    exact sound.completed

theorem Record.Sound.undecided {cells : Cells} {id : RequestId}
    {record : Record} (sound : record.Sound cells id)
    (unsettled : cells.settlement? record.cell = none) :
    record.state = .pending ∨ record.state = .timedOut := by
  cases state : record.state with
  | pending => exact .inl rfl
  | timedOut => exact .inr rfl
  | cancelled => exact (sound.uncancelled state).elim
  | completed =>
      obtain ⟨payload, _, settled⟩ := sound.completed state
      rw [unsettled] at settled
      cases settled

namespace Correlator

/-- The representation invariant. -/
structure Sound (correlator : Correlator) : Prop where
  keyed : Records.Keyed correlator.records
  records : ∀ {id : RequestId} {record : Record},
    Records.find? id correlator.records = some record →
      record.Sound correlator.cells id
  /-- No two records share a cell. -/
  apart : ∀ {id other : RequestId} {record second : Record},
    Records.find? id correlator.records = some record →
      Records.find? other correlator.records = some second →
      record.cell = second.cell → id = other
  settledIssued : ∀ {cell : CellId} {settlement : Settlement},
    correlator.cells.settlement? cell = some settlement →
      cell < correlator.cells.issued
  emptied : correlator.closed = true → correlator.records = []

/-- A caller with an id is attached to a cell: it is settled, or it belongs to
the record stored under the id. -/
structure Attached (correlator : Correlator) (id : RequestId)
    (cell : CellId) : Prop where
  issued : cell < correlator.cells.issued
  reachable :
    (∃ settlement, correlator.cells.settlement? cell = some settlement) ∨
      ∃ record, Records.find? id correlator.records = some record ∧
        record.cell = cell

/-- What every operation keeps. -/
structure Carries (before after : Correlator) : Prop where
  sound : after.Sound
  grows : before.cells.Grows after.cells
  attached : ∀ {id : RequestId} {cell : CellId},
    before.Attached id cell → after.Attached id cell

theorem Carries.refl {correlator : Correlator} (sound : correlator.Sound) :
    Carries correlator correlator :=
  ⟨sound, .refl _, fun attached => attached⟩

theorem sound_new (defaultTimeout maxRecordAge : Nat) :
    Sound { defaultTimeout := defaultTimeout
            maxRecordAge := maxRecordAge } := by
  constructor
  · exact List.nodup_nil
  · intro id record found
    cases found
  · intro id other record second found
    cases found
  · intro cell settlement settled
    cases settled
  · intro _
    rfl

theorem Sound.settlement?_issued {correlator : Correlator}
    (sound : correlator.Sound) :
    correlator.cells.settlement? correlator.cells.issued = none := by
  by_contra settled
  obtain ⟨settlement, known⟩ := Option.ne_none_iff_exists'.mp settled
  exact Nat.lt_irrefl _ (sound.settledIssued known)

theorem Sound.open_of_found {correlator : Correlator}
    (sound : correlator.Sound) {id : RequestId} {record : Record}
    (found : Records.find? id correlator.records = some record) :
    correlator.closed = false := by
  cases closed : correlator.closed with
  | false => rfl
  | true =>
      rw [sound.emptied closed] at found
      cases found

theorem Sound.unsettled_of_pending {correlator : Correlator}
    (sound : correlator.Sound) {id : RequestId} {record : Record}
    (found : Records.find? id correlator.records = some record)
    (pending : record.state = .pending) :
    correlator.cells.settlement? record.cell = none :=
  ((sound.records found).unsettled (.inl pending)).2

/-- Whoever decides about a pending record settles its cell. -/
theorem Sound.settlement?_settle_of_pending {correlator : Correlator}
    (sound : correlator.Sound) {id : RequestId} {record : Record}
    (found : Records.find? id correlator.records = some record)
    (pending : record.state = .pending) (settlement : Settlement) :
    (correlator.cells.settle record.cell settlement).settlement? record.cell =
      some settlement := by
  rw [Cells.settlement?_settle, sound.unsettled_of_pending found pending]
  rfl

namespace Touches

variable {id : RequestId} {before after : Correlator}
  {ruling : Option Ruling}

theorem closed_eq (touches : Touches id before ruling after) :
    after.closed = before.closed := by
  cases touches <;> simp [store, remove]

theorem defaultTimeout_eq (touches : Touches id before ruling after) :
    after.defaultTimeout = before.defaultTimeout := by
  cases touches <;> simp [store, remove]

theorem maxRecordAge_eq (touches : Touches id before ruling after) :
    after.maxRecordAge = before.maxRecordAge := by
  cases touches <;> simp [store, remove]

/-- A cell is issued where a record appears. -/
theorem issued_eq (touches : Touches id before ruling after) :
    after.cells.issued =
      if (Records.find? id before.records).isNone ∧
          (Records.find? id after.records).isSome then
        before.cells.issued + 1
      else
        before.cells.issued := by
  cases touches with
  | unchanged =>
      cases Records.find? id before.records <;> simp
  | registered now opened absent =>
      simp [store, absent, Records.find?_put_self, Cells.issue]
  | fulfilled record payload found pending => simp [store, found]
  | cancelled record found pending => simp [remove, found]
  | timedOut record found pending => simp [store, found]
  | collected record found completed => simp [remove, found]

theorem elsewhere (touches : Touches id before ruling after)
    {other : RequestId} (different : other ≠ id) :
    Records.find? other after.records =
      Records.find? other before.records := by
  cases touches with
  | unchanged => rfl
  | registered now opened absent =>
      simpa [store] using Records.find?_put_of_ne different _ _
  | fulfilled record payload found pending =>
      simpa [store] using Records.find?_put_of_ne different _ _
  | cancelled record found pending =>
      simpa [remove] using Records.find?_erase_of_ne different _
  | timedOut record found pending =>
      simpa [store] using Records.find?_put_of_ne different _ _
  | collected record found completed =>
      simpa [remove] using Records.find?_erase_of_ne different _

theorem settlement?_of_apart (touches : Touches id before ruling after)
    {cell : CellId}
    (apart : ∀ record, Records.find? id before.records = some record →
      record.cell ≠ cell) :
    after.cells.settlement? cell = before.cells.settlement? cell := by
  cases touches with
  | unchanged => rfl
  | registered now opened absent => simp [store, Cells.issue,
      Cells.settlement?]
  | fulfilled record payload found pending =>
      simpa [store] using
        Cells.settlement?_settle_of_ne _ (apart record found).symm _
  | cancelled record found pending =>
      simpa [remove] using
        Cells.settlement?_settle_of_ne _ (apart record found).symm _
  | timedOut record found pending => simp [store]
  | collected record found completed => simp [remove]

theorem grows (touches : Touches id before ruling after) :
    before.cells.Grows after.cells := by
  cases touches with
  | unchanged => exact .refl _
  | registered now opened absent =>
      simpa [store] using Cells.Grows.issue before.cells
  | fulfilled record payload found pending =>
      simpa [store] using Cells.Grows.settle before.cells record.cell _
  | cancelled record found pending =>
      simpa [remove] using Cells.Grows.settle before.cells record.cell _
  | timedOut record found pending =>
      simpa [store] using Cells.Grows.refl before.cells
  | collected record found completed =>
      simpa [remove] using Cells.Grows.refl before.cells

/-- The record that the touched id ends up with is sound, and its cell is new
or was already that of the id's record. -/
theorem here (sound : before.Sound) (touches : Touches id before ruling after)
    {record : Record}
    (found : Records.find? id after.records = some record) :
    record.Sound after.cells id ∧
      (record.cell = before.cells.issued ∨
        ∃ old, Records.find? id before.records = some old ∧
          old.cell = record.cell) := by
  cases touches with
  | unchanged => exact ⟨sound.records found, .inr ⟨record, found, rfl⟩⟩
  | registered now opened absent =>
      have equal : Record.fresh id now before.cells.issued = record := by
        simpa [store, Records.find?_put_self] using found
      subst equal
      refine ⟨?_, .inl rfl⟩
      have unsettled := sound.settlement?_issued
      constructor
      · rfl
      · simp [Record.fresh, store, Cells.issue]
      · intro _
        refine ⟨rfl, ?_⟩
        simpa [Record.fresh, store, Cells.issue, Cells.settlement?] using
          unsettled
      · intro completed
        cases completed
      · intro cancelled
        cases cancelled
  | fulfilled old payload oldFound pending =>
      have oldSound := sound.records oldFound
      have equal :
          { old with state := .completed, payload := some payload } =
            record := by
        simpa [store, Records.find?_put_self] using found
      subst equal
      refine ⟨?_, .inr ⟨old, oldFound, rfl⟩⟩
      constructor
      · exact oldSound.ownId
      · simpa [store] using oldSound.issued
      · rintro (state | state) <;> cases state
      · intro _
        refine ⟨payload, rfl, ?_⟩
        simpa [store] using
          sound.settlement?_settle_of_pending oldFound pending
            (.reply payload)
      · intro cancelled
        cases cancelled
  | cancelled old oldFound pending =>
      simp [remove, Records.find?_erase_self] at found
  | timedOut old oldFound pending =>
      have oldSound := sound.records oldFound
      have equal : { old with state := .timedOut } = record := by
        simpa [store, Records.find?_put_self] using found
      subst equal
      refine ⟨?_, .inr ⟨old, oldFound, rfl⟩⟩
      constructor
      · exact oldSound.ownId
      · simpa [store] using oldSound.issued
      · intro _
        simpa [store] using oldSound.unsettled (.inl pending)
      · intro completed
        cases completed
      · intro cancelled
        cases cancelled
  | collected old oldFound completed =>
      simp [remove, Records.find?_erase_self] at found

theorem keyed (touches : Touches id before ruling after)
    (keyed : Records.Keyed before.records) :
    Records.Keyed after.records := by
  cases touches with
  | unchanged => exact keyed
  | registered now opened absent => simpa [store] using keyed.put id _
  | fulfilled record payload found pending =>
      simpa [store] using keyed.put id _
  | cancelled record found pending => simpa [remove] using keyed.erase id
  | timedOut record found pending => simpa [store] using keyed.put id _
  | collected record found completed =>
      simpa [remove] using keyed.erase id

private theorem eq_of_closed (touches : Touches id before ruling after)
    (closed : before.closed = true) (empty : before.records = []) :
    after = before := by
  cases touches with
  | unchanged => rfl
  | registered now opened absent => simp [closed] at opened
  | fulfilled record payload found pending =>
      simp [empty, Records.find?] at found
  | cancelled record found pending => simp [empty, Records.find?] at found
  | timedOut record found pending => simp [empty, Records.find?] at found
  | collected record found completed =>
      simp [empty, Records.find?] at found

theorem sound (touches : Touches id before ruling after)
    (sound : before.Sound) : after.Sound := by
  have apartFromOthers : ∀ {other : RequestId} {record second : Record},
      other ≠ id → Records.find? id after.records = some record →
        Records.find? other before.records = some second →
          record.cell ≠ second.cell := by
    intro other record second different found elsewhere same
    rcases (touches.here sound found).2 with isNew | ⟨old, oldFound, owned⟩
    · have bound := (sound.records elsewhere).issued
      rw [← same, isNew] at bound
      exact Nat.lt_irrefl _ bound
    · exact different
        (sound.apart oldFound elsewhere (owned.trans same)).symm
  constructor
  · exact touches.keyed sound.keyed
  · intro other record found
    by_cases same : other = id
    · subst other
      exact (touches.here sound found).1
    · rw [touches.elsewhere same] at found
      refine (sound.records found).transport touches.grows.issued ?_
      apply touches.settlement?_of_apart
      intro touched touchedFound equal
      exact same (sound.apart touchedFound found equal).symm
  · intro first other record second firstFound secondFound equal
    by_cases firstHere : first = id
    · by_cases otherHere : other = id
      · rw [firstHere, otherHere]
      · subst first
        rw [touches.elsewhere otherHere] at secondFound
        exact (apartFromOthers otherHere firstFound secondFound equal).elim
    · rw [touches.elsewhere firstHere] at firstFound
      by_cases otherHere : other = id
      · subst other
        exact
          (apartFromOthers firstHere secondFound firstFound equal.symm).elim
      · rw [touches.elsewhere otherHere] at secondFound
        exact sound.apart firstFound secondFound equal
  · intro cell settlement settled
    by_cases owned : ∃ record,
        Records.find? id before.records = some record ∧ record.cell = cell
    · obtain ⟨record, found, equal⟩ := owned
      rw [← equal]
      exact Nat.lt_of_lt_of_le (sound.records found).issued
        touches.grows.issued
    · rw [touches.settlement?_of_apart (by
        intro record found equal
        exact owned ⟨record, found, equal⟩)] at settled
      exact Nat.lt_of_lt_of_le (sound.settledIssued settled)
        touches.grows.issued
  · intro closed
    rw [touches.closed_eq] at closed
    rw [touches.eq_of_closed closed (sound.emptied closed)]
    exact sound.emptied closed

private theorem settled_of_removed (touches : Touches id before ruling after)
    (sound : before.Sound) {record : Record}
    (found : Records.find? id before.records = some record) :
    (∃ settlement,
        after.cells.settlement? record.cell = some settlement) ∨
      ∃ kept, Records.find? id after.records = some kept ∧
        kept.cell = record.cell := by
  cases touches with
  | unchanged => exact .inr ⟨record, found, rfl⟩
  | registered now opened absent => simp [absent] at found
  | fulfilled old payload oldFound pending =>
      obtain rfl : old = record :=
        Option.some.inj (oldFound.symm.trans found)
      refine .inr
        ⟨{ old with state := .completed, payload := some payload }, ?_, rfl⟩
      simpa [store] using Records.find?_put_self id _ before.records
  | cancelled old oldFound pending =>
      obtain rfl : old = record :=
        Option.some.inj (oldFound.symm.trans found)
      refine .inl ⟨.cancelled, ?_⟩
      simpa [remove] using
        sound.settlement?_settle_of_pending found pending .cancelled
  | timedOut old oldFound pending =>
      obtain rfl : old = record :=
        Option.some.inj (oldFound.symm.trans found)
      refine .inr ⟨{ old with state := .timedOut }, ?_, rfl⟩
      simpa [store] using Records.find?_put_self id _ before.records
  | collected old oldFound completed =>
      obtain rfl : old = record :=
        Option.some.inj (oldFound.symm.trans found)
      obtain ⟨payload, _, settled⟩ := (sound.records found).completed completed
      exact .inl ⟨.reply payload, by simpa [remove] using settled⟩

theorem carries (touches : Touches id before ruling after)
    (sound : before.Sound) : Carries before after := by
  refine ⟨touches.sound sound, touches.grows, ?_⟩
  intro other cell attached
  refine ⟨Nat.lt_of_lt_of_le attached.issued touches.grows.issued, ?_⟩
  rcases attached.reachable with ⟨settlement, settled⟩ | ⟨record, found, owned⟩
  · exact .inl ⟨settlement, touches.grows.settled settled⟩
  · by_cases same : other = id
    · subst other
      rw [← owned]
      exact touches.settled_of_removed sound found
    · exact .inr ⟨record, (touches.elsewhere same).trans found, owned⟩

end Touches

/-- How an operation on the whole map goes: it drops records, and lets the
waiters of those go whose cell was not settled. -/
structure Clears (keep : Record → Bool) (reason : Settlement)
    (before after : Correlator) : Prop where
  records : after.records = before.records.filter fun entry => keep entry.2
  cells : after.cells =
    (Records.release reason before.cells
      (before.records.filter fun entry => !keep entry.2)).2
  closed : after.closed = (before.closed || decide (reason = .shutdown))
  emptied : after.closed = true → after.records = []
  defaultTimeout : after.defaultTimeout = before.defaultTimeout
  maxRecordAge : after.maxRecordAge = before.maxRecordAge

namespace Clears

variable {keep : Record → Bool} {reason : Settlement}
  {before after : Correlator}

theorem find? (clears : Clears keep reason before after)
    (sound : before.Sound) (id : RequestId) :
    Records.find? id after.records =
      (Records.find? id before.records).filter keep := by
  rw [clears.records, Records.find?_filter sound.keyed]

theorem find?_eq_some_iff (clears : Clears keep reason before after)
    (sound : before.Sound) {id : RequestId} {record : Record} :
    Records.find? id after.records = some record ↔
      Records.find? id before.records = some record ∧
        keep record = true := by
  rw [clears.find? sound, Option.filter_eq_some_iff]

theorem issued (clears : Clears keep reason before after) :
    after.cells.issued = before.cells.issued := by
  rw [clears.cells, Records.issued_release]

theorem grows (clears : Clears keep reason before after) :
    before.cells.Grows after.cells := by
  rw [clears.cells]
  exact Records.grows_release _ _ _

theorem settlement?_cases (clears : Clears keep reason before after)
    (cell : CellId) :
    after.cells.settlement? cell = before.cells.settlement? cell ∨
      before.cells.settlement? cell = none ∧
        after.cells.settlement? cell = some reason := by
  rw [clears.cells]
  exact Records.settlement?_release_cases _ _ _ _

theorem settlement?_of_apart (clears : Clears keep reason before after)
    (sound : before.Sound) {cell : CellId}
    (apart : ∀ {id : RequestId} {record : Record},
      Records.find? id before.records = some record →
        record.cell = cell → keep record = true) :
    after.cells.settlement? cell = before.cells.settlement? cell := by
  rw [clears.cells]
  apply Records.settlement?_release_of_apart
  intro entry member owned
  obtain ⟨inRecords, dropped⟩ := List.mem_filter.mp member
  have found := Records.find?_of_mem sound.keyed inRecords
  simp [apart found owned] at dropped

theorem settlement?_of_dropped (clears : Clears keep reason before after)
    {id : RequestId} {record : Record}
    (found : Records.find? id before.records = some record)
    (dropped : keep record = false) :
    after.cells.settlement? record.cell =
      some ((before.cells.settlement? record.cell).getD reason) := by
  cases settled : before.cells.settlement? record.cell with
  | some settlement => exact clears.grows.settled settled
  | none =>
      have member : (id, record) ∈
          before.records.filter fun entry => !keep entry.2 :=
        List.mem_filter.mpr
          ⟨Records.mem_of_find? found, by simp [dropped]⟩
      rw [clears.cells]
      exact Records.settlement?_release_of_mem reason _ settled member rfl

theorem sound (clears : Clears keep reason before after)
    (sound : before.Sound) : after.Sound := by
  constructor
  · rw [clears.records]
    exact sound.keyed.filter _
  · intro id record found
    obtain ⟨foundBefore, kept⟩ := (clears.find?_eq_some_iff sound).mp found
    refine (sound.records foundBefore).transport clears.grows.issued ?_
    apply clears.settlement?_of_apart sound
    intro other second secondFound owned
    have same : other = id := sound.apart secondFound foundBefore owned
    subst same
    rw [foundBefore] at secondFound
    cases secondFound
    exact kept
  · intro id other record second found secondFound equal
    exact sound.apart ((clears.find?_eq_some_iff sound).mp found).1
      ((clears.find?_eq_some_iff sound).mp secondFound).1 equal
  · intro cell settlement settled
    rw [clears.issued]
    by_cases dropped : ∃ id record,
        Records.find? id before.records = some record ∧ record.cell = cell
    · obtain ⟨id, record, found, owned⟩ := dropped
      rw [← owned]
      exact (sound.records found).issued
    · rw [clears.settlement?_of_apart sound fun found owned =>
        (dropped ⟨_, _, found, owned⟩).elim] at settled
      exact sound.settledIssued settled
  · exact clears.emptied

theorem carries (clears : Clears keep reason before after)
    (sound : before.Sound) : Carries before after := by
  refine ⟨clears.sound sound, clears.grows, ?_⟩
  intro id cell attached
  refine ⟨Nat.lt_of_lt_of_le attached.issued clears.grows.issued, ?_⟩
  rcases attached.reachable with
    ⟨settlement, settled⟩ | ⟨record, found, owned⟩
  · exact .inl ⟨settlement, clears.grows.settled settled⟩
  · cases kept : keep record with
    | true =>
        exact .inr
          ⟨record, (clears.find?_eq_some_iff sound).mpr ⟨found, kept⟩, owned⟩
    | false =>
        rw [← owned]
        exact .inl ⟨_, clears.settlement?_of_dropped found kept⟩

end Clears

theorem clears_refl {correlator : Correlator} (sound : correlator.Sound) :
    Clears (fun _ => true) .expired correlator correlator := by
  refine ⟨?_, ?_, ?_, sound.emptied, rfl, rfl⟩
  · simp
  · simp [Records.release]
  · simp

/-- Completed records have settled cells, so no waiter has to be let go. -/
theorem dropCompleted_clears {correlator : Correlator}
    (sound : correlator.Sound) :
    Clears (fun record => record.state ≠ .completed) .expired correlator
      correlator.dropCompleted.after := by
  refine ⟨rfl, ?_, ?_, ?_, rfl, rfl⟩
  · refine (Records.release_of_isSettled .expired correlator.cells ?_).symm
    intro entry member
    obtain ⟨inRecords, dropped⟩ := List.mem_filter.mp member
    have completed : entry.2.state = .completed := by simpa using dropped
    obtain ⟨payload, _, settled⟩ :=
      (sound.records (Records.find?_of_mem sound.keyed inRecords)).completed
        completed
    simp [Cells.isSettled, settled]
  · simp [dropCompleted]
  · intro closed
    have empty : correlator.records = [] := sound.emptied closed
    simp [dropCompleted, empty]

private theorem tallied (entries : Records) (start : Correlator) :
    let counted := entries.foldl
      (fun counted entry => counted.tallyOut entry.2.state) start
    counted.closed = start.closed ∧
      counted.defaultTimeout = start.defaultTimeout ∧
      counted.maxRecordAge = start.maxRecordAge := by
  induction entries generalizing start with
  | nil => exact ⟨rfl, rfl, rfl⟩
  | cons entry rest induction =>
      simpa using induction (start.tallyOut entry.2.state)

theorem sweep_clears {correlator : Correlator} (sound : correlator.Sound)
    (now : Instant) :
    Clears (correlator.keeps now) .expired correlator
      (correlator.sweep now).after := by
  obtain ⟨closed, defaultTimeout, maxRecordAge⟩ :=
    tallied (correlator.records.filter fun entry =>
      !correlator.keeps now entry.2) correlator
  refine ⟨rfl, rfl, ?_, ?_, defaultTimeout, maxRecordAge⟩
  · simpa [sweep] using closed
  · intro closedAfter
    have empty : correlator.records = [] :=
      sound.emptied (closed.symm.trans closedAfter)
    simp [sweep, empty]

theorem shutDown_clears (correlator : Correlator) :
    Clears (fun _ => false) .shutdown correlator correlator.shutDown.after := by
  refine ⟨?_, ?_, ?_, fun _ => rfl, rfl, rfl⟩
  · simp [shutDown]
  · simp [shutDown]
  · simp [shutDown]

end Correlator

end Switchboard
