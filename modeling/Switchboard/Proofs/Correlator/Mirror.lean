import Switchboard.Proofs.Correlator.Polling
import Switchboard.Proofs.Correlator.Renaming

/-!
# Mirrors

One correlator mirrors another on an id when it holds the same record under
the id, up to a renaming of cells, and shares nothing of that record's cells
with other ids.  An operation on another id keeps a mirror by itself; an
operation on the id, or on all, keeps it when both sides take it, and then it
answers the same on both.
-/

namespace Switchboard

namespace Correlator

/-- What the full correlator has in common on an id with a correlator that
holds no other records. -/
structure Mirrors (id : RequestId) (rho : Renaming)
    (full part : Correlator) : Prop where
  closed : full.closed = part.closed
  defaultTimeout : full.defaultTimeout = part.defaultTimeout
  maxRecordAge : full.maxRecordAge = part.maxRecordAge
  record : Records.find? id full.records =
    (Records.find? id part.records).map fun record => record.rename rho
  settlement : ∀ {cell : CellId}, cell < part.cells.issued →
    full.cells.settlement? (rho cell) = part.cells.settlement? cell
  issued : ∀ {cell : CellId}, cell < part.cells.issued →
    rho cell < full.cells.issued
  injective : ∀ {cell other : CellId}, cell < part.cells.issued →
    other < part.cells.issued → rho cell = rho other → cell = other
  /-- Records of other ids do not own a cell of this id. -/
  foreign : ∀ {other : RequestId} {record : Record} {cell : CellId},
    other ≠ id → Records.find? other full.records = some record →
      cell < part.cells.issued → record.cell ≠ rho cell
  alone : ∀ {other : RequestId}, other ≠ id →
    Records.find? other part.records = none

namespace Mirrors

variable {id : RequestId} {rho : Renaming} {full part : Correlator}

theorem found (mirrors : Mirrors id rho full part) {record : Record}
    (found : Records.find? id part.records = some record) :
    Records.find? id full.records = some (record.rename rho) := by
  rw [mirrors.record, found]
  rfl

theorem absent (mirrors : Mirrors id rho full part)
    (absent : Records.find? id part.records = none) :
    Records.find? id full.records = none := by
  rw [mirrors.record, absent]
  rfl

theorem state? (mirrors : Mirrors id rho full part) :
    full.state? id = part.state? id := by
  simp only [Correlator.state?, mirrors.record, Option.map_map]
  rfl

/-- Both sides issue a cell, or none does. -/
theorem issued_cases (mirrors : Mirrors id rho full part)
    {fullAfter partAfter : Correlator}
    (after : Mirrors id rho fullAfter partAfter)
    {ruling partRuling : Option Ruling}
    (fullTouches : Touches id full ruling fullAfter)
    (partTouches : Touches id part partRuling partAfter) :
    fullAfter.cells.issued = full.cells.issued ∧
        partAfter.cells.issued = part.cells.issued ∨
      fullAfter.cells.issued = full.cells.issued + 1 ∧
        partAfter.cells.issued = part.cells.issued + 1 := by
  rw [fullTouches.issued_eq, partTouches.issued_eq, mirrors.record,
    after.record, Option.isNone_map, Option.isSome_map]
  split
  · exact .inr ⟨rfl, rfl⟩
  · exact .inl ⟨rfl, rfl⟩

/-! ## Steps of one side -/

/-- What happens on another id is not seen in the mirror. -/
theorem elsewhere (mirrors : Mirrors id rho full part) (sound : full.Sound)
    {other : RequestId} {ruling : Option Ruling} {after : Correlator}
    (different : id ≠ other) (touches : Touches other full ruling after) :
    Mirrors id rho after part := by
  constructor
  · rw [touches.closed_eq, mirrors.closed]
  · rw [touches.defaultTimeout_eq, mirrors.defaultTimeout]
  · rw [touches.maxRecordAge_eq, mirrors.maxRecordAge]
  · rw [touches.elsewhere different, mirrors.record]
  · intro cell bound
    rw [← mirrors.settlement bound]
    apply touches.settlement?_of_apart
    intro record found
    exact mirrors.foreign different.symm found bound
  · intro cell bound
    exact Nat.lt_of_lt_of_le (mirrors.issued bound) touches.grows.issued
  · exact mirrors.injective
  · intro third record cell apart found bound equal
    by_cases same : third = other
    · subst same
      rcases (touches.here sound found).2 with isNew | ⟨old, oldFound, owned⟩
      · rw [equal] at isNew
        exact Nat.ne_of_lt (mirrors.issued bound) isNew
      · exact mirrors.foreign apart oldFound bound (owned.trans equal)
    · rw [touches.elsewhere same] at found
      exact mirrors.foreign apart found bound equal
  · exact mirrors.alone

/-! ## Steps of both sides -/

theorem clears (mirrors : Mirrors id rho full part) (fullSound : full.Sound)
    (partSound : part.Sound) {keep keepPart : Record → Bool}
    {reason : Settlement} {fullAfter partAfter : Correlator}
    (fullClears : full.Clears keep reason fullAfter)
    (partClears : part.Clears keepPart reason partAfter)
    (same : ∀ record, keep (record.rename rho) = keepPart record) :
    Mirrors id rho fullAfter partAfter := by
  constructor
  · rw [fullClears.closed, partClears.closed, mirrors.closed]
  · rw [fullClears.defaultTimeout, partClears.defaultTimeout,
      mirrors.defaultTimeout]
  · rw [fullClears.maxRecordAge, partClears.maxRecordAge,
      mirrors.maxRecordAge]
  · rw [fullClears.find? fullSound, partClears.find? partSound,
      mirrors.record]
    cases Records.find? id part.records with
    | none => rfl
    | some record =>
        simp only [Option.map_some, Option.filter_some, same]
        cases keepPart record <;> rfl
  · intro cell bound
    rw [partClears.issued] at bound
    by_cases dropped : ∃ record, Records.find? id part.records = some record ∧
        record.cell = cell ∧ keepPart record = false
    · obtain ⟨record, found, owned, gone⟩ := dropped
      subst owned
      have goneToo : keep (record.rename rho) = false :=
        (same record).trans gone
      have settled :=
        fullClears.settlement?_of_dropped (mirrors.found found) goneToo
      rw [partClears.settlement?_of_dropped found gone,
        ← mirrors.settlement bound]
      exact settled
    · have kept : ∀ record,
          Records.find? id part.records = some record →
            record.cell = cell → keepPart record = true := by
        intro record found owned
        by_contra gone
        exact dropped ⟨record, found, owned, by simpa using gone⟩
      rw [partClears.settlement?_of_apart partSound ?_,
        fullClears.settlement?_of_apart fullSound ?_,
        mirrors.settlement bound]
      · intro other record found owned
        by_cases here : other = id
        · subst here
          rw [mirrors.record] at found
          obtain ⟨held, heldFound, equal⟩ :=
            Option.map_eq_some_iff.mp found
          subst equal
          have heldBound := (partSound.records heldFound).issued
          rw [same]
          exact kept held heldFound (mirrors.injective heldBound bound owned)
        · exact (mirrors.foreign here found bound owned).elim
      · intro other record found owned
        by_cases here : other = id
        · subst here
          exact kept record found owned
        · rw [mirrors.alone here] at found
          cases found
  · intro cell bound
    rw [partClears.issued] at bound
    rw [fullClears.issued]
    exact mirrors.issued bound
  · rw [partClears.issued]
    exact mirrors.injective
  · intro other record cell different found bound
    rw [partClears.issued] at bound
    exact mirrors.foreign different
      ((fullClears.find?_eq_some_iff fullSound).mp found).1 bound
  · intro other different
    rw [partClears.find? partSound, mirrors.alone different]
    rfl

theorem tallyOut (mirrors : Mirrors id rho full part)
    (state : RequestState) :
    Mirrors id rho (full.tallyOut state) (part.tallyOut state) := by
  cases state <;> exact { mirrors with }

theorem tallyIn (mirrors : Mirrors id rho full part)
    (state : RequestState) :
    Mirrors id rho (full.tallyIn state) (part.tallyIn state) := by
  cases state <;> exact { mirrors with }

theorem remove (mirrors : Mirrors id rho full part) :
    Mirrors id rho (full.remove id) (part.remove id) := by
  refine { mirrors with record := ?_, foreign := ?_, alone := ?_ }
  · simp [Correlator.remove, Records.find?_erase_self]
  · intro other record cell different found bound
    simp only [Correlator.remove,
      Records.find?_erase_of_ne different] at found
    exact mirrors.foreign different found bound
  · intro other different
    simpa only [Correlator.remove, Records.find?_erase_of_ne different]
      using mirrors.alone different

theorem store (mirrors : Mirrors id rho full part) (record : Record) :
    Mirrors id rho (full.store id (record.rename rho))
      (part.store id record) := by
  refine { mirrors with record := ?_, foreign := ?_, alone := ?_ }
  · simp [Correlator.store, Records.find?_put_self]
  · intro other held cell different found bound
    simp only [Correlator.store, Records.find?_put_of_ne different] at found
    exact mirrors.foreign different found bound
  · intro other different
    simpa only [Correlator.store, Records.find?_put_of_ne different]
      using mirrors.alone different

theorem settle (mirrors : Mirrors id rho full part) {cell : CellId}
    (bound : cell < part.cells.issued) (settlement : Settlement) :
    Mirrors id rho
      { full with cells := full.cells.settle (rho cell) settlement }
      { part with cells := part.cells.settle cell settlement } := by
  refine { mirrors with
    settlement := ?_, issued := ?_, injective := ?_, foreign := ?_ }
  · intro other otherBound
    simp only [Cells.issued_settle] at otherBound
    by_cases same : other = cell
    · rw [same, Cells.settlement?_settle, Cells.settlement?_settle,
        mirrors.settlement bound]
    · have apart : rho other ≠ rho cell :=
        fun equal => same (mirrors.injective otherBound bound equal)
      rw [Cells.settlement?_settle_of_ne _ apart,
        Cells.settlement?_settle_of_ne _ same]
      exact mirrors.settlement otherBound
  · intro other otherBound
    simp only [Cells.issued_settle] at otherBound ⊢
    exact mirrors.issued otherBound
  · intro other third otherBound thirdBound
    simp only [Cells.issued_settle] at otherBound thirdBound
    exact mirrors.injective otherBound thirdBound
  · intro other record third different found thirdBound
    simp only [Cells.issued_settle] at thirdBound
    exact mirrors.foreign different found thirdBound

/-- Both sides can issue a cell, if the renaming takes the one's next cell to
the other's. -/
theorem issue (mirrors : Mirrors id rho full part) (fullSound : full.Sound)
    (partSound : part.Sound)
    (next : rho part.cells.issued = full.cells.issued) :
    Mirrors id rho { full with cells := full.cells.issue.2 }
      { part with cells := part.cells.issue.2 } := by
  refine { mirrors with
    settlement := ?_, issued := ?_, injective := ?_, foreign := ?_ }
  · intro cell bound
    rcases Nat.lt_succ_iff_lt_or_eq.mp bound with old | isNew
    · exact mirrors.settlement old
    · subst isNew
      rw [next]
      exact fullSound.settlement?_issued.trans
        partSound.settlement?_issued.symm
  · intro cell bound
    rcases Nat.lt_succ_iff_lt_or_eq.mp bound with old | isNew
    · exact Nat.lt_succ_of_lt (mirrors.issued old)
    · rw [isNew, next]
      exact Nat.lt_succ_self _
  · intro cell other bound otherBound equal
    rcases Nat.lt_succ_iff_lt_or_eq.mp bound with old | isNew
    · rcases Nat.lt_succ_iff_lt_or_eq.mp otherBound with otherOld | otherNew
      · exact mirrors.injective old otherOld equal
      · rw [otherNew, next] at equal
        exact (Nat.ne_of_lt (mirrors.issued old) equal).elim
    · rcases Nat.lt_succ_iff_lt_or_eq.mp otherBound with otherOld | otherNew
      · rw [isNew, next] at equal
        exact (Nat.ne_of_lt (mirrors.issued otherOld) equal.symm).elim
      · rw [isNew, otherNew]
  · intro other record cell different found bound equal
    rcases Nat.lt_succ_iff_lt_or_eq.mp bound with old | isNew
    · exact mirrors.foreign different found old equal
    · rw [isNew, next] at equal
      exact Nat.ne_of_lt (fullSound.records found).issued equal

theorem attach (mirrors : Mirrors id rho full part) (fullSound : full.Sound)
    (partSound : part.Sound) (now : Instant)
    (next :
      (full.attach now id).after.cells.issued ≠ full.cells.issued →
        rho part.cells.issued = full.cells.issued) :
    (full.attach now id).answer =
        (part.attach now id).answer.rename rho ∧
      full.origin id = (part.origin id).map rho ∧
      Mirrors id rho (full.attach now id).after
        (part.attach now id).after := by
  by_cases closed : part.closed = true
  · simp only [Correlator.attach, origin, if_pos closed,
      if_pos (mirrors.closed.trans closed)]
    exact ⟨rfl, rfl, mirrors⟩
  · have opened : ¬full.closed = true := mirrors.closed ▸ closed
    cases found : Records.find? id part.records with
    | none =>
        have fullAbsent := mirrors.absent found
        have fresh := next (by
          simp [Correlator.attach, opened, fullAbsent, Correlator.store,
            Cells.issue])
        simp only [Correlator.attach, origin, if_neg closed, if_neg opened,
          fullAbsent, found]
        refine ⟨congrArg Attachment.waiting fresh.symm,
          congrArg some fresh.symm, ?_⟩
        have stored := (mirrors.issue fullSound partSound fresh).store
          (.fresh id now part.cells.issued)
        rw [Record.rename, Record.fresh, fresh] at stored
        exact stored.tallyIn .pending
    | some record =>
        simp only [Correlator.attach, origin, if_neg closed, if_neg opened,
          mirrors.found found, found, Record.state_rename]
        cases state : record.state with
        | pending => exact ⟨rfl, rfl, mirrors⟩
        | completed => exact ⟨rfl, rfl, mirrors.remove.tallyOut .completed⟩
        | timedOut => exact ⟨rfl, rfl, mirrors⟩
        | cancelled => exact ⟨rfl, rfl, mirrors⟩

theorem startWait (mirrors : Mirrors id rho full part)
    (fullSound : full.Sound) (partSound : part.Sound) {now partNow : Instant}
    (sameNow : now = partNow) (timeout : Nat)
    (next :
      (full.startWait now id timeout).after.cells.issued ≠
          full.cells.issued →
        rho part.cells.issued = full.cells.issued) :
    (full.startWait now id timeout).answer =
        (part.startWait partNow id timeout).answer.rename rho ∧
      (timeout ≠ 0 → full.origin id = (part.origin id).map rho) ∧
      Mirrors id rho (full.startWait now id timeout).after
        (part.startWait partNow id timeout).after := by
  subst sameNow
  by_cases zero : timeout = 0
  · simp only [Correlator.startWait, if_pos zero]
    exact ⟨rfl, fun nonzero => (nonzero zero).elim, mirrors⟩
  · simp only [Correlator.startWait, if_neg zero, Step.answer_map,
      Step.after_map] at next ⊢
    obtain ⟨answer, origin, after⟩ :=
      mirrors.attach fullSound partSound now next
    refine ⟨?_, fun _ => origin, after⟩
    rw [answer]
    cases (part.attach now id).answer <;> rfl

theorem openHandle (mirrors : Mirrors id rho full part)
    (fullSound : full.Sound) (partSound : part.Sound) {now partNow : Instant}
    (sameNow : now = partNow)
    (next :
      (full.openHandle now id).after.cells.issued ≠ full.cells.issued →
        rho part.cells.issued = full.cells.issued) :
    (full.openHandle now id).answer =
        (part.openHandle partNow id).answer.rename rho ∧
      full.origin id = (part.origin id).map rho ∧
      Mirrors id rho (full.openHandle now id).after
        (part.openHandle partNow id).after := by
  subst sameNow
  simp only [Correlator.openHandle, Step.answer_map,
    Step.after_map] at next ⊢
  obtain ⟨answer, origin, after⟩ :=
    mirrors.attach fullSound partSound now next
  refine ⟨?_, origin, after⟩
  rw [answer]
  cases (part.attach now id).answer <;> rfl

theorem complete (mirrors : Mirrors id rho full part)
    (partSound : part.Sound) {now partNow : Instant}
    (sameNow : now = partNow) (payload : String) :
    (full.complete now id payload).answer =
        (part.complete partNow id payload).answer ∧
      Mirrors id rho (full.complete now id payload).after
        (part.complete partNow id payload).after := by
  subst sameNow
  unfold Correlator.complete
  by_cases closed : part.closed = true
  · simp only [if_pos closed, if_pos (mirrors.closed.trans closed)]
    exact ⟨trivial, mirrors⟩
  · have opened : ¬full.closed = true := mirrors.closed ▸ closed
    simp only [if_neg closed, if_neg opened]
    cases found : Records.find? id part.records with
    | none =>
        rw [mirrors.absent found]
        exact ⟨rfl, mirrors⟩
    | some record =>
        rw [mirrors.found found]
        by_cases pending : record.state = .pending
        · have bound := (partSound.records found).issued
          have stored := (mirrors.settle bound (.reply payload)).store
            { record with state := .completed, payload := some payload }
          simp only [Record.fulfil, Record.state_rename, pending, if_true]
          exact ⟨trivial, (stored.tallyOut .pending).tallyIn .completed⟩
        · have fullPending : (record.rename rho).state ≠ .pending := pending
          simp only [Record.fulfil, if_neg pending, if_neg fullPending]
          exact ⟨trivial, mirrors⟩

theorem cancel (mirrors : Mirrors id rho full part)
    (partSound : part.Sound) :
    (full.cancel id).answer = (part.cancel id).answer ∧
      Mirrors id rho (full.cancel id).after (part.cancel id).after := by
  unfold Correlator.cancel
  cases found : Records.find? id part.records with
  | none =>
      rw [mirrors.absent found]
      exact ⟨rfl, mirrors⟩
  | some record =>
      rw [mirrors.found found]
      by_cases pending : record.state = .pending
      · have bound := (partSound.records found).issued
        simp only [Record.cancel, Record.state_rename, pending, if_true]
        exact ⟨trivial,
          (mirrors.settle bound .cancelled).remove.tallyOut .pending⟩
      · have fullPending : (record.rename rho).state ≠ .pending := pending
        simp only [Record.cancel, if_neg pending, if_neg fullPending]
        exact ⟨trivial, mirrors⟩

theorem collect (mirrors : Mirrors id rho full part)
    (settlement : Settlement) :
    Mirrors id rho (full.collect id settlement).after
      (part.collect id settlement).after := by
  cases settlement with
  | reply payload =>
      unfold Correlator.collect
      rw [mirrors.state?]
      by_cases completed : part.state? id = some .completed
      · simp only [if_pos completed]
        exact mirrors.remove.tallyOut .completed
      · simp only [if_neg completed]
        exact mirrors
  | cancelled => exact mirrors
  | expired => exact mirrors
  | shutdown => exact mirrors

theorem expire (mirrors : Mirrors id rho full part) :
    (full.expire id).answer = (part.expire id).answer ∧
      Mirrors id rho (full.expire id).after (part.expire id).after := by
  unfold Correlator.expire
  cases found : Records.find? id part.records with
  | none =>
      rw [mirrors.absent found]
      exact ⟨rfl, mirrors⟩
  | some record =>
      rw [mirrors.found found]
      simp only [Record.state_rename]
      cases state : record.state with
      | pending =>
          have late : (record.rename rho).timeOut =
              some ({ record with state := .timedOut }.rename rho) := by
            simp [Record.timeOut, state, Record.rename]
          rw [late, Record.timeOut, if_pos state]
          exact ⟨rfl, (mirrors.store _).tallyOut .pending⟩
      | completed => exact ⟨rfl, mirrors.remove.tallyOut .completed⟩
      | timedOut => exact ⟨rfl, mirrors⟩
      | cancelled => exact ⟨rfl, mirrors⟩

/-- A caller who is attached in the mirror is answered the same on both
sides. -/
theorem pollStage (mirrors : Mirrors id rho full part)
    (partSound : part.Sound) {rung partRung : Instant}
    (sameRung : rung = partRung) {stage : Stage} (mine : stage.IsFor id)
    (attached : ∀ {cell : CellId},
      stage.cell? = some cell → part.Attached id cell) :
    (full.pollStage rung (stage.rename rho)).answer =
        (part.pollStage partRung stage).answer ∧
      Mirrors id rho (full.pollStage rung (stage.rename rho)).after
        (part.pollStage partRung stage).after := by
  subst sameRung
  cases ended : stage.isEnded with
  | true =>
      cases stage with
      | ended outcome => exact ⟨rfl, mirrors⟩
      | _ => cases ended
  | false =>
      cases waits : stage.cell? with
      | none =>
          obtain ⟨outcome, known⟩ := Stage.known?_of_cell?_eq_none waits
          rw [part.pollStage_of_known rung ended known,
            full.pollStage_of_known rung
              ((stage.isEnded_rename rho).trans ended)
              ((stage.known?_rename rho).trans known)]
          exact ⟨rfl, mirrors⟩
      | some cell =>
          have fullWaits : (stage.rename rho).cell? = some (rho cell) := by
            rw [stage.cell?_rename, waits]
            rfl
          have bound := (attached waits).issued
          have same := mirrors.settlement bound
          cases settled : part.cells.settlement? cell with
          | some settlement =>
              rw [part.pollStage_of_settled rung mine waits settled,
                full.pollStage_of_settled rung (mine.rename rho) fullWaits
                  (same.trans settled)]
              exact ⟨by simp, mirrors.collect settlement⟩
          | none =>
              obtain ⟨record, found, owned, _⟩ :=
                partSound.record_of_attached (attached waits) settled
              have fullOwns := owns_of_find? (mirrors.found found)
              rw [Record.cell_rename, owned] at fullOwns
              rw [part.pollStage_of_unsettled rung mine waits settled
                  (owned ▸ owns_of_find? found),
                full.pollStage_of_unsettled rung (mine.rename rho) fullWaits
                  (same.trans settled) fullOwns,
                stage.isLate_rename]
              obtain ⟨answer, after⟩ := mirrors.expire
              by_cases late : stage.isLate rung = true
              · simp only [if_pos late, Step.answer_map, Step.after_map]
                exact ⟨congrArg some answer, after⟩
              · simp only [if_neg late]
                exact ⟨trivial, mirrors⟩

end Mirrors

end Correlator

end Switchboard
