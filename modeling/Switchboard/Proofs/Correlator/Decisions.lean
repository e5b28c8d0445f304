import Switchboard.Proofs.Correlator.Invariant

/-!
# One decision, seen by all

A ledger notes down every decision of a run: each reply that was taken, each
cancellation that went through, and each deadline that ended the wait for a
pending record.  A record is known by its cell.  The invariant ties the ledger
to the cells, to the states of the records and to the outcomes that waiters
know, so that a record is decided at most once and no waiter ever sees
anything else.
-/

namespace Switchboard

/-- The decisions in a ledger about the record of a cell. -/
def decisionsOn (cell : CellId) (ledger : List Ruling) : List Decision :=
  (ledger.filter fun ruling => ruling.1 = cell).map Prod.snd

/-- What the settlement of a cell says about the decisions on its record. -/
def Settlement.Tells (decisions : List Decision) :
    Option Settlement → Prop
  | some (.reply payload) => decisions = [.completed payload]
  | some .cancelled => decisions = [.cancelled]
  | _ => decisions = [] ∨ decisions = [.timedOut]

/-- Whether an outcome is one that waiters may see, given the decisions on
their record. -/
def Outcome.Agrees (decisions : List Decision) (outcome : Outcome) : Prop :=
  match decisions with
  | [.completed payload] => outcome = .completed payload
  | [.cancelled] => outcome = .cancelled
  | _ => outcome = .timedOut ∨ outcome = .abandoned

theorem Settlement.Tells.length_le {decisions : List Decision}
    {settlement : Option Settlement} (tells : Tells decisions settlement) :
    decisions.length ≤ 1 := by
  have undecided : decisions = [] ∨ decisions = [.timedOut] →
      decisions.length ≤ 1 := by
    rintro (rfl | rfl) <;> simp
  cases settlement with
  | none => exact undecided tells
  | some settlement =>
      cases settlement with
      | reply payload =>
          cases tells
          simp
      | cancelled =>
          cases tells
          simp
      | expired => exact undecided tells
      | shutdown => exact undecided tells

theorem Settlement.Tells.agrees {decisions : List Decision}
    {settlement : Settlement} (tells : Tells decisions (some settlement)) :
    settlement.outcome.Agrees decisions := by
  cases settlement with
  | reply payload =>
      cases tells
      rfl
  | cancelled =>
      cases tells
      rfl
  | expired => rcases tells with rfl | rfl <;> exact .inr rfl
  | shutdown => rcases tells with rfl | rfl <;> exact .inr rfl

@[simp]
theorem decisionsOn_append (cell : CellId) (first second : List Ruling) :
    decisionsOn cell (first ++ second) =
      decisionsOn cell first ++ decisionsOn cell second := by
  simp [decisionsOn]

@[simp]
theorem decisionsOn_self (cell : CellId) (decision : Decision) :
    decisionsOn cell [(cell, decision)] = [decision] := by
  simp [decisionsOn]

theorem decisionsOn_of_ne {cell other : CellId} (different : other ≠ cell)
    (decision : Decision) : decisionsOn cell [(other, decision)] = [] := by
  simp [decisionsOn, different]

namespace Correlator

/-- No more can be decided about the record of a cell. -/
def Closed (correlator : Correlator) (cell : CellId) : Prop :=
  ∀ {id : RequestId} {record : Record},
    Records.find? id correlator.records = some record →
      record.cell = cell → record.state ≠ .pending

/-- A ledger that fits a correlator. -/
structure Fits (ledger : List Ruling) (correlator : Correlator) : Prop where
  tells : ∀ cell,
    Settlement.Tells (decisionsOn cell ledger)
      (correlator.cells.settlement? cell)
  unissued : ∀ {cell : CellId}, correlator.cells.issued ≤ cell →
    decisionsOn cell ledger = []
  undecided : ∀ {id : RequestId} {record : Record},
    Records.find? id correlator.records = some record →
      record.state = .pending → decisionsOn record.cell ledger = []

namespace Touches

variable {id : RequestId} {before after : Correlator}
  {ruling : Option Ruling}

private theorem pending_of_ruling (touches : Touches id before ruling after)
    {cell : CellId} {decision : Decision}
    (ruled : ruling = some (cell, decision)) :
    ∃ record, Records.find? id before.records = some record ∧
      record.cell = cell ∧ record.state = .pending := by
  cases touches with
  | unchanged => cases ruled
  | registered _ _ _ => cases ruled
  | fulfilled record payload found pending =>
      cases ruled
      exact ⟨record, found, rfl, pending⟩
  | cancelled record found pending =>
      cases ruled
      exact ⟨record, found, rfl, pending⟩
  | timedOut record found pending =>
      cases ruled
      exact ⟨record, found, rfl, pending⟩
  | collected _ _ _ => cases ruled

/-- A step rules on the cell of the pending record that it touches only. -/
theorem decisionsOn_of_apart (touches : Touches id before ruling after)
    {cell : CellId}
    (apart : ∀ record, Records.find? id before.records = some record →
      record.state = .pending → record.cell ≠ cell) :
    decisionsOn cell ruling.toList = [] := by
  cases ruled : ruling with
  | none => rfl
  | some entry =>
      obtain ⟨owned, decision⟩ := entry
      obtain ⟨record, found, equal, pending⟩ :=
        touches.pending_of_ruling ruled
      exact decisionsOn_of_ne (equal ▸ apart record found pending) decision

/-- A pending record is new, or was pending before and is not ruled on. -/
theorem pending_before (touches : Touches id before ruling after)
    (sound : before.Sound) {other : RequestId} {record : Record}
    (found : Records.find? other after.records = some record)
    (pending : record.state = .pending) :
    Records.find? other before.records = some record ∧
        decisionsOn record.cell ruling.toList = [] ∨
      record.cell = before.cells.issued := by
  by_cases same : other = id
  · subst same
    cases touches with
    | unchanged => exact .inl ⟨found, rfl⟩
    | registered now opened absent =>
        have equal : Record.fresh other now before.cells.issued = record := by
          simpa [store, Records.find?_put_self] using found
        exact .inr (equal ▸ rfl)
    | fulfilled old payload oldFound oldPending =>
        have equal :
            { old with state := .completed, payload := some payload } =
              record := by
          simpa [store, Records.find?_put_self] using found
        cases equal
        cases pending
    | cancelled old oldFound oldPending =>
        simp [remove, Records.find?_erase_self] at found
    | timedOut old oldFound oldPending =>
        have equal : { old with state := .timedOut } = record := by
          simpa [store, Records.find?_put_self] using found
        cases equal
        cases pending
    | collected old oldFound completed =>
        simp [remove, Records.find?_erase_self] at found
  · rw [touches.elsewhere same] at found
    refine .inl ⟨found, touches.decisionsOn_of_apart ?_⟩
    intro touched touchedFound _ equal
    exact same (sound.apart touchedFound found equal).symm

private theorem tells {ledger : List Ruling}
    (touches : Touches id before ruling after) (sound : before.Sound)
    (fits : before.Fits ledger) {record : Record}
    (found : Records.find? id before.records = some record) :
    Settlement.Tells (decisionsOn record.cell (ledger ++ ruling.toList))
      (after.cells.settlement? record.cell) := by
  have before := fits.tells record.cell
  cases touches with
  | unchanged => simpa using before
  | registered now opened absent => simp [absent] at found
  | fulfilled old payload oldFound pending =>
      obtain rfl : old = record :=
        Option.some.inj (oldFound.symm.trans found)
      have settled := sound.settlement?_settle_of_pending found pending
        (.reply payload)
      simp [store, settled, fits.undecided found pending, Settlement.Tells]
  | cancelled old oldFound pending =>
      obtain rfl : old = record :=
        Option.some.inj (oldFound.symm.trans found)
      have settled := sound.settlement?_settle_of_pending found pending
        .cancelled
      simp [remove, settled, fits.undecided found pending, Settlement.Tells]
  | timedOut old oldFound pending =>
      obtain rfl : old = record :=
        Option.some.inj (oldFound.symm.trans found)
      have unsettled := sound.unsettled_of_pending found pending
      simp [store, unsettled, fits.undecided found pending, Settlement.Tells]
  | collected old oldFound completed => simpa [remove] using before

theorem fits {ledger : List Ruling} (touches : Touches id before ruling after)
    (sound : before.Sound) (fits : before.Fits ledger) :
    after.Fits (ledger ++ ruling.toList) := by
  constructor
  · intro cell
    by_cases ruled : ∃ record,
        Records.find? id before.records = some record ∧ record.cell = cell
    · obtain ⟨record, found, owned⟩ := ruled
      rw [← owned]
      exact touches.tells sound fits found
    · have apart : ∀ record,
          Records.find? id before.records = some record →
            record.cell ≠ cell :=
        fun record found equal => ruled ⟨record, found, equal⟩
      rw [touches.settlement?_of_apart apart, decisionsOn_append,
        touches.decisionsOn_of_apart fun record found _ => apart record found,
        List.append_nil]
      exact fits.tells cell
  · intro cell unissued
    have unissuedBefore : before.cells.issued ≤ cell :=
      Nat.le_trans touches.grows.issued unissued
    rw [decisionsOn_append, fits.unissued unissuedBefore, List.nil_append]
    apply touches.decisionsOn_of_apart
    intro record found _ equal
    have bound := (sound.records found).issued
    rw [equal] at bound
    exact Nat.not_lt_of_le unissuedBefore bound
  · intro other record found pending
    rw [decisionsOn_append]
    rcases touches.pending_before sound found pending with
      ⟨old, unruled⟩ | isNew
    · rw [fits.undecided old pending, unruled]
      rfl
    · rw [isNew, fits.unissued (Nat.le_refl _), List.nil_append]
      apply touches.decisionsOn_of_apart
      intro touched touchedFound _ equal
      exact Nat.ne_of_lt (sound.records touchedFound).issued equal

/-- Nothing is decided any more about a record that is decided or gone. -/
theorem spares (touches : Touches id before ruling after)
    (sound : before.Sound) {cell : CellId}
    (issued : cell < before.cells.issued) (closed : before.Closed cell) :
    decisionsOn cell ruling.toList = [] ∧ after.Closed cell := by
  constructor
  · apply touches.decisionsOn_of_apart
    intro record found pending owned
    exact closed found owned pending
  · intro other record found owned pending
    rcases touches.pending_before sound found pending with
      ⟨old, _⟩ | isNew
    · exact closed old owned pending
    · rw [owned] at isNew
      exact Nat.ne_of_lt issued isNew

end Touches

namespace Clears

variable {keep : Record → Bool} {reason : Settlement}
  {before after : Correlator}

theorem fits {ledger : List Ruling} (clears : Clears keep reason before after)
    (sound : before.Sound) (fits : before.Fits ledger)
    (mild : reason = .expired ∨ reason = .shutdown) : after.Fits ledger := by
  constructor
  · intro cell
    have tells := fits.tells cell
    rcases clears.settlement?_cases cell with same | ⟨unsettled, settled⟩
    · rw [same]
      exact tells
    · rw [unsettled] at tells
      rw [settled]
      rcases mild with rfl | rfl <;> exact tells
  · intro cell unissued
    rw [clears.issued] at unissued
    exact fits.unissued unissued
  · intro id record found pending
    exact fits.undecided ((clears.find?_eq_some_iff sound).mp found).1 pending

theorem spares (clears : Clears keep reason before after)
    (sound : before.Sound) {cell : CellId} (closed : before.Closed cell) :
    after.Closed cell :=
  fun found owned =>
    closed ((clears.find?_eq_some_iff sound).mp found).1 owned

end Clears

theorem Sound.closed_of_settled {correlator : Correlator}
    (sound : correlator.Sound) {cell : CellId} {settlement : Settlement}
    (settled : correlator.cells.settlement? cell = some settlement) :
    correlator.Closed cell := by
  intro id record found owned pending
  have unsettled := sound.unsettled_of_pending found pending
  rw [owned, settled] at unsettled
  cases unsettled

theorem Sound.closed_of_find? {correlator : Correlator}
    (sound : correlator.Sound) {id : RequestId} {record : Record}
    {cell : CellId}
    (found : Records.find? id correlator.records = some record)
    (owned : record.cell = cell) (decided : record.state ≠ .pending) :
    correlator.Closed cell := by
  intro other second secondFound secondOwned
  have same : other = id :=
    sound.apart secondFound found (secondOwned.trans owned.symm)
  subst same
  rw [found] at secondFound
  cases secondFound
  exact decided

/-- A record that has timed out was given up, or nothing was decided about
it. -/
theorem Fits.agrees_timedOut {ledger : List Ruling} {correlator : Correlator}
    (fits : correlator.Fits ledger) {cell : CellId}
    (unsettled : correlator.cells.settlement? cell = none) :
    Outcome.timedOut.Agrees (decisionsOn cell ledger) := by
  have tells := fits.tells cell
  rw [unsettled] at tells
  rcases tells with none | timedOut
  · rw [none]
    exact .inl rfl
  · rw [timedOut]
    exact .inl rfl

theorem Fits.agrees {ledger : List Ruling} {correlator : Correlator}
    (fits : correlator.Fits ledger) {cell : CellId} {settlement : Settlement}
    (settled : correlator.cells.settlement? cell = some settlement) :
    settlement.outcome.Agrees (decisionsOn cell ledger) := by
  have tells := fits.tells cell
  rw [settled] at tells
  exact tells.agrees

/-- A caller who is told the outcome at once is told what was decided. -/
theorem Attaches.informed {now : Instant} {id : RequestId}
    {before after : Correlator} {origin : Option CellId} {outcome : Outcome}
    {cell : CellId} {ledger : List Ruling}
    (attaches : Attaches now id before (.resolved outcome) origin after)
    (sound : before.Sound) (fits : before.Fits ledger)
    (own : origin = some cell) :
    outcome.Agrees (decisionsOn cell ledger) ∧ after.Closed cell := by
  have touches := attaches.touches
  cases attaches with
  | closed _ => cases own
  | collected record found completed =>
      cases own
      have recordSound := sound.records found
      obtain ⟨payload, stored, settled⟩ := recordSound.completed completed
      rw [stored]
      refine ⟨fits.agrees settled, ?_⟩
      exact (touches.spares sound recordSound.issued
        (sound.closed_of_settled settled)).2
  | late record found timedOut =>
      cases own
      have unsettled := ((sound.records found).unsettled (.inr timedOut)).2
      refine ⟨fits.agrees_timedOut unsettled, ?_⟩
      exact sound.closed_of_find? found rfl (by simp [timedOut])
  | cancelled record found cancelled =>
      exact ((sound.records found).uncancelled cancelled).elim

/-- A caller who gets an outcome from a poll gets what was decided, be it by
this poll. -/
theorem Polls.informed {id : RequestId} {cell : CellId}
    {before after : Correlator} {outcome : Outcome}
    {ruling : Option Ruling} {ledger : List Ruling}
    (polls : Polls id cell before (some outcome) ruling after)
    (sound : before.Sound) (fits : before.Fits ledger) :
    outcome.Agrees (decisionsOn cell (ledger ++ ruling.toList)) ∧
      after.Closed cell := by
  have touches := polls.touches
  cases polls with
  | collected settlement settled =>
      refine ⟨by simpa using fits.agrees settled, ?_⟩
      exact (touches.spares sound (sound.settledIssued settled)
        (sound.closed_of_settled settled)).2
  | lapsed record unsettled found owned pending =>
      subst owned
      have stored : Records.find? id
          ((before.store id { record with state := .timedOut }).tallyOut
            .pending).records = some { record with state := .timedOut } := by
        simpa [store] using Records.find?_put_self id _ before.records
      refine ⟨?_, (touches.sound sound).closed_of_find? stored rfl (by simp)⟩
      simp [fits.undecided found pending, Outcome.Agrees]
  | late record unsettled found owned timedOut =>
      refine ⟨by simpa using fits.agrees_timedOut unsettled, ?_⟩
      exact sound.closed_of_find? found owned (by simp [timedOut])

/-- A poll gives nothing but what was decided, and it gives that if a reply was
taken or a cancellation went through. -/
theorem Polls.agrees {id : RequestId} {cell : CellId}
    {before after : Correlator} {answer : Option Outcome}
    {ruling : Option Ruling} {ledger : List Ruling}
    (polls : Polls id cell before answer ruling after)
    (fits : before.Fits ledger) :
    (∀ outcome, answer = some outcome →
        outcome.Agrees (decisionsOn cell ledger)) ∧
      (answer = none →
        decisionsOn cell ledger = [] ∨
          decisionsOn cell ledger = [.timedOut]) := by
  cases polls with
  | collected settlement settled =>
      refine ⟨?_, by simp⟩
      intro outcome answered
      cases answered
      exact fits.agrees settled
  | blocked unsettled =>
      refine ⟨by simp, ?_⟩
      intro _
      have tells := fits.tells cell
      rwa [unsettled] at tells
  | lapsed record unsettled found owned pending =>
      refine ⟨?_, by simp⟩
      intro outcome answered
      cases answered
      exact fits.agrees_timedOut unsettled
  | late record unsettled found owned timedOut =>
      refine ⟨?_, by simp⟩
      intro outcome answered
      cases answered
      exact fits.agrees_timedOut unsettled

end Correlator

namespace Session

/-- The ledger of a run. -/
def rulings (session : Session) : List Action → List Ruling
  | [] => []
  | action :: rest =>
      (session.ruling? action).toList ++
        (session.act action).after.rulings rest

/-- A ledger is consistent with a session: what waiters know is what it says
about their records, and no more can be decided about those. -/
structure Consistent (session : Session) (ledger : List Ruling) : Prop where
  fits : session.correlator.Fits ledger
  informed : ∀ {id : RequestId} {waiter : Waiter} {cell : CellId}
    {outcome : Outcome},
    waiter ∈ session.waiters id → waiter.origin = some cell →
      waiter.stage.known? = some outcome →
      outcome.Agrees (decisionsOn cell ledger) ∧
        session.correlator.Closed cell

theorem ruling?_of_aboutAll (session : Session) {action : Action}
    (aboutAll : action.id? = none) : session.ruling? action = none := by
  cases action with
  | complete id payload => cases aboutAll
  | cancel id => cases aboutAll
  | poll id number => cases aboutAll
  | _ => rfl

theorem act_fits {session : Session} (sound : session.Sound)
    {ledger : List Ruling} (fits : session.correlator.Fits ledger)
    (action : Action) :
    (session.act action).after.correlator.Fits
      (ledger ++ (session.ruling? action).toList) := by
  cases about : action.id? with
  | some id => exact (act_touches sound about).fits sound.correlator fits
  | none =>
      rw [session.ruling?_of_aboutAll about, Option.toList_none,
        List.append_nil]
      refine (act_clears sound about).fits sound.correlator fits ?_
      cases action <;> simp [Action.reason]

private theorem act_spares {session : Session} (sound : session.Sound)
    (action : Action) {cell : CellId}
    (issued : cell < session.correlator.cells.issued)
    (closed : session.correlator.Closed cell) :
    decisionsOn cell (session.ruling? action).toList = [] ∧
      (session.act action).after.correlator.Closed cell := by
  cases about : action.id? with
  | some id =>
      exact (act_touches sound about).spares sound.correlator issued closed
  | none =>
      rw [session.ruling?_of_aboutAll about]
      exact ⟨rfl, (act_clears sound about).spares sound.correlator closed⟩

theorem consistent_start (defaultTimeout maxRecordAge : Nat) :
    (start defaultTimeout maxRecordAge).Consistent [] := by
  refine ⟨⟨?_, ?_, ?_⟩, ?_⟩
  · intro cell
    exact .inl rfl
  · intro cell unissued
    rfl
  · intro id record found
    cases found
  · intro id waiter cell outcome member
    cases member

private theorem act_consistent {session : Session} (sound : session.Sound)
    {ledger : List Ruling} (consistent : session.Consistent ledger)
    (action : Action) :
    (session.act action).after.Consistent
      (ledger ++ (session.ruling? action).toList) := by
  refine ⟨act_fits sound consistent.fits action, ?_⟩
  -- What was known to someone who was there before is still true.
  have still : ∀ {id : RequestId} {waiter : Waiter} {cell : CellId}
      {outcome : Outcome},
      waiter ∈ session.waiters id → waiter.origin = some cell →
        waiter.stage.known? = some outcome →
        outcome.Agrees (decisionsOn cell
            (ledger ++ (session.ruling? action).toList)) ∧
          (session.act action).after.correlator.Closed cell := by
    intro id waiter cell outcome member own known
    obtain ⟨agrees, closed⟩ := consistent.informed member own known
    obtain ⟨unruled, closedAfter⟩ :=
      act_spares sound action ((sound.waiters member).issued own) closed
    rw [decisionsOn_append, unruled, List.append_nil]
    exact ⟨agrees, closedAfter⟩
  intro id waiter cell outcome member own known
  cases act_arrives member with
  | stayed _ old => exact still old own known
  | joined attachment origin stage unruled attaches mine comes =>
      rw [comes.resolved known] at attaches
      rw [unruled, Option.toList_none, List.append_nil]
      exact attaches.informed sound.correlator consistent.fits own
  | limited origin handle deadline old => exact still old own known
  | polled waiter old ruled equal =>
      have waiterSound := sound.waiters old
      cases answer :
          (session.correlator.pollStage session.rung waiter.stage).answer with
      | none =>
          rw [answer] at known
          exact still old own known
      | some seen =>
          rw [answer] at known
          cases known
          cases waits : waiter.stage.cell? with
          | none =>
              exact still old own
                (Correlator.known?_of_answer_pollStage waits answer)
          | some held =>
              have same : held = cell :=
                Option.some.inj ((waiterSound.origin waits).symm.trans own)
              subst same
              have polls := Correlator.pollStage_polls sound.correlator
                session.rung waiterSound.mine waits
                (waiterSound.attached waits)
              rw [answer, ← equal, ← ruled] at polls
              exact polls.informed sound.correlator consistent.fits

theorem run_consistent {session : Session} (sound : session.Sound)
    {ledger : List Ruling} (consistent : session.Consistent ledger)
    (actions : List Action) :
    (session.run actions).Consistent
      (ledger ++ session.rulings actions) := by
  induction actions generalizing session ledger with
  | nil => simpa [run, rulings] using consistent
  | cons action rest induction =>
      have step := act_consistent sound consistent action
      simpa [run, rulings] using induction (act_sound sound action) step

/-- A caller who has not ended is answered what was decided about its
record. -/
theorem poll_agrees {session : Session} (sound : session.Sound)
    {ledger : List Ruling} (consistent : session.Consistent ledger)
    {id : RequestId} {number : Nat} {waiter : Waiter} {cell : CellId}
    (present : (session.waiters id)[number]? = some waiter)
    (own : waiter.origin = some cell)
    (active : waiter.stage.isEnded = false) :
    ∃ answer,
      (session.act (.poll id number)).answer = .polled answer ∧
      (∀ outcome, answer = some outcome →
        outcome.Agrees (decisionsOn cell ledger)) ∧
      (answer = none →
        decisionsOn cell ledger = [] ∨
          decisionsOn cell ledger = [.timedOut]) := by
  have member := List.mem_of_getElem? present
  have waiterSound := sound.waiters member
  refine ⟨(session.correlator.pollStage session.rung waiter.stage).answer,
    by simp [act, poll, present, onCorrelator], ?_⟩
  cases waits : waiter.stage.cell? with
  | none =>
      obtain ⟨known, isKnown⟩ := Stage.known?_of_cell?_eq_none waits
      rw [session.correlator.pollStage_of_known session.rung active isKnown]
      refine ⟨?_, by simp⟩
      intro outcome answered
      cases answered
      exact (consistent.informed member own isKnown).1
  | some held =>
      have same : held = cell :=
        Option.some.inj ((waiterSound.origin waits).symm.trans own)
      subst same
      exact
        (Correlator.pollStage_polls sound.correlator session.rung
          waiterSound.mine waits (waiterSound.attached waits)).agrees
            consistent.fits

/-- One decision is seen by all: at most one reply, cancellation or timeout is
ever about the record of a cell, and all waiters on the record agree with it,
at the latest at their next poll. -/
theorem waiters_agree_with_the_one_decision
    (defaultTimeout maxRecordAge : Nat) (actions : List Action)
    (cell : CellId) :
    let begun := start defaultTimeout maxRecordAge
    let session := begun.run actions
    let decisions := decisionsOn cell (begun.rulings actions)
    decisions.length ≤ 1 ∧
    (session.correlator.cells.issued ≤ cell → decisions = []) ∧
    ∀ id number waiter,
      (session.waiters id)[number]? = some waiter →
      waiter.origin = some cell →
        cell < session.correlator.cells.issued ∧
        (∀ outcome, waiter.stage.known? = some outcome →
          outcome.Agrees decisions) ∧
        (waiter.stage.isEnded = false →
          ∃ answer,
            (session.act (.poll id number)).answer = .polled answer ∧
            (∀ outcome, answer = some outcome →
              outcome.Agrees decisions) ∧
            (answer = none →
              decisions = [] ∨ decisions = [.timedOut])) := by
  intro begun session decisions
  have begunSound := sound_start defaultTimeout maxRecordAge
  have sound : session.Sound := run_sound begunSound actions
  have consistent : session.Consistent (begun.rulings actions) :=
    run_consistent begunSound (consistent_start defaultTimeout maxRecordAge)
      actions
  refine ⟨(consistent.fits.tells cell).length_le,
    fun unissued => consistent.fits.unissued unissued, ?_⟩
  intro id number waiter present own
  have member := List.mem_of_getElem? present
  exact ⟨(sound.waiters member).issued own,
    fun outcome known => (consistent.informed member own known).1,
    fun active => poll_agrees sound consistent present own active⟩

/-- A waiter gets the reply to its own record, after another waiter has
collected it and a second record under the id was cancelled. -/
theorem first_reply_after_second_record_cancelled :
    let begun := start 5000 300000
    let actions : List Action :=
      [.openHandle 1, .wait 1 1000, .complete 1 "first", .poll 1 0,
        .openHandle 1, .cancel 1, .advance 2000, .ring]
    decisionsOn 0 (begun.rulings actions) = [.completed "first"] ∧
      decisionsOn 1 (begun.rulings actions) = [.cancelled] ∧
      ((begun.run actions).act (.poll 1 1)).answer =
        .polled (some (.completed "first")) := by
  intro begun actions
  have taken :
      decisionsOn 0 (begun.rulings actions) = [.completed "first"] := by
    decide
  refine ⟨taken, by decide, ?_⟩
  obtain ⟨answer, answered, agrees, undecided⟩ :=
    ((waiters_agree_with_the_one_decision 5000 300000 actions 0).2.2 1 1
      ⟨some 0, .waiting ⟨1, 0, 1000⟩⟩ (by decide) rfl).2.2 rfl
  change (∀ outcome, answer = some outcome →
    outcome.Agrees (decisionsOn 0 (begun.rulings actions))) at agrees
  rw [taken] at agrees
  cases answer with
  | none => simp [begun, taken] at undecided
  | some outcome => rw [answered, agrees outcome rfl]

end Session

end Switchboard
