import Switchboard.Proofs.Correlator.Invariant
import Switchboard.Proofs.Correlator.Mirror

/-!
# Independence of ids

What can be seen of an id does not depend on what happens on other ids.  A run
is compared with the one in which only the steps about the id, or about all,
are left.  The invariant is that the second session mirrors the first on the
id; the cells that the first run issues for the id, in their order, give the
renaming.
-/

namespace Switchboard

namespace Session

/-- Whether an action is about an id, or about all. -/
def Action.concerns (action : Action) (id : RequestId) : Bool :=
  action.id?.all fun other => other = id

/-- What can be seen of an id behind a step. -/
structure View where
  /-- What the step answered, if it was about the id. -/
  answer : Option Answer
  record : Option Record
  /-- What the cell of the record is settled with. -/
  settlement : Option Settlement
  waiters : List Waiter
  deriving Repr, DecidableEq

def View.rename (view : View) (rho : Renaming) : View :=
  { view with
    answer := view.answer.map fun answer => answer.rename rho
    record := view.record.map fun record => record.rename rho
    waiters := view.waiters.map fun waiter => waiter.rename rho }

def view (session : Session) (id : RequestId) (action : Action) : View :=
  let step := session.act action
  let after := step.after.correlator
  { answer := action.id?.map fun _ => step.answer
    record := Records.find? id after.records
    settlement :=
      (Records.find? id after.records).bind fun record =>
        after.cells.settlement? record.cell
    waiters := step.after.waiters id }

/-- What is seen of an id behind the steps of a run that are about it or about
all. -/
def views (session : Session) (id : RequestId) : List Action → List View
  | [] => []
  | action :: rest =>
      let later := (session.act action).after.views id rest
      if action.concerns id then
        session.view id action :: later
      else
        later

/-- The cells that a run issues for an id. -/
def cellsFor (session : Session) (id : RequestId) :
    List Action → List CellId
  | [] => []
  | action :: rest =>
      let after := (session.act action).after
      let issued := session.correlator.cells.issued
      let later := after.cellsFor id rest
      if action.id? = some id ∧ after.correlator.cells.issued ≠ issued then
        issued :: later
      else
        later

/-- One session mirrors another on an id. -/
structure Mirrors (id : RequestId) (rho : Renaming)
    (full part : Session) : Prop where
  correlator :
    Correlator.Mirrors id rho full.correlator part.correlator
  now : full.now = part.now
  rung : full.rung = part.rung
  waiters : full.waiters id =
    (part.waiters id).map fun waiter => waiter.rename rho

theorem mirrors_start (id : RequestId) (rho : Renaming)
    (defaultTimeout maxRecordAge : Nat) :
    Mirrors id rho (start defaultTimeout maxRecordAge)
      (start defaultTimeout maxRecordAge) := by
  refine ⟨⟨rfl, rfl, rfl, rfl, ?_, ?_, ?_, ?_, ?_⟩, rfl, rfl, rfl⟩
  · intro cell bound
    exact (Nat.not_lt_zero cell bound).elim
  · intro cell bound
    exact (Nat.not_lt_zero cell bound).elim
  · intro cell other bound
    exact (Nat.not_lt_zero cell bound).elim
  · intro other record cell different found
    cases found
  · intro other different
    rfl

private theorem waiters_act_of_ne (session : Session) {action : Action}
    {id other : RequestId} (about : action.id? = some other)
    (different : id ≠ other) :
    (session.act action).after.waiters id = session.waiters id := by
  cases action with
  | wait own timeout =>
      cases about
      exact if_neg different
  | waitDefault own =>
      cases about
      exact if_neg different
  | openHandle own =>
      cases about
      exact if_neg different
  | limit own number timeout =>
      cases about
      simp only [act, limit]
      split
      · exact if_neg different
      · rfl
  | poll own number =>
      cases about
      simp only [act, poll]
      split
      · exact if_neg different
      · rfl
  | complete own payload => rfl
  | cancel own => rfl
  | _ => cases about

theorem times_act (session : Session) {action : Action} {id : RequestId}
    (about : action.id? = some id) :
    (session.act action).after.now = session.now ∧
      (session.act action).after.rung = session.rung := by
  cases action with
  | wait own timeout => exact ⟨rfl, rfl⟩
  | waitDefault own => exact ⟨rfl, rfl⟩
  | openHandle own => exact ⟨rfl, rfl⟩
  | limit own number timeout =>
      simp only [act, limit]
      split <;> exact ⟨rfl, rfl⟩
  | poll own number =>
      simp only [act, poll]
      split <;> exact ⟨rfl, rfl⟩
  | complete own payload => exact ⟨rfl, rfl⟩
  | cancel own => exact ⟨rfl, rfl⟩
  | _ => cases about

namespace Mirrors

variable {id : RequestId} {rho : Renaming} {full part : Session}

theorem elsewhere (mirrors : Mirrors id rho full part) (sound : full.Sound)
    {action : Action} {other : RequestId} (about : action.id? = some other)
    (different : id ≠ other) :
    Mirrors id rho (full.act action).after part := by
  obtain ⟨now, rung⟩ := full.times_act about
  refine ⟨?_, ?_, ?_, ?_⟩
  · exact mirrors.correlator.elsewhere sound.correlator different
      (act_touches sound about)
  · rw [now, mirrors.now]
  · rw [rung, mirrors.rung]
  · rw [full.waiters_act_of_ne about different, mirrors.waiters]

theorem everywhere (mirrors : Mirrors id rho full part)
    (fullSound : full.Sound) (partSound : part.Sound) {action : Action}
    (aboutAll : action.id? = none) :
    Mirrors id rho (full.act action).after (part.act action).after := by
  have keeps : ∀ record : Record,
      full.keeps action (record.rename rho) = part.keeps action record := by
    intro record
    cases action with
    | sweep time =>
        simp only [Session.keeps, Correlator.keeps,
          mirrors.correlator.maxRecordAge]
        rfl
    | _ => rfl
  refine ⟨?_, ?_, ?_, ?_⟩
  · exact mirrors.correlator.clears fullSound.correlator partSound.correlator
      (act_clears fullSound aboutAll) (act_clears partSound aboutAll) keeps
  · cases action with
    | advance millis => exact congrArg (· + millis) mirrors.now
    | dropCompleted => exact mirrors.now
    | sweep time => exact mirrors.now
    | shutDown => exact mirrors.now
    | ring => exact mirrors.now
    | _ => cases aboutAll
  · cases action with
    | advance millis => exact mirrors.rung
    | dropCompleted => exact mirrors.rung
    | sweep time => exact mirrors.rung
    | shutDown => exact mirrors.rung
    | ring => exact mirrors.now
    | _ => cases aboutAll
  · rw [full.waiters_act aboutAll, part.waiters_act aboutAll,
      mirrors.waiters]

theorem update (mirrors : Mirrors id rho full part)
    {fullAfter partAfter : Correlator}
    (correlator : Correlator.Mirrors id rho fullAfter partAfter)
    (waiters : List Waiter) :
    Mirrors id rho
      ({ full with correlator := fullAfter }.setWaiters id
        (waiters.map fun waiter : Waiter => waiter.rename rho))
      ({ part with correlator := partAfter }.setWaiters id waiters) := by
  refine ⟨correlator, mirrors.now, mirrors.rung, ?_⟩
  simp [setWaiters]

theorem enter (mirrors : Mirrors id rho full part)
    {fullAfter partAfter : Correlator}
    (correlator : Correlator.Mirrors id rho fullAfter partAfter)
    (newcomer : Option Waiter) :
    Mirrors id rho
      ({ full with correlator := fullAfter }.enter id
        (newcomer.map fun waiter : Waiter => waiter.rename rho))
      ({ part with correlator := partAfter }.enter id newcomer) := by
  have replaced := mirrors.update correlator
    (part.waiters id ++ newcomer.toList)
  rw [List.map_append, ← mirrors.waiters] at replaced
  cases newcomer <;> exact replaced

theorem startWait (mirrors : Mirrors id rho full part)
    (fullSound : full.Sound) (partSound : part.Sound) (timeout : Nat)
    (next :
      (full.startWait id timeout).after.correlator.cells.issued ≠
          full.correlator.cells.issued →
        rho part.correlator.cells.issued = full.correlator.cells.issued) :
    (full.startWait id timeout).answer =
        (part.startWait id timeout).answer.rename rho ∧
      Mirrors id rho (full.startWait id timeout).after
        (part.startWait id timeout).after := by
  obtain ⟨answer, origin, after⟩ :=
    mirrors.correlator.startWait fullSound.correlator partSound.correlator
      mirrors.now timeout next
  have newcomer :
      ((full.correlator.startWait full.now id timeout).answer.stage?.map
        fun stage =>
          { origin := full.correlator.origin id, stage := stage : Waiter }) =
      ((part.correlator.startWait part.now id timeout).answer.stage?.map
        fun stage =>
          { origin := part.correlator.origin id
            stage := stage : Waiter }).map
        fun waiter => waiter.rename rho := by
    by_cases zero : timeout = 0
    · simp [Correlator.startWait, zero, WaitStart.stage?]
    · rw [answer, WaitStart.stage?_rename, origin zero, Option.map_map,
        Option.map_map]
      rfl
  have entered := mirrors.enter after
    ((part.correlator.startWait part.now id timeout).answer.stage?.map
      fun stage =>
        { origin := part.correlator.origin id, stage := stage : Waiter })
  rw [← newcomer] at entered
  exact ⟨congrArg Answer.started answer, entered⟩

theorem openHandle (mirrors : Mirrors id rho full part)
    (fullSound : full.Sound) (partSound : part.Sound)
    (next :
      (full.openHandle id).after.correlator.cells.issued ≠
          full.correlator.cells.issued →
        rho part.correlator.cells.issued = full.correlator.cells.issued) :
    (full.openHandle id).answer = (part.openHandle id).answer.rename rho ∧
      Mirrors id rho (full.openHandle id).after
        (part.openHandle id).after := by
  obtain ⟨answer, origin, after⟩ :=
    mirrors.correlator.openHandle fullSound.correlator partSound.correlator
      mirrors.now next
  have newcomer :
      some
        { origin := full.correlator.origin id
          stage :=
            .holding
              (full.correlator.openHandle full.now id).answer : Waiter } =
      (some
        { origin := part.correlator.origin id
          stage :=
            .holding
              (part.correlator.openHandle part.now id).answer : Waiter }).map
        fun waiter => waiter.rename rho := by
    rw [answer, origin]
    rfl
  have entered := mirrors.enter after
    (some
      { origin := part.correlator.origin id
        stage :=
          .holding (part.correlator.openHandle part.now id).answer : Waiter })
  rw [← newcomer] at entered
  exact ⟨congrArg Answer.opened answer, entered⟩

theorem present (mirrors : Mirrors id rho full part) (number : Nat) :
    (full.waiters id)[number]? =
      ((part.waiters id)[number]?).map fun waiter => waiter.rename rho := by
  rw [mirrors.waiters, List.getElem?_map]

theorem move (mirrors : Mirrors id rho full part)
    {fullAfter partAfter : Correlator}
    (correlator : Correlator.Mirrors id rho fullAfter partAfter)
    (number : Nat) (waiter : Waiter) :
    Mirrors id rho
      ({ full with correlator := fullAfter }.setWaiters id
        ((full.waiters id).set number (waiter.rename rho)))
      ({ part with correlator := partAfter }.setWaiters id
        ((part.waiters id).set number waiter)) := by
  have moved := mirrors.update correlator ((part.waiters id).set number waiter)
  rw [List.map_set, ← mirrors.waiters] at moved
  exact moved

private theorem limit
    (mirrors : Mirrors id rho full part) (number timeout : Nat) :
    (full.limit id number timeout).answer =
        (part.limit id number timeout).answer.rename rho ∧
      Mirrors id rho (full.limit id number timeout).after
        (part.limit id number timeout).after := by
  have same := mirrors.present number
  cases present : (part.waiters id)[number]? with
  | none =>
      rw [present] at same
      simp only [Session.limit, present, same, Option.map_none]
      exact ⟨rfl, mirrors⟩
  | some waiter =>
      rw [present] at same
      obtain ⟨origin, stage⟩ := waiter
      cases stage with
      | holding handle =>
          have moved := mirrors.move mirrors.correlator number
            ⟨origin, .limited handle (part.now + timeout)⟩
          simp only [Session.limit, present, same, Option.map_some,
            Waiter.rename, Stage.rename, mirrors.now]
          exact ⟨rfl, moved⟩
      | _ =>
          simp only [Session.limit, present, same, Option.map_some,
            Waiter.rename, Stage.rename]
          exact ⟨rfl, mirrors⟩

private theorem poll
    (mirrors : Mirrors id rho full part) (partSound : part.Sound)
    (number : Nat) :
    (full.poll id number).answer =
        (part.poll id number).answer.rename rho ∧
      Mirrors id rho (full.poll id number).after
        (part.poll id number).after := by
  have same := mirrors.present number
  cases present : (part.waiters id)[number]? with
  | none =>
      rw [present] at same
      simp only [Session.poll, present, same, Option.map_none]
      exact ⟨rfl, mirrors⟩
  | some waiter =>
      rw [present] at same
      have waiterSound := partSound.waiters (List.mem_of_getElem? present)
      obtain ⟨answer, after⟩ :=
        mirrors.correlator.pollStage partSound.correlator mirrors.rung
          waiterSound.mine waiterSound.attached
      have behind :
          { waiter.rename rho with
            stage := (waiter.rename rho).stage.behind
              (full.correlator.pollStage full.rung
                (waiter.rename rho).stage).answer } =
          { waiter with
            stage := waiter.stage.behind
              (part.correlator.pollStage part.rung
                waiter.stage).answer }.rename rho := by
        rw [Waiter.rename, Waiter.rename, Stage.rename_behind, ← answer]
      have moved := mirrors.move after number
        { waiter with
          stage := waiter.stage.behind
            (part.correlator.pollStage part.rung waiter.stage).answer }
      rw [← behind] at moved
      simp only [Session.poll, present, same, Option.map_some]
      exact ⟨congrArg Answer.polled answer, moved⟩

/-- A step about the id answers the same on both sides. -/
theorem here (mirrors : Mirrors id rho full part) (fullSound : full.Sound)
    (partSound : part.Sound) {action : Action}
    (about : action.id? = some id)
    (next :
      (full.act action).after.correlator.cells.issued ≠
          full.correlator.cells.issued →
        rho part.correlator.cells.issued = full.correlator.cells.issued) :
    (full.act action).answer = (part.act action).answer.rename rho ∧
      Mirrors id rho (full.act action).after (part.act action).after := by
  cases action with
  | wait own timeout =>
      cases about
      exact mirrors.startWait fullSound partSound timeout next
  | waitDefault own =>
      cases about
      have started := mirrors.startWait fullSound partSound _ next
      rw [mirrors.correlator.defaultTimeout] at started
      simp only [act, mirrors.correlator.defaultTimeout]
      exact started
  | openHandle own =>
      cases about
      exact mirrors.openHandle fullSound partSound next
  | limit own number timeout =>
      cases about
      exact mirrors.limit number timeout
  | poll own number =>
      cases about
      exact mirrors.poll partSound number
  | complete own payload =>
      cases about
      obtain ⟨answer, after⟩ :=
        mirrors.correlator.complete partSound.correlator mirrors.now payload
      exact ⟨congrArg Answer.flag answer,
        ⟨after, mirrors.now, mirrors.rung, mirrors.waiters⟩⟩
  | cancel own =>
      cases about
      obtain ⟨answer, after⟩ :=
        mirrors.correlator.cancel partSound.correlator
      exact ⟨congrArg Answer.flag answer,
        ⟨after, mirrors.now, mirrors.rung, mirrors.waiters⟩⟩
  | _ => cases about

theorem view {action : Action} (partSound : (part.act action).after.Sound)
    (after :
      Mirrors id rho (full.act action).after (part.act action).after)
    (answer : action.id? ≠ none →
      (full.act action).answer = (part.act action).answer.rename rho) :
    full.view id action = (part.view id action).rename rho := by
  have answers :
      (action.id?.map fun _ => (full.act action).answer) =
        (action.id?.map fun _ => (part.act action).answer).map
          fun answer => answer.rename rho := by
    cases about : action.id? with
    | none => rfl
    | some other => exact congrArg some (answer (by simp [about]))
  have settlements :
      ((Records.find? id (full.act action).after.correlator.records).bind
        fun record =>
          (full.act action).after.correlator.cells.settlement?
            record.cell) =
      (Records.find? id (part.act action).after.correlator.records).bind
        fun record =>
          (part.act action).after.correlator.cells.settlement?
            record.cell := by
    rw [after.correlator.record]
    cases found : Records.find? id
        (part.act action).after.correlator.records with
    | none => rfl
    | some record =>
        exact after.correlator.settlement
          (partSound.correlator.records found).issued
  simp only [Session.view, View.rename]
  rw [answers, settlements, after.correlator.record, after.waiters]

/-- The renaming gives the cells that a run of the full session issues for the
id, in their order, to the cells that the other session has still to issue. -/
def Follows (id : RequestId) (rho : Renaming) (full part : Session)
    (actions : List Action) : Prop :=
  ∀ (number : Nat) (cell : CellId),
    (full.cellsFor id actions)[number]? = some cell →
      rho (part.correlator.cells.issued + number) = cell

theorem Follows.next {action : Action} {rest : List Action}
    (follows : Follows id rho full part (action :: rest))
    (about : action.id? = some id)
    (changed : (full.act action).after.correlator.cells.issued ≠
      full.correlator.cells.issued) :
    rho part.correlator.cells.issued = full.correlator.cells.issued :=
  follows 0 full.correlator.cells.issued (by
    simp [cellsFor, about, changed])

private theorem Follows.same {action : Action} {rest : List Action}
    {partAfter : Session}
    (follows : Follows id rho full part (action :: rest))
    (unchanged : action.id? = some id →
      (full.act action).after.correlator.cells.issued =
        full.correlator.cells.issued)
    (issued : partAfter.correlator.cells.issued =
      part.correlator.cells.issued) :
    Follows id rho (full.act action).after partAfter rest := by
  intro number cell later
  rw [issued]
  refine follows number cell ?_
  rw [cellsFor, if_neg (by
    rintro ⟨about, changed⟩
    exact changed (unchanged about))]
  exact later

private theorem Follows.later {action : Action} {rest : List Action}
    {partAfter : Session}
    (follows : Follows id rho full part (action :: rest))
    (about : action.id? = some id)
    (changed : (full.act action).after.correlator.cells.issued =
      full.correlator.cells.issued + 1)
    (issued : partAfter.correlator.cells.issued =
      part.correlator.cells.issued + 1) :
    Follows id rho (full.act action).after partAfter rest := by
  intro number cell later
  rw [issued, Nat.add_right_comm]
  refine follows (number + 1) cell ?_
  rw [cellsFor, if_pos ⟨about, by simp [changed]⟩]
  exact later

/-- Runs that differ in the steps about other ids look the same on the id. -/
theorem run (mirrors : Mirrors id rho full part) (fullSound : full.Sound)
    (partSound : part.Sound) {actions : List Action}
    (follows : Follows id rho full part actions) :
    let kept := actions.filter fun action => action.concerns id
    full.views id actions =
        (part.views id kept).map (fun view => view.rename rho) ∧
      Mirrors id rho (full.run actions) (part.run kept) := by
  induction actions generalizing full part with
  | nil => exact ⟨rfl, mirrors⟩
  | cons action rest induction =>
      have fullAfter := act_sound fullSound action
      have partAfter := act_sound partSound action
      -- The common part of the cases in which both sides take the step.
      have together (concerns : action.concerns id = true)
          (answer : action.id? ≠ none →
            (full.act action).answer = (part.act action).answer.rename rho)
          (after :
            Mirrors id rho (full.act action).after (part.act action).after)
          (still :
            Follows id rho (full.act action).after (part.act action).after
              rest) :
          full.views id (action :: rest) =
              (part.views id ((action :: rest).filter fun action =>
                action.concerns id)).map (fun view => view.rename rho) ∧
            Mirrors id rho (full.run (action :: rest))
              (part.run ((action :: rest).filter fun action =>
                action.concerns id)) := by
        obtain ⟨views, runs⟩ := induction after fullAfter partAfter still
        rw [List.filter_cons, if_pos concerns]
        refine ⟨?_, runs⟩
        simp only [Session.views, concerns, if_true, List.map_cons]
        rw [views, view partAfter after answer]
      cases about : action.id? with
      | none =>
          exact together (by simp [Action.concerns, about])
            (fun named => (named about).elim)
            (mirrors.everywhere fullSound partSound about)
            (follows.same (by simp [about])
              (act_clears partSound about).issued)
      | some other =>
          by_cases same : other = id
          · subst same
            obtain ⟨answer, after⟩ :=
              mirrors.here fullSound partSound about (follows.next about)
            refine together (by simp [Action.concerns, about])
              (fun _ => answer) after ?_
            rcases mirrors.correlator.issued_cases after.correlator
                (act_touches fullSound about)
                (act_touches partSound about) with
              ⟨unchanged, issued⟩ | ⟨changed, issued⟩
            · exact follows.same (fun _ => unchanged) issued
            · exact follows.later about changed issued
          · have ignored : action.concerns id = false := by
              simp [Action.concerns, about, same]
            obtain ⟨views, runs⟩ :=
              induction (mirrors.elsewhere fullSound about (Ne.symm same))
                fullAfter partSound
                (follows.same (by simp [about, same]) rfl)
            rw [List.filter_cons, if_neg (by simp [ignored])]
            refine ⟨?_, runs⟩
            simpa [Session.views, ignored] using views

end Mirrors

/-- What can be seen of an id is the same, up to a renaming of cells, in the
run from which all steps that are about other ids have been deleted.  The
renaming takes different cells to different cells. -/
theorem views_eq_views_of_own_steps (defaultTimeout maxRecordAge : Nat)
    (id : RequestId) (actions : List Action) :
    let begun := start defaultTimeout maxRecordAge
    let own := actions.filter fun action => action.concerns id
    ∃ rho : Renaming,
      (∀ cell other,
        cell < (begun.run own).correlator.cells.issued →
        other < (begun.run own).correlator.cells.issued →
          rho cell = rho other → cell = other) ∧
      begun.views id actions =
        (begun.views id own).map fun view => view.rename rho := by
  intro begun own
  let rho : Renaming := fun cell => (begun.cellsFor id actions).getD cell 0
  have sound := sound_start defaultTimeout maxRecordAge
  have follows : Mirrors.Follows id rho begun begun actions := by
    intro number cell issued
    have none : begun.correlator.cells.issued = 0 := rfl
    simp [rho, none, issued]
  obtain ⟨views, mirrors⟩ :=
    (mirrors_start id rho defaultTimeout maxRecordAge).run sound sound follows
  exact ⟨rho, fun cell other bound otherBound =>
    mirrors.correlator.injective bound otherBound, views⟩

/-- The first of two ids takes the first cell, and the second the next. -/
example :
    (start 5000 300000).views 2
        [.openHandle 1, .openHandle 2, .complete 1 "other", .sweep 0,
          .complete 2 "own", .poll 1 0, .poll 2 0] =
      ((start 5000 300000).views 2
        [.openHandle 2, .sweep 0, .complete 2 "own", .poll 2 0]).map
          fun view => view.rename (· + 1) := by
  decide

end Session

end Switchboard
