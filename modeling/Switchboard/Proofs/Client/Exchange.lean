import Mathlib.Data.List.Perm.Basic
import Switchboard.Engine.Hub
import Switchboard.Proofs.Client.Ids
import Switchboard.Proofs.Correlator.Invariant

/-!
# Calls in an exchange

An exchange is a client with its calls in progress, together with all that goes
on beside them: the others who use the correlator, the clock, and the frames
that come in.  Each call is an errand, which goes on by the smallest steps that
others can come between: its ids are drawn one by one, it is registered and its
frame handed over, the frame has been sent, and it is polled, again and again.
-/

namespace Switchboard

/-- An order that still draws its ids. -/
structure Draft where
  order : Order
  timeout : Nat
  ids : List RequestId := []

/-- The draft takes one more id. -/
def Draft.draw (draft : Draft) (id : RequestId) : Draft :=
  { draft with ids := draft.ids ++ [id] }

/-- How far an errand has come. -/
inductive ErrandPhase where
  | drafted
  /-- The request is registered and being sent. -/
  | sending (call : Call)
  | waiting (call : Call) (deadline : Instant)
  | ended (outcome : Outcome)
  | refused (error : CorrelationError)

/-- The call that an errand has under way. -/
def ErrandPhase.call? : ErrandPhase → Option Call
  | .sending call => some call
  | .waiting call _ => some call
  | _ => none

/-- The outcome of an errand that has ended. -/
def ErrandPhase.outcome? : ErrandPhase → Option Outcome
  | .ended outcome => some outcome
  | _ => none

structure Errand where
  order : Order
  /-- The ids that the order took.  They are noted down for the laws below
  only. -/
  ids : List RequestId
  request : Request
  timeout : Nat
  phase : ErrandPhase := .drafted

/-- The next step of an errand, whose frame can be sent. -/
def Errand.proceed (errand : Errand) (now rung : Instant)
    (correlator : Correlator) : Step Correlator ErrandPhase :=
  match errand.phase with
  | .drafted =>
      (correlator.openCall now errand.request errand.timeout).map fun
        | .ok call => .sending call
        | .error error => .refused error
  | .sending call =>
      (correlator.sendEnded now call none).map fun
        | .ok deadline => .waiting call deadline
        | .error error => .refused error
  | .waiting call deadline =>
      (correlator.pollHandleBefore rung deadline call.handle).map fun
        | some outcome => .ended outcome
        | none => .waiting call deadline
  | .ended outcome => { answer := .ended outcome, after := correlator }
  | .refused error => { answer := .refused error, after := correlator }

/-- The id of the request that a frame replies to. -/
def Frame.replied? (raw : String) : Option RequestId :=
  match Frame.read raw with
  | .ok (.reply id) => some id
  | _ => none

structure Exchange where
  session : Session
  dispatcher : Dispatcher
  client : Client
  drafts : List Draft := []
  errands : List Errand := []

namespace Exchange

inductive Action where
  | draft (order : Order) (timeout : Nat)
  /-- A draft takes its next id, with the last of which it is an errand. -/
  | draw (number : Nat)
  /-- An errand takes its next step. -/
  | proceed (number : Nat)
  /-- A frame comes in. -/
  | receive (raw : String)
  /-- Time goes by, or another party does something. -/
  | other (action : Session.Action)
  /-- Something happens to the dispatcher. -/
  | dispatch (dispatcher : Dispatcher)

/-- A new correlator at time zero, and a client that has made no calls. -/
def start (defaultTimeout maxRecordAge : Nat) (first : RequestId)
    (dispatcher : Dispatcher) : Exchange where
  session := .start defaultTimeout maxRecordAge
  dispatcher := dispatcher
  client := { ids := ⟨first⟩ }

def setCorrelator (exchange : Exchange) (correlator : Correlator) :
    Exchange :=
  { exchange with
    session := { exchange.session with correlator := correlator } }

def hub (exchange : Exchange) : Hub where
  correlator := exchange.session.correlator
  dispatcher := exchange.dispatcher

/-- An errand takes its next step. -/
def step (exchange : Exchange) (errand : Errand) :
    Step Correlator ErrandPhase :=
  errand.proceed exchange.session.now exchange.session.rung
    exchange.session.correlator

def act (exchange : Exchange) : Action → Exchange
  | .draft order timeout =>
      { exchange with
        drafts := exchange.drafts ++ [{ order := order, timeout := timeout }] }
  | .draw number =>
      match exchange.drafts[number]? with
      | none => exchange
      | some draft =>
          let (id, rest) := exchange.client.ids.take
          let drawn := draft.draw id
          match drawn.order.request? drawn.ids with
          | none =>
              { exchange with
                client := ⟨rest⟩
                drafts := exchange.drafts.set number drawn }
          | some request =>
              { exchange with
                client := ⟨rest⟩
                drafts := exchange.drafts.eraseIdx number
                errands := exchange.errands ++
                  [{ order := drawn.order
                     ids := drawn.ids
                     request := request
                     timeout := drawn.timeout }] }
  | .proceed number =>
      match exchange.errands[number]? with
      | none => exchange
      | some errand =>
          let stepped := exchange.step errand
          { exchange.setCorrelator stepped.after with
            errands := exchange.errands.set number
              { errand with phase := stepped.answer } }
  | .receive raw =>
      let routed := exchange.hub.route exchange.session.now raw
      { exchange.setCorrelator routed.after.correlator with
        dispatcher := routed.after.dispatcher }
  | .other action =>
      { exchange with session := (exchange.session.act action).after }
  | .dispatch dispatcher => { exchange with dispatcher := dispatcher }

def run (exchange : Exchange) : List Action → Exchange
  | [] => exchange
  | action :: rest => (exchange.act action).run rest

theorem run_append (exchange : Exchange) (first second : List Action) :
    exchange.run (first ++ second) = (exchange.run first).run second := by
  induction first generalizing exchange with
  | nil => rfl
  | cons action rest induction => exact induction (exchange.act action)

theorem run_snoc (exchange : Exchange) (actions : List Action)
    (action : Action) :
    exchange.run (actions ++ [action]) = (exchange.run actions).act action :=
  exchange.run_append actions [action]

/-- What the client makes in one go is what an order comes to whose draws follow
each other. -/
theorem run_draws (exchange : Exchange) (order : Order) (timeout : Nat) :
    exchange.run (.draft order timeout ::
        List.replicate order.width (.draw exchange.drafts.length)) =
      { exchange with
        client := (order.draft exchange.client).2
        errands := exchange.errands ++
          [{ order := order
             ids := exchange.client.ids.takeMany order.width
             request := (order.draft exchange.client).1
             timeout := timeout }] } := by
  have erased (draft : Draft) :
      (exchange.drafts ++ [draft]).eraseIdx exchange.drafts.length =
        exchange.drafts := by
    simp [List.eraseIdx_append_of_length_le (Nat.le_refl _)]
  cases order with
  | call method params =>
      simp [run, act, Order.width, Order.request?, Draft.draw, erased,
        Order.draft, Client.call, Allocator.takeMany]
  | subscription interest callsign event =>
      simp [run, act, Order.width, Order.request?, Draft.draw, erased,
        Order.draft, Client.subscription, Allocator.takeMany,
        List.replicate_succ]

/-! ## Errands stay, and so do their ids -/

/-- What a draw can leave behind. -/
inductive Draws (exchange : Exchange) (number : Nat) : Exchange → Prop where
  | absent : exchange.drafts[number]? = none → Draws exchange number exchange
  | more {draft : Draft} :
      exchange.drafts[number]? = some draft →
      Draws exchange number
        { exchange with
          client := ⟨exchange.client.ids.skip 1⟩
          drafts := exchange.drafts.set number
            (draft.draw exchange.client.ids.next) }
  | last {draft drawn : Draft} {request : Request} :
      exchange.drafts[number]? = some draft →
      drawn = draft.draw exchange.client.ids.next →
      drawn.order.Fills drawn.ids request →
      Draws exchange number
        { exchange with
          client := ⟨exchange.client.ids.skip 1⟩
          drafts := exchange.drafts.eraseIdx number
          errands := exchange.errands ++
            [{ order := drawn.order, ids := drawn.ids, request := request
               timeout := drawn.timeout }] }

theorem draws_act (exchange : Exchange) (number : Nat) :
    exchange.Draws number (exchange.act (.draw number)) := by
  cases present : exchange.drafts[number]? with
  | none =>
      simp only [act, present]
      exact .absent present
  | some draft =>
      simp only [act, present, Allocator.take_eq]
      split
      · exact .more present
      · next made => exact .last present rfl (Order.fills_of_request? made)

/-- What the draws of a draft do to the errands. -/
theorem errands_draw (exchange : Exchange) (number : Nat) :
    (exchange.act (.draw number)).errands = exchange.errands ∨
      ∃ errand : Errand, errand.phase = .drafted ∧
        errand.order.Fills errand.ids errand.request ∧
        (exchange.act (.draw number)).errands =
          exchange.errands ++ [errand] := by
  have draws := exchange.draws_act number
  generalize exchange.act (.draw number) = after at draws ⊢
  cases draws with
  | absent => exact .inl rfl
  | more => exact .inl rfl
  | last _ _ fills => exact .inr ⟨_, rfl, fills, rfl⟩

theorem mem_errands_draw {exchange : Exchange} {number : Nat} {errand : Errand}
    (member : errand ∈ (exchange.act (.draw number)).errands) :
    errand ∈ exchange.errands ∨
      errand.phase = .drafted ∧
        errand.order.Fills errand.ids errand.request := by
  rcases exchange.errands_draw number with same | ⟨new, fresh, fills, joined⟩
  · rw [same] at member
    exact .inl member
  · rw [joined] at member
    rcases List.mem_append.mp member with old | made
    · exact .inl old
    · rw [List.mem_singleton.mp made]
      exact .inr ⟨fresh, fills⟩

theorem session_draw (exchange : Exchange) (number : Nat) :
    (exchange.act (.draw number)).session = exchange.session := by
  have draws := exchange.draws_act number
  generalize exchange.act (.draw number) = after at draws ⊢
  cases draws <;> rfl

theorem errand_proceed {exchange : Exchange} {number : Nat} {errand : Errand}
    (present : exchange.errands[number]? = some errand) :
    (exchange.act (.proceed number)).errands[number]? =
      some { errand with phase := (exchange.step errand).answer } := by
  obtain ⟨inside, _⟩ := List.getElem?_eq_some_iff.mp present
  simp only [act, present]
  exact List.getElem?_set_self inside

/-- Only its own steps move an errand. -/
theorem errand_act_of_ne {exchange : Exchange} {number : Nat}
    {errand : Errand} (present : exchange.errands[number]? = some errand)
    {action : Action} (other : action ≠ .proceed number) :
    (exchange.act action).errands[number]? = some errand := by
  cases action with
  | draw place =>
      rcases exchange.errands_draw place with same | ⟨new, -, -, joined⟩
      · rwa [same]
      · obtain ⟨inside, _⟩ := List.getElem?_eq_some_iff.mp present
        rwa [joined, List.getElem?_append_left inside]
  | proceed place =>
      have apart : place ≠ number := fun same => other (congrArg _ same)
      cases found : exchange.errands[place]? with
      | none => simpa [act, found] using present
      | some moving =>
          simp only [act, found]
          rw [List.getElem?_set_ne apart]
          exact present
  | _ => exact present

/-- An errand stays where it is, and nothing but its phase changes. -/
theorem errand_act {exchange : Exchange} {number : Nat} {errand : Errand}
    (present : exchange.errands[number]? = some errand) (action : Action) :
    ∃ phase, (exchange.act action).errands[number]? =
      some { errand with phase := phase } := by
  by_cases own : action = .proceed number
  · subst own
    exact ⟨_, errand_proceed present⟩
  · exact ⟨errand.phase, errand_act_of_ne present own⟩

/-- All ids that the client has given out, those of events included. -/
def ids (exchange : Exchange) : List RequestId :=
  exchange.drafts.flatMap (·.ids) ++ exchange.errands.flatMap (·.ids)

/-- The ids of a client's drafts and errands are the first ones of its source,
in whatever order they were drawn. -/
structure Counted (first : Allocator) (exchange : Exchange) : Prop where
  ids : exchange.ids.Perm (first.takeMany exchange.ids.length)
  next : exchange.client.ids = first.skip exchange.ids.length
  fills : ∀ errand ∈ exchange.errands,
    errand.order.Fills errand.ids errand.request

private theorem drafts_perm {drafts : List Draft} {number : Nat} {draft : Draft}
    (present : drafts[number]? = some draft) :
    (drafts.flatMap (·.ids)).Perm
      (draft.ids ++ (drafts.eraseIdx number).flatMap (·.ids)) := by
  obtain ⟨inside, rfl⟩ := List.getElem?_eq_some_iff.mp present
  exact (List.getElem_cons_eraseIdx_perm inside).symm.flatMap_right _

/-- A draw adds the id that comes next, and the one behind it is next then. -/
theorem Draws.ids {exchange after : Exchange} {number : Nat}
    (draws : exchange.Draws number after) :
    after = exchange ∨
      after.client.ids = exchange.client.ids.skip 1 ∧
        after.ids.Perm (exchange.ids ++ [exchange.client.ids.next]) := by
  let next := exchange.client.ids.next
  let placed := exchange.errands.flatMap (·.ids)
  cases draws with
  | absent => exact .inl rfl
  | @more draft present =>
      refine .inr ⟨rfl, ?_⟩
      let drawn := draft.draw next
      let others := (exchange.drafts.eraseIdx number).flatMap (·.ids)
      obtain ⟨inside, _⟩ := List.getElem?_eq_some_iff.mp present
      have there : (exchange.drafts.set number drawn)[number]? = some drawn :=
        List.getElem?_set_self inside
      have moved := drafts_perm there
      rw [List.eraseIdx_set_eq] at moved
      have swapped : (drawn.ids ++ others ++ placed).Perm
          (draft.ids ++ others ++ placed ++ [next]) := by
        simp only [drawn, Draft.draw, List.append_assoc]
        rw [← List.append_assoc others]
        exact List.perm_append_comm.append_left _
      calc
        _ = (exchange.drafts.set number drawn).flatMap (·.ids) ++ placed := rfl
        List.Perm _ (drawn.ids ++ others ++ placed) := moved.append_right _
        List.Perm _ (draft.ids ++ others ++ placed ++ [next]) := swapped
        List.Perm _ (exchange.ids ++ [next]) :=
          ((drafts_perm present).symm.append_right _).append_right _
  | @last draft drawn request present made fills =>
      refine .inr ⟨rfl, ?_⟩
      subst made
      let others := (exchange.drafts.eraseIdx number).flatMap (·.ids)
      calc
        _ = others ++ placed ++ draft.ids ++ [next] := by
          simp [Exchange.ids, Draft.draw, others, placed, next]
        List.Perm _ (draft.ids ++ others ++ placed ++ [next]) := by
          rw [List.append_assoc draft.ids]
          exact List.perm_append_comm.append_right _
        List.Perm _ (exchange.ids ++ [next]) :=
          ((drafts_perm present).symm.append_right _).append_right _

private theorem ids_proceed (exchange : Exchange) (number : Nat) :
    (exchange.act (.proceed number)).ids = exchange.ids := by
  cases present : exchange.errands[number]? with
  | none => simp [act, present]
  | some errand =>
      obtain ⟨inside, rfl⟩ := List.getElem?_eq_some_iff.mp present
      have bound : number < (exchange.errands.map (·.ids)).length := by
        simpa using inside
      have same : (exchange.errands.map (·.ids)).set number
          (exchange.errands.map (·.ids))[number] =
            exchange.errands.map (·.ids) := List.set_getElem_self bound
      simp only [ids, act, present, setCorrelator, List.flatMap_def]
      simpa [List.map_set] using congrArg List.flatten same

private theorem counted_draw {first : Allocator} {exchange : Exchange}
    (counted : exchange.Counted first) (number : Nat) :
    (exchange.act (.draw number)).Counted first := by
  rcases (exchange.draws_act number).ids with same | ⟨next, drawn⟩
  · rw [same]
    exact counted
  · have count : (exchange.act (.draw number)).ids.length =
        exchange.ids.length + 1 := by
      simpa using drawn.length_eq
    constructor
    · have last : (first.skip exchange.ids.length).takeMany 1 =
          [exchange.client.ids.next] := by
        rw [← counted.next]
        rfl
      rw [count, Allocator.takeMany_add, last]
      exact drawn.trans (counted.ids.append_right _)
    · rw [count, next, counted.next, Allocator.skip_skip]
    · intro errand member
      rcases mem_errands_draw member with old | ⟨_, fills⟩
      · exact counted.fills errand old
      · exact fills

theorem counted_act {first : Allocator} {exchange : Exchange}
    (counted : exchange.Counted first) (action : Action) :
    (exchange.act action).Counted first := by
  cases action with
  | draft order timeout =>
      have same : (exchange.act (.draft order timeout)).ids = exchange.ids := by
        simp [ids, act]
      exact ⟨by rw [same]; exact counted.ids,
        by rw [same]; exact counted.next, counted.fills⟩
  | draw number => exact counted_draw counted number
  | proceed number =>
      constructor
      · rw [ids_proceed]
        exact counted.ids
      · rw [ids_proceed]
        cases present : exchange.errands[number]? with
        | none => simpa [act, present] using counted.next
        | some errand =>
            simp only [act, present]
            exact counted.next
      · cases present : exchange.errands[number]? with
        | none => simpa [act, present] using counted.fills
        | some errand =>
            intro kept member
            simp only [act, present] at member
            rcases List.mem_or_eq_of_mem_set member with old | new
            · exact counted.fills kept old
            · rw [new]
              exact counted.fills errand (List.mem_of_getElem? present)
  | _ => exact ⟨counted.ids, counted.next, counted.fills⟩

theorem counted_run {first : Allocator} {exchange : Exchange}
    (counted : exchange.Counted first) (actions : List Action) :
    (exchange.run actions).Counted first := by
  induction actions generalizing exchange with
  | nil => exact counted
  | cons action rest induction => exact induction (counted_act counted action)

theorem counted_start (defaultTimeout maxRecordAge : Nat) (first : RequestId)
    (dispatcher : Dispatcher) :
    (start defaultTimeout maxRecordAge first dispatcher).Counted ⟨first⟩ := by
  constructor
  · exact .refl _
  · simp [start, ids]
  · intro errand member
    cases member

theorem Counted.nodup {first : Allocator} {exchange : Exchange}
    (counted : exchange.Counted first) (few : exchange.ids.length ≤ 2 ^ 64) :
    exchange.ids.Nodup :=
  counted.ids.nodup_iff.mpr (first.nodup_takeMany few)

theorem Counted.id_mem {first : Allocator} {exchange : Exchange}
    (counted : exchange.Counted first) {number : Nat} {errand : Errand}
    (present : exchange.errands[number]? = some errand) :
    errand.request.id ∈ errand.ids := by
  have fills := counted.fills errand (List.mem_of_getElem? present)
  exact List.mem_of_mem_head? fills.head

theorem Counted.number_eq {first : Allocator} {exchange : Exchange}
    (counted : exchange.Counted first) (few : exchange.ids.length ≤ 2 ^ 64)
    {number other : Nat} {errand second : Errand}
    (present : exchange.errands[number]? = some errand)
    (otherPresent : exchange.errands[other]? = some second)
    (same : errand.request.id = second.request.id) : number = other := by
  have distinct : (exchange.errands.flatMap (·.ids)).Nodup :=
    (List.nodup_append.mp (counted.nodup few)).2.1
  have apart := List.pairwise_iff_getElem.mp
    (List.nodup_flatMap.mp distinct).2
  have member := counted.id_mem present
  have otherMember := counted.id_mem otherPresent
  rw [← same] at otherMember
  obtain ⟨inside, rfl⟩ := List.getElem?_eq_some_iff.mp present
  obtain ⟨otherInside, rfl⟩ := List.getElem?_eq_some_iff.mp otherPresent
  -- Lists of ids at different places have nothing in common.
  rcases Nat.lt_trichotomy number other with below | equal | above
  · have disjoint := apart number other inside otherInside below
    exact (disjoint member otherMember).elim
  · exact equal
  · have disjoint := apart other number otherInside inside above
    exact (disjoint otherMember member).elim

end Exchange

/-! ## What errands and frames do to the correlator -/

namespace Correlator

private theorem openCall_touches (correlator : Correlator) (now : Instant)
    (request : Request) (timeout : Nat) :
    Touches request.id correlator none
      (correlator.openCall now request timeout).after := by
  unfold openCall
  split
  · exact .unchanged
  · split
    · exact .unchanged
    · exact correlator.attach_touches now request.id

end Correlator

namespace Errand

/-- The call that an errand has under way is its own. -/
structure Own (errand : Errand) : Prop where
  id : ∀ {call : Call},
    errand.phase.call? = some call → call.handle.id = errand.request.id

theorem proceed_touches {errand : Errand} (own : errand.Own)
    (now rung : Instant) (correlator : Correlator) :
    ∃ ruling, correlator.Touches errand.request.id ruling
      (errand.proceed now rung correlator).after := by
  cases phase : errand.phase with
  | drafted =>
      simp only [proceed, phase, Step.after_map]
      exact ⟨none, correlator.openCall_touches now _ _⟩
  | sending call =>
      simp only [proceed, phase]
      exact ⟨none, .unchanged⟩
  | waiting call deadline =>
      have same : call.handle.id = errand.request.id :=
        own.id (by rw [phase]; rfl)
      simp only [proceed, phase, Step.after_map, ← same]
      exact correlator.pollHandleBefore_touches rung deadline call.handle
  | ended outcome =>
      simp only [proceed, phase]
      exact ⟨none, .unchanged⟩
  | refused error =>
      simp only [proceed, phase]
      exact ⟨none, .unchanged⟩

theorem own_proceed {errand : Errand} (own : errand.Own)
    (now rung : Instant) (correlator : Correlator) :
    Own { errand with
      phase := (errand.proceed now rung correlator).answer } := by
  constructor
  intro call underWay
  cases phase : errand.phase with
  | drafted =>
      simp only [proceed, phase, Correlator.openCall] at underWay
      split at underWay
      · cases underWay
      · split at underWay
        · cases underWay
        · cases underWay
          exact (correlator.comesFrom_openHandle now errand.request.id).1
  | sending held =>
      simp only [proceed, phase] at underWay
      cases underWay
      exact own.id (by rw [phase]; rfl)
  | waiting held deadline =>
      simp only [proceed, phase, Step.answer_map] at underWay
      split at underWay
      · cases underWay
      · cases underWay
        exact own.id (by rw [phase]; rfl)
  | ended outcome =>
      simp only [proceed, phase] at underWay
      cases underWay
  | refused error =>
      simp only [proceed, phase] at underWay
      cases underWay

end Errand

/-- A frame reaches the correlator if it replies to a request. -/
theorem Hub.correlator_route (hub : Hub) (now : Instant) (raw : String) :
    (hub.route now raw).after.correlator =
      match Frame.replied? raw with
      | some id => (hub.correlator.complete now id raw).after
      | none => hub.correlator := by
  unfold Hub.route Frame.replied?
  split <;> simp_all [Hub.onCorrelator, Hub.onDispatcher]

namespace Exchange

structure Sound (exchange : Exchange) : Prop where
  session : exchange.session.Sound
  own : ∀ errand ∈ exchange.errands, errand.Own

theorem sound_start (defaultTimeout maxRecordAge : Nat) (first : RequestId)
    (dispatcher : Dispatcher) :
    (start defaultTimeout maxRecordAge first dispatcher).Sound := by
  constructor
  · exact Session.sound_start defaultTimeout maxRecordAge
  · intro errand member
    cases member

theorem receive_touches (exchange : Exchange) {raw : String} {id : RequestId}
    (replies : Frame.replied? raw = some id) :
    ∃ ruling, exchange.session.correlator.Touches id ruling
      (exchange.act (.receive raw)).session.correlator := by
  have routed := exchange.hub.correlator_route exchange.session.now raw
  rw [replies] at routed
  simp only [act, setCorrelator, routed]
  exact ⟨_, exchange.session.correlator.complete_touches _ id raw⟩

theorem correlator_receive_of_none (exchange : Exchange) {raw : String}
    (passes : Frame.replied? raw = none) :
    (exchange.act (.receive raw)).session.correlator =
      exchange.session.correlator := by
  have routed := exchange.hub.correlator_route exchange.session.now raw
  rw [passes] at routed
  simp only [act, setCorrelator, routed]
  rfl

theorem act_carries {exchange : Exchange} (sound : exchange.Sound)
    (action : Action) :
    exchange.session.correlator.Carries
      (exchange.act action).session.correlator := by
  cases action with
  | proceed number =>
      cases present : exchange.errands[number]? with
      | none =>
          simp only [act, present]
          exact .refl sound.session.correlator
      | some errand =>
          have own := sound.own errand (List.mem_of_getElem? present)
          obtain ⟨ruling, touches⟩ :=
            Errand.proceed_touches own exchange.session.now
              exchange.session.rung exchange.session.correlator
          simp only [act, present]
          exact touches.carries sound.session.correlator
  | receive raw =>
      cases replies : Frame.replied? raw with
      | none =>
          rw [exchange.correlator_receive_of_none replies]
          exact .refl sound.session.correlator
      | some id =>
          obtain ⟨ruling, touches⟩ := exchange.receive_touches replies
          exact touches.carries sound.session.correlator
  | draw number =>
      rw [session_draw]
      exact .refl sound.session.correlator
  | other action => exact Session.act_carries sound.session action
  | _ => exact .refl sound.session.correlator

theorem act_sound {exchange : Exchange} (sound : exchange.Sound)
    (action : Action) : (exchange.act action).Sound := by
  have carries := act_carries sound action
  cases action with
  | draft order timeout => exact ⟨sound.session, sound.own⟩
  | draw number =>
      constructor
      · rw [session_draw]
        exact sound.session
      · intro errand member
        rcases mem_errands_draw member with old | ⟨drafted, _⟩
        · exact sound.own errand old
        · constructor
          intro call underWay
          rw [drafted] at underWay
          cases underWay
  | proceed number =>
      cases present : exchange.errands[number]? with
      | none => simpa [act, present] using sound
      | some errand =>
          have own := sound.own errand (List.mem_of_getElem? present)
          simp only [act, present] at carries ⊢
          constructor
          · exact sound.session.carry carries
          · intro kept member
            rcases List.mem_or_eq_of_mem_set member with old | new
            · exact sound.own kept old
            · rw [new]
              exact Errand.own_proceed own _ _ _
  | receive raw => exact ⟨sound.session.carry carries, sound.own⟩
  | other action => exact ⟨Session.act_sound sound.session action, sound.own⟩
  | dispatch dispatcher => exact ⟨sound.session, sound.own⟩

theorem run_sound {exchange : Exchange} (sound : exchange.Sound)
    (actions : List Action) : (exchange.run actions).Sound := by
  induction actions generalizing exchange with
  | nil => exact sound
  | cons action rest induction => exact induction (act_sound sound action)

end Exchange

end Switchboard
