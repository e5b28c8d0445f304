import Mathlib.Data.List.Forall2
import Switchboard.Proofs.Dispatcher.Faltering
import Switchboard.Proofs.Engine.Routing

/-!
# What becomes of a notification

A notification that is dispatched has one of five fates.  Four of them are
counted, each once; a notification that has nobody to hear it just passes.
-/

namespace Switchboard

namespace Notification

/-- The slot that a frame is for, and what its listener is called with. -/
inductive Addresses (raw : String) : Slot → Invocation → Prop where
  | dial {name : String} {members : Json.Members} {event : DialEvent} :
      Frame.Tells raw name (some members) →
      Category.ofName name = .dial event →
      Addresses raw .dial (.dial event (DialParams.ofMembers members))
  | lifecycle {name : String} {params : Option Json.Members} :
      Frame.Tells raw name params →
      Category.ofName name = .lifecycle →
      Addresses raw .lifecycle
        (.named name (Json.Value.object (params.getD [])).compact)
  | stateChange {name : String} {params : Option Json.Members} :
      Frame.Tells raw name params →
      Category.ofName name = .stateChange →
      Addresses raw .stateChange
        (.named name (Json.Value.object (params.getD [])).compact)

theorem Addresses.addressee {raw : String} {slot : Slot}
    {invocation : Invocation} (addresses : Addresses raw slot invocation) :
    addressee? raw = some (slot, invocation) ∧
      ∃ notification, parse raw = .ok notification ∧
        Category.ofName notification.name ≠ .unrecognised := by
  cases addresses with
  | dial tells named =>
      have parsed := Frame.parse_of_tells tells
      simp [addressee?, parsed, named, dialParams_eq]
  | lifecycle tells named =>
      have parsed := Frame.parse_of_tells tells
      simp [addressee?, parsed, named, paramsText]
  | stateChange tells named =>
      have parsed := Frame.parse_of_tells tells
      simp [addressee?, parsed, named, paramsText]

end Notification

/-- What becomes of a notification.  The listener of the slot may finish or
fail with its invocation. -/
inductive Fate where
  | malformed
  | unrecognised
  | finished (slot : Slot) (invocation : Invocation)
  | failed (slot : Slot) (invocation : Invocation)
  | passed
  deriving Repr, DecidableEq

namespace Fate

/-- What a fate is counted as. -/
def measurement? : Fate → Option Measurement
  | .malformed => some .malformed
  | .unrecognised => some .unrecognised
  | .finished _ _ => some .dispatched
  | .failed _ _ => some .listenerFailed
  | .passed => none

/-- What a listener was called with. -/
def heard? : Fate → Option (Slot × Invocation)
  | .finished slot invocation => some (slot, invocation)
  | .failed slot invocation => some (slot, invocation)
  | _ => none

/-- Whether a listener finished. -/
def isFinished : Fate → Bool
  | .finished _ _ => true
  | _ => false

/-- The same fate, except that a listener that finished may have failed. -/
inductive Falters : Fate → Fate → Prop where
  | same (fate : Fate) : Falters fate fate
  | moved (slot : Slot) (invocation : Invocation) :
      Falters (.finished slot invocation) (.failed slot invocation)

/-- A fate that is not that of a listener that finished. -/
def failing : Fate → Fate
  | .finished slot invocation => .failed slot invocation
  | fate => fate

theorem Falters.eq_failing {fate other : Fate} (falters : fate.Falters other)
    (unfinished : other.isFinished = false) : other = fate.failing := by
  cases falters with
  | moved slot invocation => rfl
  | same =>
      cases fate with
      | finished slot invocation => cases unfinished
      | _ => rfl

theorem Falters.heard {fate other : Fate} (falters : fate.Falters other) :
    other.heard? = fate.heard? := by
  cases falters <;> rfl

end Fate

namespace Hub

/-- What becomes of a notification, by what it tells and who is there to hear
it. -/
inductive Decides (hub : Hub) (now : Instant) (raw : String) : Fate → Prop where
  | malformed :
      (∀ name params, ¬Frame.Tells raw name params) →
      Decides hub now raw .malformed
  | unrecognised {name : String} {params : Option Json.Members} :
      Frame.Tells raw name params →
      Category.ofName name = .unrecognised →
      Decides hub now raw .unrecognised
  | finished {slot : Slot} {invocation : Invocation} {listener : Listener} :
      Notification.Addresses raw slot invocation →
      hub.dispatcher.listeners.get slot = some listener →
      (hub.perform now (listener invocation)).answer = none →
      Decides hub now raw (.finished slot invocation)
  | failed {slot : Slot} {invocation : Invocation} {listener : Listener}
      {failure : Failure} :
      Notification.Addresses raw slot invocation →
      hub.dispatcher.listeners.get slot = some listener →
      (hub.perform now (listener invocation)).answer = some failure →
      Decides hub now raw (.failed slot invocation)
  | unheard {slot : Slot} {invocation : Invocation} :
      Notification.Addresses raw slot invocation →
      hub.dispatcher.listeners.get slot = none →
      Decides hub now raw .passed
  | unusable {name : String} {event : DialEvent} :
      Frame.Tells raw name none →
      Category.ofName name = .dial event →
      Decides hub now raw .passed

/-- The call of the listener in a slot, if the slot is taken. -/
def callIn (hub : Hub) (slot : Slot) (invocation : Invocation) :
    Option ListenerCall :=
  (hub.dispatcher.listeners.get slot).map fun listener =>
    { slot := slot, invocation := invocation, listener := listener }

/-- What becomes of a call that may have been made. -/
def callFate (hub : Hub) (now : Instant) : Option ListenerCall → Fate
  | none => .passed
  | some call =>
      if (hub.perform now call.program).answer.isNone then
        .finished call.slot call.invocation
      else
        .failed call.slot call.invocation

/-- What becomes of a notification. -/
def fate (hub : Hub) (now : Instant) (raw : String) : Fate :=
  match Notification.parse raw with
  | .error _ => .malformed
  | .ok notification =>
      if Category.ofName notification.name = .unrecognised then
        .unrecognised
      else
        hub.callFate now (hub.call? raw)

theorem callIn_of_taken {hub : Hub} {slot : Slot} {listener : Listener}
    (taken : hub.dispatcher.listeners.get slot = some listener)
    (invocation : Invocation) :
    hub.callIn slot invocation =
      some { slot := slot, invocation := invocation, listener := listener } := by
  rw [callIn, taken, Option.map_some]

theorem callIn_of_empty {hub : Hub} {slot : Slot}
    (empty : hub.dispatcher.listeners.get slot = none)
    (invocation : Invocation) : hub.callIn slot invocation = none := by
  rw [callIn, empty, Option.map_none]

theorem callFate_some (hub : Hub) (now : Instant) (slot : Slot)
    (invocation : Invocation) (listener : Listener) :
    hub.callFate now
        (some { slot := slot, invocation := invocation,
                listener := listener }) =
      if (hub.perform now (listener invocation)).answer.isNone then
        .finished slot invocation
      else
        .failed slot invocation := rfl

theorem call?_of_addressee {raw : String} {slot : Slot}
    {invocation : Invocation}
    (addressee : Notification.addressee? raw = some (slot, invocation))
    (hub : Hub) : hub.call? raw = hub.callIn slot invocation := by
  rw [call?, addressee]
  rfl

theorem fate_of_addresses {raw : String} {slot : Slot}
    {invocation : Invocation}
    (addresses : Notification.Addresses raw slot invocation) (hub : Hub)
    (now : Instant) :
    hub.fate now raw = hub.callFate now (hub.callIn slot invocation) := by
  obtain ⟨addressee, notification, parsed, recognised⟩ := addresses.addressee
  simp [fate, parsed, recognised, call?_of_addressee addressee]

theorem decides_of_addresses {raw : String} {slot : Slot}
    {invocation : Invocation}
    (addresses : Notification.Addresses raw slot invocation) (hub : Hub)
    (now : Instant) : hub.Decides now raw (hub.fate now raw) := by
  rw [fate_of_addresses addresses]
  cases taken : hub.dispatcher.listeners.get slot with
  | none =>
      rw [callIn_of_empty taken]
      exact .unheard addresses taken
  | some listener =>
      rw [callIn_of_taken taken, callFate_some]
      cases ended : (hub.perform now (listener invocation)).answer with
      | none => exact .finished addresses taken ended
      | some failure => exact .failed addresses taken ended

/-- Calling its listener is all that a dispatch does with a notification that
is for a slot. -/
theorem dispatch_of_addresses {raw : String} {slot : Slot}
    {invocation : Invocation}
    (addresses : Notification.Addresses raw slot invocation) :
    ∃ event, ∀ (hub : Hub) (now : Instant),
      hub.dispatch now raw = hub.deliver now slot event invocation := by
  cases addresses with
  | @dial name members kind tells named =>
      have parsed := Frame.parse_of_tells tells
      refine ⟨name, fun hub now => ?_⟩
      simp only [dispatch, parsed, named, Notification.dialParams_eq,
        Option.map_some]
  | @lifecycle name params tells named =>
      have parsed := Frame.parse_of_tells tells
      refine ⟨name, fun hub now => ?_⟩
      simp only [dispatch, parsed, named, Notification.paramsText]
  | @stateChange name params tells named =>
      have parsed := Frame.parse_of_tells tells
      refine ⟨name, fun hub now => ?_⟩
      simp only [dispatch, parsed, named, Notification.paramsText]

/-- A notification that is for no slot.  All that any dispatch does with it is
to report what is wrong with it. -/
structure Strays (raw : String) (reports : List Report) (fate : Fate) :
    Prop where
  unaddressed : Notification.addressee? raw = none
  counted :
    reports.filter Report.isVerdict =
      (fate.measurement?.map .measured).toList
  unheard : fate.heard? = none
  dispatched : ∀ (hub : Hub) (now : Instant),
    hub.dispatch now raw = { answer := false, after := hub, reports := reports }
  fated : ∀ (hub : Hub) (now : Instant), hub.fate now raw = fate
  decided : ∀ (hub : Hub) (now : Instant), hub.Decides now raw fate

theorem addresses_or_strays (raw : String) :
    (∃ slot invocation, Notification.Addresses raw slot invocation) ∨
      ∃ reports fate, Strays raw reports fate := by
  cases parsed : Notification.parse raw with
  | error error =>
      refine .inr ⟨[.measured .malformed,
        .logged (.malformedNotification error.message)], .malformed, ?_⟩
      refine ⟨?_, rfl, rfl, ?_, ?_, ?_⟩
      · simp only [Notification.addressee?, parsed]
      · intro hub now
        simp only [Hub.dispatch, parsed]
      · intro hub now
        simp only [Hub.fate, parsed]
      · intro hub now
        refine .malformed fun name params tells => ?_
        rw [Frame.parse_of_tells tells] at parsed
        cases parsed
  | ok notification =>
      have tells := Frame.tells_of_parse parsed
      cases category : Category.ofName notification.name with
      | lifecycle => exact .inl ⟨_, _, .lifecycle tells category⟩
      | stateChange => exact .inl ⟨_, _, .stateChange tells category⟩
      | unrecognised =>
          refine .inr ⟨[.measured .unrecognised,
            .logged (.unrecognised notification.name)], .unrecognised, ?_⟩
          refine ⟨?_, rfl, rfl, ?_, ?_, ?_⟩
          · simp only [Notification.addressee?, parsed, category]
          · intro hub now
            simp only [Hub.dispatch, parsed, category]
          · intro hub now
            simp only [Hub.fate, parsed, category, if_true]
          · intro hub now
            exact .unrecognised tells category
      | dial kind =>
          cases told : notification.params with
          | some members =>
              rw [told] at tells
              exact .inl ⟨_, _, .dial tells category⟩
          | none =>
              have nobody : Notification.addressee? raw = none := by
                simp only [Notification.addressee?, parsed, category,
                  Notification.dialParams_eq, told, Option.map_none]
              rw [told] at tells
              refine .inr ⟨[.logged (.dialWithoutParams notification.name)],
                .passed, ?_⟩
              refine ⟨nobody, rfl, rfl, ?_, ?_, ?_⟩
              · intro hub now
                simp only [Hub.dispatch, parsed, category,
                  Notification.dialParams_eq, told, Option.map_none]
              · intro hub now
                simp [Hub.fate, parsed, category, call?, nobody, callFate]
              · intro hub now
                exact .unusable tells category

theorem decides_fate (hub : Hub) (now : Instant) (raw : String) :
    hub.Decides now raw (hub.fate now raw) := by
  rcases addresses_or_strays raw with
    ⟨slot, invocation, addresses⟩ | ⟨reports, fate, strays⟩
  · exact decides_of_addresses addresses hub now
  · rw [strays.fated]
    exact strays.decided hub now

/-- A notification has exactly one fate. -/
theorem decides_iff {hub : Hub} {now : Instant} {raw : String} {fate : Fate} :
    hub.Decides now raw fate ↔ hub.fate now raw = fate := by
  constructor
  · intro decides
    cases decides with
    | malformed silent =>
        cases parsed : Notification.parse raw with
        | error error => simp [Hub.fate, parsed]
        | ok notification =>
            exact absurd (Frame.tells_of_parse parsed) (silent _ _)
    | unrecognised tells category =>
        have parsed := Frame.parse_of_tells tells
        simp [Hub.fate, parsed, category]
    | finished addresses taken ended =>
        simp [fate_of_addresses addresses, callIn_of_taken taken,
          callFate_some, ended]
    | failed addresses taken ended =>
        simp [fate_of_addresses addresses, callIn_of_taken taken,
          callFate_some, ended]
    | unheard addresses empty =>
        simp [fate_of_addresses addresses, callIn_of_empty empty, callFate]
    | unusable tells category =>
        have parsed := Frame.parse_of_tells tells
        simp [Hub.fate, parsed, category, call?, Notification.addressee?,
          Notification.dialParams_eq, callFate]
  · rintro rfl
    exact hub.decides_fate now raw

/-! ## Verdicts -/

theorem after_dispatch (hub : Hub) (now : Instant) (raw : String) :
    (hub.dispatch now raw).after = (hub.called now (hub.call? raw)).1 :=
  congrArg Prod.fst (hub.dispatch_eq now raw)

theorem Strays.call {raw : String} {reports : List Report} {fate : Fate}
    (strays : Strays raw reports fate) (hub : Hub) :
    hub.call? raw = none := by
  rw [call?, strays.unaddressed, Option.bind_none]

theorem heard_fate (hub : Hub) (now : Instant) (raw : String) :
    (hub.fate now raw).heard? =
      (hub.call? raw).map fun call => (call.slot, call.invocation) := by
  rcases addresses_or_strays raw with
    ⟨slot, invocation, addresses⟩ | ⟨reports, fate, strays⟩
  · rw [fate_of_addresses addresses,
      call?_of_addressee addresses.addressee.1]
    cases hub.callIn slot invocation with
    | none => rfl
    | some call =>
        cases call
        rw [callFate_some]
        split <;> rfl
  · rw [strays.fated, strays.call, strays.unheard, Option.map_none]

theorem prefix_invoke (hub : Hub) (now : Instant) (slot : Slot)
    (event : String) (program : Program) :
    (hub.perform now program).reports <+:
      (hub.invoke now slot event program).reports := by
  unfold invoke
  dsimp only
  split
  · exact List.prefix_rfl
  · exact List.prefix_append _ _

/-- What the called listener reports comes first. -/
theorem prefix_dispatch {hub : Hub} {raw : String} {call : ListenerCall}
    (called : hub.call? raw = some call) (now : Instant) :
    (hub.perform now call.program).reports <+:
      (hub.dispatch now raw).reports := by
  rcases addresses_or_strays raw with
    ⟨slot, invocation, addresses⟩ | ⟨reports, fate, strays⟩
  · rw [call?_of_addressee addresses.addressee.1] at called
    obtain ⟨listener, taken, rfl⟩ := Option.map_eq_some_iff.mp called
    obtain ⟨event, dispatched⟩ := dispatch_of_addresses addresses
    have first := hub.prefix_invoke now slot event (listener invocation)
    rw [dispatched, deliver, taken]
    exact first.trans (List.prefix_append _ _)
  · rw [strays.call] at called
    cases called

/-- What a notification is counted as is what its fate says, and nothing
else. -/
theorem filter_isVerdict_dispatch (hub : Hub) (now : Instant)
    (raw : String) :
    (hub.dispatch now raw).reports.filter Report.isVerdict =
      ((hub.fate now raw).measurement?.map .measured).toList := by
  rcases addresses_or_strays raw with
    ⟨slot, invocation, addresses⟩ | ⟨reports, fate, strays⟩
  · obtain ⟨event, dispatched⟩ := dispatch_of_addresses addresses
    rw [dispatched, fate_of_addresses addresses, deliver]
    cases taken : hub.dispatcher.listeners.get slot with
    | none =>
        rw [callIn_of_empty taken]
        rfl
    | some listener =>
        have quiet : (hub.invoke now slot event
            (listener invocation)).reports.filter Report.isVerdict = [] := by
          have none := hub.any_isVerdict_invoke now slot event
            (listener invocation)
          simpa [List.filter_eq_nil_iff] using none
        obtain ⟨-, answer⟩ :=
          hub.invoke_eq now slot event (listener invocation)
        rw [callIn_of_taken taken, callFate_some]
        cases ended : (hub.perform now (listener invocation)).answer <;>
          simp [quiet, answer, ended, Report.isVerdict, Fate.measurement?]
  · rw [strays.dispatched, strays.fated]
    exact strays.counted

theorem answer_dispatch (hub : Hub) (now : Instant) (raw : String) :
    (hub.dispatch now raw).answer = (hub.fate now raw).isFinished := by
  rcases addresses_or_strays raw with
    ⟨slot, invocation, addresses⟩ | ⟨reports, fate, strays⟩
  · have same := congrArg Prod.snd (hub.dispatch_eq now raw)
    rw [show (hub.dispatch now raw).answer = _ from same,
      fate_of_addresses addresses, call?_of_addressee addresses.addressee.1]
    cases hub.callIn slot invocation with
    | none => rfl
    | some call =>
        cases call with
        | mk place payload listener =>
            rw [callFate_some]
            cases ended : (hub.perform now (listener payload)).answer <;>
              simp [called, ListenerCall.program, ended, Fate.isFinished]
  · rw [strays.dispatched, strays.fated]
    cases fate with
    | finished slot invocation => cases strays.unheard
    | _ => rfl

/-! ## Listeners that falter -/

theorem FaltersAs.callFate {hub changed : Hub}
    (related : hub.FaltersAs changed) (now : Instant) (slot : Slot)
    (invocation : Invocation) :
    (hub.callFate now (hub.callIn slot invocation)).Falters
      (changed.callFate now (changed.callIn slot invocation)) := by
  rcases related.listeners.empty_or slot with
    ⟨empty, none⟩ | ⟨listener, other, taken, second, falters⟩
  · rw [callIn_of_empty empty, callIn_of_empty none]
    exact .same _
  · have ends := (perform_echoes (falters invocation) now related).answer
    rw [callIn_of_taken taken, callIn_of_taken second, callFate_some,
      callFate_some]
    rcases ends.same_or_failed with same | ⟨finished, failed⟩
    · rw [same]
      exact .same _
    · rw [finished, failed]
      exact .moved slot invocation

/-- On the other hub a notification comes to the same, or to the failure of
the listener that finished. -/
theorem FaltersAs.fate {hub changed : Hub} (related : hub.FaltersAs changed)
    (now : Instant) (raw : String) :
    (hub.fate now raw).Falters (changed.fate now raw) := by
  rcases addresses_or_strays raw with
    ⟨slot, invocation, addresses⟩ | ⟨reports, fate, strays⟩
  · rw [fate_of_addresses addresses, fate_of_addresses addresses]
    exact related.callFate now slot invocation
  · rw [strays.fated, strays.fated]
    exact .same fate

private theorem isFinished_fate_faltering (hub : Hub) (now : Instant)
    (raw : String) :
    ((hub.withListeners hub.dispatcher.listeners.faltering).fate now
      raw).isFinished = false := by
  rcases addresses_or_strays raw with
    ⟨slot, invocation, addresses⟩ | ⟨reports, fate, strays⟩
  · rw [fate_of_addresses addresses]
    have held := hub.dispatcher.listeners.get_faltering slot
    cases taken : hub.dispatcher.listeners.get slot with
    | none =>
        rw [taken] at held
        rw [callIn_of_empty held]
        rfl
    | some listener =>
        rw [taken, Option.map_some] at held
        have fails := perform_faltering
          (hub.withListeners hub.dispatcher.listeners.faltering) now
          (listener invocation)
        rw [callIn_of_taken held, callFate_some, Listener.faltering,
          Option.isNone_eq_false_iff.mpr fails]
        rfl
  · rw [strays.fated]
    cases fate with
    | finished slot invocation => cases strays.unheard
    | _ => rfl

/-- If all listeners fail, a notification comes to the failure of the one that
finished. -/
theorem fate_faltering (hub : Hub) (now : Instant) (raw : String) :
    (hub.withListeners hub.dispatcher.listeners.faltering).fate now raw =
      (hub.fate now raw).failing := by
  have related : hub.FaltersAs
      (hub.withListeners hub.dispatcher.listeners.faltering) :=
    .refitted _ (Listeners.faltersAs_faltering _)
  exact (related.fate now raw).eq_failing
    (hub.isFinished_fate_faltering now raw)

end Hub

/-- The same report, or the count of a call that failed instead of one that
did not. -/
inductive Report.Moves : Report → Report → Prop where
  | same (report : Report) : Moves report report
  | moved : Moves (.measured .dispatched) (.measured .listenerFailed)

/-- The notice of a listener that failed. -/
def Report.isFailure : Report → Bool
  | .logged (.listenerFailed _ _ _) => true
  | _ => false

/-- The reports without the notices of failures. -/
def apart (reports : List Report) : List Report :=
  reports.filter fun report => !report.isFailure

@[simp]
theorem apart_append (first second : List Report) :
    apart (first ++ second) = apart first ++ apart second := by
  simp [apart]

theorem Report.Moves.all_same (reports : List Report) :
    List.Forall₂ Report.Moves reports reports :=
  List.forall₂_same.mpr fun report _ => .same report

namespace Hub

private theorem apart_deliver {hub : Hub} {slot : Slot} {listener : Listener}
    (taken : hub.dispatcher.listeners.get slot = some listener)
    (now : Instant) (event : String) (invocation : Invocation) :
    let performed := hub.perform now (listener invocation)
    apart (hub.deliver now slot event invocation).reports =
      apart performed.reports ++
        [.measured
          (if performed.answer.isNone then .dispatched
            else .listenerFailed)] := by
  intro performed
  have invoked : apart (hub.invoke now slot event
      (listener invocation)).reports = apart performed.reports := by
    unfold invoke
    dsimp only
    split
    · rfl
    · simp [performed, apart, Report.isFailure]
  obtain ⟨-, answer⟩ := hub.invoke_eq now slot event (listener invocation)
  simp only [deliver, taken, apart_append, invoked, answer]
  rfl

theorem FaltersAs.deliver {hub changed : Hub}
    (related : hub.FaltersAs changed) (now : Instant) (slot : Slot)
    (event : String) (invocation : Invocation) :
    List.Forall₂ Report.Moves
        (apart (hub.deliver now slot event invocation).reports)
        (apart (changed.deliver now slot event invocation).reports) ∧
      (hub.deliver now slot event invocation).after.FaltersAs
        (changed.deliver now slot event invocation).after := by
  rcases related.listeners.empty_or slot with
    ⟨empty, none⟩ | ⟨listener, other, taken, second, falters⟩
  · simp only [Hub.deliver, empty, none]
    exact ⟨Report.Moves.all_same _, related⟩
  · have echoes := perform_echoes (falters invocation) now related
    constructor
    · rw [apart_deliver taken, apart_deliver second, echoes.reports]
      refine List.rel_append (Report.Moves.all_same _) (.cons ?_ .nil)
      rcases echoes.answer.same_or_failed with same | ⟨finished, failed⟩
      · rw [same]
        exact .same _
      · rw [finished, failed]
        exact .moved
    · have first := (hub.invoke_eq now slot event (listener invocation)).1
      have later := (changed.invoke_eq now slot event (other invocation)).1
      simp only [Hub.deliver, taken, second, first, later]
      exact echoes.after

theorem FaltersAs.dispatch {hub changed : Hub}
    (related : hub.FaltersAs changed) (now : Instant) (raw : String) :
    List.Forall₂ Report.Moves (apart (hub.dispatch now raw).reports)
        (apart (changed.dispatch now raw).reports) ∧
      (hub.dispatch now raw).after.FaltersAs
        (changed.dispatch now raw).after := by
  rcases addresses_or_strays raw with
    ⟨slot, invocation, addresses⟩ | ⟨reports, fate, strays⟩
  · obtain ⟨event, dispatched⟩ := dispatch_of_addresses addresses
    rw [dispatched, dispatched]
    exact related.deliver now slot event invocation
  · rw [strays.dispatched, strays.dispatched]
    exact ⟨Report.Moves.all_same _, related⟩

end Hub

end Switchboard
