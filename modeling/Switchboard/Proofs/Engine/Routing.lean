import Switchboard.Engine.Hub
import Switchboard.Proofs.Dispatcher.Deeds
import Switchboard.Proofs.Json.Rendering
import Switchboard.Proofs.Request.Naming

/-!
# Where frames go

What a frame is depends on the last members `id` and `method` that its text
gives it.  A reply goes to the correlator and a notification to the queue; a
frame that is neither goes nowhere.
-/

namespace Switchboard

open Json (Blank Parts Member Spells)

namespace Frame

/-- The frame is one object with these members, in the order of the text. -/
def Holds (raw : String) (written : List (String × Json.Value)) : Prop :=
  ∃ before inside behind,
    raw.toList = before ++ ('\x7b' :: (inside ++ '\x7d' :: behind)) ∧
      Blank before ∧ Blank behind ∧
        Parts (Member (Spells 126)) true inside written

/-- The last `id` of the frame names an id. -/
def IsReply (raw : String) (id : RequestId) : Prop :=
  ∃ written value, Holds raw written ∧
    Json.Members.last? "id" written = some value ∧ RequestId.Names value id

/-- The frame has no `id`, and its last `method` is a text. -/
def IsNotification (raw name : String) : Prop :=
  ∃ written, Holds raw written ∧ Json.Members.last? "id" written = none ∧
    Json.Members.last? "method" written = some (.text name)

theorem document_object_iff {raw : String} {members : Json.Members} :
    Json.Document raw.toList (.object members) ↔
      ∃ written, Holds raw written ∧
        members = Json.Members.gather [] written := by
  constructor
  · rintro ⟨before, written, behind, split, leading, trailing, spelled⟩
    rcases spelled with scalar | compound
    · cases scalar
    · cases compound with
      | @object inside written parts =>
          refine ⟨written, ⟨before, inside, behind, ?_, leading, trailing,
            parts⟩, rfl⟩
          simpa using split
  · rintro ⟨written, ⟨before, inside, behind, split, leading, trailing,
      parts⟩, rfl⟩
    refine ⟨before, _, behind, ?_, leading, trailing, .inr (.object parts)⟩
    simpa using split

theorem holds_compact {members : List (String × Json.Value)}
    (plain : ∀ member ∈ members, Json.Plain 126 member.2) :
    Holds (Json.Value.object members).compact members := by
  refine ⟨[], Json.renderMembers members, [], ?_, .nil, .nil, ?_⟩
  · simp [Json.Value.compact, Json.Value.render]
  · rw [Json.renderMembers_eq]
    apply (Json.parts_intercalate Json.renderMember _).1
    intro member inside
    exact Json.member_render member.1 (plain member inside).spells

theorem members_eq_ok_iff {raw : String} {members : Json.Members} :
    Frame.members raw = .ok members ↔
      ∃ written, Holds raw written ∧
        members = Json.Members.gather [] written := by
  rw [← document_object_iff, ← Json.parse_iff]
  fun_cases Frame.members raw with
  | case1 complaint refused => simp [refused]
  | case2 found read => simp [read]
  | case3 value other read =>
      rw [read]
      constructor
      · intro impossible
        cases impossible
      · intro same
        exact absurd (Except.ok.inj same) (other members)

theorem read_of_isReply {raw : String} {id : RequestId}
    (reply : IsReply raw id) : Frame.read raw = .ok (.reply id) := by
  obtain ⟨written, value, holds, last, names⟩ := reply
  have held := members_eq_ok_iff.mpr ⟨written, holds, rfl⟩
  have named := RequestId.ofValue?_eq_some_iff.mpr names
  rw [Frame.read, held]
  simp [bind, Except.bind, Json.Members.find?_gather_nil, last, named]

theorem read_of_isNotification {raw name : String}
    (notification : IsNotification raw name) :
    Frame.read raw = .ok .notification := by
  obtain ⟨written, holds, absent, named⟩ := notification
  have held := members_eq_ok_iff.mpr ⟨written, holds, rfl⟩
  rw [Frame.read, held]
  simp [bind, Except.bind, Json.Members.find?_gather_nil, absent, named]

theorem is_of_read {raw : String} {frame : Frame}
    (read : Frame.read raw = .ok frame) :
    (∃ id, frame = .reply id ∧ IsReply raw id) ∨
      ∃ name, frame = .notification ∧ IsNotification raw name := by
  obtain ⟨members, held, read⟩ := Json.bind_eq_ok read
  obtain ⟨written, holds, rfl⟩ := members_eq_ok_iff.mp held
  simp only [Json.Members.find?_gather_nil] at read
  split at read
  · next value last =>
      split at read
      · next id named =>
          cases read
          exact .inl ⟨id, rfl, written, value, holds, last,
            RequestId.ofValue?_eq_some_iff.mp named⟩
      · cases read
  · next absent =>
      split at read
      · next name named =>
          cases read
          exact .inr ⟨name, rfl, written, holds, absent, named⟩
      · cases read

theorem isReply_of_read {raw : String} {id : RequestId}
    (read : Frame.read raw = .ok (.reply id)) : IsReply raw id := by
  rcases is_of_read read with ⟨other, same, reply⟩ | ⟨name, other, -⟩
  · cases same
    exact reply
  · cases other

theorem isNotification_of_read {raw : String}
    (read : Frame.read raw = .ok .notification) :
    ∃ name, IsNotification raw name := by
  rcases is_of_read read with ⟨id, other, -⟩ | ⟨name, -, notification⟩
  · cases other
  · exact ⟨name, notification⟩

/-- The last `method` of the frame is a text, and this is what the object in
its last `params` holds, if there is one. -/
def Tells (raw name : String) (params : Option Json.Members) : Prop :=
  ∃ written, Holds raw written ∧
    Json.Members.last? "method" written = some (.text name) ∧
    (Json.Members.last? "params" written).bind Json.Value.members? = params

theorem parse_of_tells {raw name : String} {params : Option Json.Members}
    (tells : Tells raw name params) :
    Notification.parse raw = .ok { name := name, params := params } := by
  obtain ⟨written, holds, named, same⟩ := tells
  have held := members_eq_ok_iff.mpr ⟨written, holds, rfl⟩
  rw [Notification.parse, held]
  simp [bind, Except.bind, Json.Members.find?_gather_nil, named, same]

theorem tells_of_parse {raw : String} {notification : Notification}
    (parsed : Notification.parse raw = .ok notification) :
    Tells raw notification.name notification.params := by
  obtain ⟨members, held, parsed⟩ := Json.bind_eq_ok parsed
  obtain ⟨written, holds, rfl⟩ := members_eq_ok_iff.mp held
  simp only [Json.Members.find?_gather_nil] at parsed
  split at parsed
  · next name named =>
      cases parsed
      exact ⟨written, holds, named, rfl⟩
  · cases parsed

theorem parse_of_isNotification {raw name : String}
    (notification : IsNotification raw name) :
    ∃ parsed, Notification.parse raw = .ok parsed ∧ parsed.name = name := by
  obtain ⟨written, holds, -, named⟩ := notification
  exact ⟨_, parse_of_tells ⟨written, holds, named, rfl⟩, rfl⟩

end Frame

/-! ## Verdicts on notifications -/

/-- A report of what became of a notification. -/
def Report.isVerdict : Report → Bool
  | .measured .dispatched => true
  | .measured .listenerFailed => true
  | .measured .unrecognised => true
  | .measured .malformed => true
  | _ => false

theorem Dispatcher.any_isVerdict_enqueue (dispatcher : Dispatcher)
    (raw : String) :
    (dispatcher.enqueue raw).reports.any Report.isVerdict = false := by
  unfold enqueue push
  cases dispatcher.closed <;> rfl

theorem Dispatcher.any_isVerdict_close (dispatcher : Dispatcher) :
    dispatcher.close.reports.any Report.isVerdict = false := by
  unfold close
  dsimp only
  split <;> rfl

private theorem Correlator.any_isVerdict_complete (correlator : Correlator)
    (now : Instant) (id : RequestId) (payload : String) :
    (correlator.complete now id payload).reports.any Report.isVerdict =
      false := by
  fun_cases correlator.complete now id payload <;> rfl

private theorem Correlator.any_isVerdict_cancel (correlator : Correlator)
    (id : RequestId) :
    (correlator.cancel id).reports.any Report.isVerdict = false := by
  fun_cases correlator.cancel id <;> rfl

namespace Hub

private theorem any_isVerdict_perform (hub : Hub) (now : Instant)
    (program : Program) :
    (hub.perform now program).reports.any Report.isVerdict = false := by
  induction program generalizing hub with
  | finish => rfl
  | fail failure => rfl
  | note hearing next induction =>
      simp [perform, Report.isVerdict, induction hub]
  | listen slot listener next _ induction => exact induction _
  | unlisten slot next induction => exact induction _
  | enqueue raw next induction =>
      simp [perform, Step.andThen, onDispatcher,
        Dispatcher.any_isVerdict_enqueue, induction]
  | complete id payload next induction =>
      simp [perform, Step.andThen, onCorrelator,
        Correlator.any_isVerdict_complete, induction]
  | cancel id next induction =>
      simp [perform, Step.andThen, onCorrelator,
        Correlator.any_isVerdict_cancel, induction]
  | close next induction =>
      simp [perform, Step.andThen, onDispatcher,
        Dispatcher.any_isVerdict_close, induction]

theorem any_isVerdict_invoke (hub : Hub) (now : Instant) (slot : Slot)
    (event : String) (program : Program) :
    (hub.invoke now slot event program).reports.any Report.isVerdict =
      false := by
  have performed := hub.any_isVerdict_perform now program
  unfold invoke
  dsimp only
  split
  · exact performed
  · simp [performed, Report.isVerdict]

private theorem malformed_not_mem_deliver
    (hub : Hub) (now : Instant) (slot : Slot)
    (event : String) (invocation : Invocation) :
    .measured .malformed ∉
      (hub.deliver now slot event invocation).reports := by
  unfold deliver
  split
  · simp
  · next listener found =>
      have invoked := hub.any_isVerdict_invoke now slot event
        (listener invocation)
      intro member
      rcases List.mem_append.mp member with before | last
      · have quiet := List.any_eq_false.mp invoked _ before
        exact quiet rfl
      · have same := List.mem_singleton.mp last
        split at same <;> cases same

theorem malformed_not_mem_dispatch {raw : String}
    {notification : Notification}
    (parsed : Notification.parse raw = .ok notification) (hub : Hub)
    (now : Instant) :
    .measured .malformed ∉ (hub.dispatch now raw).reports := by
  simp only [dispatch, parsed]
  cases Category.ofName notification.name with
  | dial kind =>
      cases notification.dialParams with
      | none => simp
      | some params => exact hub.malformed_not_mem_deliver now _ _ _
  | lifecycle => exact hub.malformed_not_mem_deliver now _ _ _
  | stateChange => exact hub.malformed_not_mem_deliver now _ _ _
  | unrecognised => simp

/-! ## Routes -/

theorem payload_of_complete {correlator : Correlator} {now : Instant}
    {id : RequestId} {payload : String}
    (taken : (correlator.complete now id payload).answer = true) :
    ∃ record,
      Records.find? id (correlator.complete now id payload).after.records =
          some record ∧
        record.state = .completed ∧ record.payload = some payload := by
  revert taken
  fun_cases correlator.complete now id payload with
  | case3 _ record found fulfilled cells fits =>
      intro _
      refine ⟨fulfilled, ?_, ?_⟩
      · simp [Correlator.store, Records.find?_put_self]
      · unfold Record.fulfil at fits
        split at fits
        · cases fits
          exact ⟨rfl, rfl⟩
        · cases fits
  | _ =>
      intro impossible
      cases impossible

theorem route_of_reply {raw : String} {id : RequestId}
    (reply : Frame.IsReply raw id) (hub : Hub) (now : Instant) :
    hub.route now raw =
      (hub.onCorrelator (·.complete now id raw)).map fun accepted =>
        if accepted then .reply else .lateReply := by
  rw [route, Frame.read_of_isReply reply]

private theorem route_of_notification {raw name : String}
    (notification : Frame.IsNotification raw name) (hub : Hub)
    (now : Instant) :
    hub.route now raw =
      (hub.onDispatcher (·.enqueue raw)).map fun accepted =>
        if accepted then .notification else .dropped := by
  rw [route, Frame.read_of_isNotification notification]

private theorem route_of_neither {raw : String}
    (noReply : ∀ id, ¬Frame.IsReply raw id)
    (noNotification : ∀ name, ¬Frame.IsNotification raw name) (hub : Hub)
    (now : Instant) :
    (hub.route now raw).answer = .dropped ∧
      (hub.route now raw).after = hub := by
  cases read : Frame.read raw with
  | ok frame =>
      rcases Frame.is_of_read read with
        ⟨id, -, reply⟩ | ⟨name, -, notification⟩
      · exact absurd reply (noReply id)
      · exact absurd notification (noNotification name)
  | error refused => simp [route, read]

/-- A frame that names an id in its last `id` completes that id; one without an
`id` whose last `method` is a text is queued, unless the dispatcher is closed,
and is no malformed notification.  Any other changes nothing. -/
theorem frames_are_routed_exactly (hub : Hub) (now : Instant)
    (raw : String) :
    let routed := hub.route now raw
    (∀ id, Frame.IsReply raw id →
      let completed := hub.correlator.complete now id raw
      routed.answer = (if completed.answer then .reply else .lateReply) ∧
        routed.after = { hub with correlator := completed.after } ∧
        routed.reports = completed.reports ∧
        (routed.answer = .reply → ∃ record,
          Records.find? id routed.after.correlator.records = some record ∧
            record.state = .completed ∧ record.payload = some raw)) ∧
      (∀ name, Frame.IsNotification raw name →
        routed.after.correlator = hub.correlator ∧
          (hub.dispatcher.closed = true →
            routed.answer = .dropped ∧ routed.after = hub) ∧
          (hub.dispatcher.closed = false →
            routed.answer = .notification ∧
              routed.after.dispatcher =
                { hub.dispatcher with
                  queue := hub.dispatcher.queue ++ [raw]
                  wake := hub.dispatcher.wake.notifyOne }) ∧
          ∃ notification, Notification.parse raw = .ok notification ∧
            notification.name = name ∧
            ∀ (later : Hub) (time : Instant),
              .measured .malformed ∉ (later.dispatch time raw).reports) ∧
      ((∀ id, ¬Frame.IsReply raw id) →
        (∀ name, ¬Frame.IsNotification raw name) →
          routed.answer = .dropped ∧ routed.after = hub) := by
  intro routed
  refine ⟨?_, ?_, ?_⟩
  · intro id reply completed
    have same : routed = _ := route_of_reply reply hub now
    have answer : routed.answer =
        if completed.answer then .reply else .lateReply := by
      rw [same]
      rfl
    refine ⟨answer, by rw [same]; rfl, by rw [same]; rfl, ?_⟩
    intro isReply
    have taken : completed.answer = true := by
      cases accepted : completed.answer with
      | true => rfl
      | false =>
          rw [answer, accepted] at isReply
          cases isReply
    rw [same]
    exact payload_of_complete taken
  · intro name notification
    have same : routed = _ := route_of_notification notification hub now
    obtain ⟨parsed, found, named⟩ :=
      Frame.parse_of_isNotification notification
    refine ⟨by rw [same]; rfl, ?_, ?_, parsed, found, named,
      fun later time => malformed_not_mem_dispatch found later time⟩
    · intro closed
      rw [same]
      simp [onDispatcher, Dispatcher.enqueue, Dispatcher.push, closed]
    · intro opened
      rw [same]
      simp [onDispatcher, Dispatcher.enqueue, Dispatcher.push, opened,
        Dispatcher.notify]
  · intro noReply noNotification
    exact route_of_neither noReply noNotification hub now

/-- A frame with a `method` and two members `id` is a reply to the last of
them, one with a `method` and no `id` a notification, and one that goes on
behind its end is neither. -/
theorem three_frames_are_routed :
    let hub : Hub :=
      { correlator := (({ defaultTimeout := 1, maxRecordAge := 1 } :
            Correlator).openHandle 0 7).after
        dispatcher := {} }
    let reply := "\x7b\"id\":1,\"method\":\"m\",\"id\":\" +07\"\x7d"
    let notification := "\x7b\"method\":1,\"method\":\"m\"\x7d "
    let broken := "\x7b\"method\":\"m\"\x7d,"
    (Frame.IsReply reply 7 ∧
        (hub.route 0 reply).after =
          { hub with
            correlator := (hub.correlator.complete 0 7 reply).after }) ∧
      (Frame.IsNotification notification "m" ∧
        (hub.route 0 notification).after.dispatcher.queue =
          [notification]) ∧
      (hub.route 0 broken).after = hub := by
  intro hub reply notification broken
  have isReply : Frame.IsReply reply 7 := by
    apply Frame.isReply_of_read
    apply Json.ok_of_toOption
    decide +kernel
  have isNotification : Frame.IsNotification notification "m" := by
    have read : Frame.read notification = .ok .notification := by
      apply Json.ok_of_toOption
      decide +kernel
    obtain ⟨name, named⟩ := Frame.isNotification_of_read read
    obtain ⟨parsed, found, rfl⟩ := Frame.parse_of_isNotification named
    have same : (Notification.parse notification).toOption.map
        Notification.name = some "m" := by decide +kernel
    rw [found] at same
    rw [← Option.some.inj same]
    exact named
  have refused : (Frame.read broken).toOption = none := by decide +kernel
  refine ⟨⟨isReply, ?_⟩, ⟨isNotification, ?_⟩, ?_⟩
  · exact ((frames_are_routed_exactly hub 0 reply).1 7 isReply).2.1
  · have queued :=
      (frames_are_routed_exactly hub 0 notification).2.1 "m" isNotification
    rw [(queued.2.2.1 rfl).2]
    rfl
  · refine ((frames_are_routed_exactly hub 0 broken).2.2 ?_ ?_).2
    · intro id isReply
      rw [Frame.read_of_isReply isReply] at refused
      cases refused
    · intro name isNotification
      rw [Frame.read_of_isNotification isNotification] at refused
      cases refused

end Hub

end Switchboard
