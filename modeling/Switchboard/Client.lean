import Switchboard.Correlator.Wait
import Switchboard.Engine.Config
import Switchboard.Request.Basic

/-!
# The client

The client makes requests with fresh ids.  A call registers its request with
the correlator before the request is sent, and takes it back when sending
fails, so no reply can come too early and no record is left behind.
-/

namespace Switchboard

structure Client where
  ids : Allocator := {}
  deriving Repr, DecidableEq

namespace Client

/-- A call with a fresh id. -/
def call (client : Client) (method : String) (params : Option Json.Value) :
    Request × Client :=
  let (id, ids) := client.ids.take
  ({ id := id, method := method, params := params }, ⟨ids⟩)

/-- A request for the events of a service, or one that calls them off.  It
takes two ids, the second one for the event. -/
def subscription (client : Client) (interest : Interest)
    (callsign event : String) : Request × Client :=
  let (id, ids) := client.ids.take
  let (eventId, ids) := ids.take
  (.subscription interest id callsign event eventId, ⟨ids⟩)

/-- What the value of a call is, given how its wait ended. -/
def result (outcome : Outcome) :
    Except CorrelationError (Option Json.Value) :=
  match outcome with
  | .completed reply =>
      match replyValue reply with
      | .ok value => .ok (some value)
      | .error malformed => .error (.malformedReply malformed)
  | _ => .ok none

end Client

/-- A request that is registered and has been handed to the transport. -/
structure Call where
  request : Request
  handle : Handle
  timeout : Nat

namespace Correlator

/-- Registers a request and hands its frame to the transport.  A timeout of
zero is refused, and so is any request after shutdown. -/
def openCall (correlator : Correlator) (now : Instant) (request : Request)
    (timeout : Nat) : Step Correlator (Except CorrelationError Call) :=
  if timeout = 0 then
    { answer := .error .invalidTimeout, after := correlator }
  else if correlator.closed then
    { answer := .error .shuttingDown, after := correlator }
  else
    let opened := correlator.openHandle now request.id
    { answer :=
        .ok
          { request := request
            handle := opened.answer
            timeout := timeout }
      after := opened.after
      reports := opened.reports ++ [.sent request.encode] }

/-- Goes on with a call once the transport is done with its frame.  A request
that could not be sent is taken back.  One that was sent waits for its reply
up to a deadline, which is the answer. -/
def sendEnded (correlator : Correlator) (now : Instant) (call : Call)
    (failure : Option CorrelationError) :
    Step Correlator (Except CorrelationError Instant) :=
  let request := call.request
  match failure with
  | some error =>
      let cancelled := correlator.cancel request.id
      { answer := .error error
        after := cancelled.after
        reports :=
          cancelled.reports ++
            [.logged (.sendFailed request.id request.method error.message)] }
  | none =>
      { answer := .ok (now + call.timeout)
        after := correlator
        reports := [.logged (.requestSent request.id request.method)] }

end Correlator

end Switchboard
