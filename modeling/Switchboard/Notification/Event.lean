/-!
# Event names

An event belongs to the first group that has a pattern inside its name, so
names with a service and a version in front classify as their bare form.
-/

namespace Switchboard

namespace Text

/-- Whether the pattern stands somewhere in the text. -/
def occursIn (pattern : List Char) : List Char → Bool
  | [] => pattern.isEmpty
  | letter :: rest =>
      pattern.isPrefixOf (letter :: rest) || occursIn pattern rest

theorem occursIn_iff {pattern text : List Char} :
    occursIn pattern text = true ↔ pattern <:+: text := by
  induction text with
  | nil => simp [occursIn]
  | cons letter rest induction =>
      rw [occursIn, Bool.or_eq_true, List.isPrefixOf_iff_prefix, induction,
        List.infix_cons_iff]

end Text

/-- What a casting client asks an application to do. -/
inductive DialEvent where
  | hide
  | launch
  | resume
  | stop
  | state
  deriving Repr, DecidableEq

def DialEvent.name : DialEvent → String
  | .hide => "hide"
  | .launch => "launch"
  | .resume => "resume"
  | .stop => "stop"
  | .state => "state"

/-- The group of an event. -/
inductive Category where
  | dial (event : DialEvent)
  | lifecycle
  | stateChange
  | unrecognised
  deriving Repr, DecidableEq

namespace Category

/-- The patterns of the casting events, in the order they are tried. -/
def dialPatterns : List (String × DialEvent) :=
  [("onApplicationHideRequest", .hide),
    ("onApplicationLaunchRequest", .launch),
    ("onApplicationResumeRequest", .resume),
    ("onApplicationStopRequest", .stop),
    ("onApplicationStateRequest", .state)]

/-- The patterns of the application lifecycle. -/
def lifecyclePatterns : List String :=
  ["onApplicationActivated", "onApplicationLaunched",
    "onApplicationResumed", "onApplicationSuspended",
    "onApplicationTerminated", "onDestroyed", "onLaunched", "onSuspended",
    "onPluginSuspended"]

/-- The pattern of a state change. -/
def stateChangePattern : String := "statechange"

/-- The group of an event name. -/
def ofName (name : String) : Category :=
  let holds := fun (pattern : String) =>
    Text.occursIn pattern.toList name.toList
  match dialPatterns.find? fun entry => holds entry.1 with
  | some (_, event) => .dial event
  | none =>
      if lifecyclePatterns.any holds then
        .lifecycle
      else if holds stateChangePattern then
        .stateChange
      else
        .unrecognised

end Category

end Switchboard
