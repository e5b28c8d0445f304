import Switchboard.Log.Directive

/-!
# Log filters

A filter is a list of directives.  Those that can be decided from an entry
alone are its rules: they ask for a target that the entry's begins with, and
for a field that the entry has.  The first rule that fits an entry decides
whether it passes.
-/

namespace Switchboard.Log

/-- A threshold for the entries whose target begins with a text and that have
a field. -/
structure Rule where
  target : Option (List Char)
  field : Option (List Char)
  threshold : Threshold
  deriving Repr, DecidableEq

namespace Rule

/-- What can be decided of a directive from an entry alone.  Spans and values
of fields cannot. -/
def ofDirective? (directive : Directive) : Option Rule :=
  if directive.span.isSome || directive.test.any (·.wanted.isSome) then
    none
  else
    some
      { target := directive.target
        field := directive.test.map (·.field)
        threshold := directive.threshold }

def render (rule : Rule) : List Char :=
  Directive.layOut rule.target (rule.field.map Directive.braced)
    rule.threshold

/-- The order in which rules are tried: those with the longer target first,
then those with a field. -/
protected def compare (first second : Rule) : Ordering :=
  let size := fun (rule : Rule) => rule.target.map Text.byteCount
  ((Ord.compare (size first) (size second)).then
    ((Ord.compare first.field.isSome second.field.isSome).then
      ((Ord.compare first.target second.target).then
        (Ord.compare first.field second.field)))).swap

/-- Whether a rule is about an entry of a target. -/
def covers (rule : Rule) (target : String) (entry : Entry) : Bool :=
  rule.target.all (·.isPrefixOf target.toList) &&
    rule.field.all (entry.fieldNames.contains <| String.ofList ·)

end Rule

/-- Rules and directives in the order in which they are tried, each subject
once. -/
structure Filter where
  rules : List Rule
  /-- The directives that ask for more than a target. -/
  detailed : List Directive
  deriving Repr

namespace Filter

/-- Puts an element at its place in a list.  It replaces the one that is
equal to it in the order. -/
def place {α : Type} (order : α → α → Ordering) (element : α) :
    List α → List α
  | [] => [element]
  | other :: rest =>
      match order element other with
      | .lt => element :: other :: rest
      | .eq => element :: rest
      | .gt => other :: place order element rest

/-- Puts the elements of a list in order, the later of two equal ones kept. -/
def arrange {α : Type} (order : α → α → Ordering) (elements : List α) :
    List α :=
  elements.foldl (fun placed element => place order element placed) []

/-- The pieces between commas. -/
def pieces (text : List Char) : List (List Char) :=
  go [] text
where
  go (taken : List Char) : List Char → List (List Char)
    | [] => [taken.reverse]
    | letter :: rest =>
        if letter = ',' then
          taken.reverse :: go [] rest
        else
          go (letter :: taken) rest

def ofDirectives (directives : List Directive) : Filter :=
  let (detailed, plain) := directives.partition Directive.isDetailed
  { rules := arrange Rule.compare
      ((plain ++ detailed).filterMap Rule.ofDirective?)
    detailed := arrange Directive.compare detailed }

def parse (text : String) : Except FilterError Filter := do
  let written := (pieces text.toList).filter (!·.isEmpty)
  let directives ← written.mapM Directive.parse
  pure (ofDirectives directives)

/-- The filter as text, its rules first. -/
def render (filter : Filter) : String :=
  let written :=
    filter.rules.map Rule.render ++ filter.detailed.map Directive.render
  ",".intercalate (written.map String.ofList)

/-- Whether an entry of a target passes. -/
def passes (filter : Filter) (target : String) (entry : Entry) : Bool :=
  match filter.rules.find? (·.covers target entry) with
  | some rule => Threshold.passes rule.threshold entry.level
  | none => false

end Filter

end Switchboard.Log
