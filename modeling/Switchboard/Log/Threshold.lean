import Switchboard.Log.Entry
import Switchboard.Text.Numeral

/-!
# Thresholds

A threshold is the least grave level that passes.  It is written as a name or
as a number from zero to five.
-/

namespace Switchboard.Log

/-- The least grave level that passes, if any does. -/
abbrev Threshold := Option Level

namespace Threshold

/-- The thresholds by name and number, from the strictest on. -/
def named : List (String × Threshold) :=
  [("off", none), ("error", some .error), ("warn", some .warn),
    ("info", some .info), ("debug", some .debug), ("trace", some .trace)]

/-- The threshold that a text names: a number up to five, or a name in any
case. -/
def ofText? (text : List Char) : Option Threshold :=
  match (Text.unsigned64? text).bind fun value => named[value.toNat]? with
  | some entry => some entry.2
  | none =>
      (named.find? fun entry =>
        entry.1.toList = text.map Char.toLower).map (·.2)

def name (threshold : Threshold) : String :=
  match threshold with
  | none => "off"
  | some .error => "error"
  | some .warn => "warn"
  | some .info => "info"
  | some .debug => "debug"
  | some .trace => "trace"

def passes (threshold : Threshold) (level : Level) : Bool :=
  match threshold with
  | none => false
  | some least => level.rank ≤ least.rank

end Threshold

end Switchboard.Log
