import PathRouter.Text.Digit

/-!
# Levels of events

How much an event matters, and from which level on events are wanted.
-/

namespace PathRouter.Log

/-- How much an event matters. -/
inductive Level where
  | error | warn | info | debug | trace
deriving DecidableEq, Repr

namespace Level

/-- All levels, the most important one first. -/
def all : List Level := [error, warn, info, debug, trace]

/-- The place of a level among all levels, counted from one. -/
def rank : Level → Nat
  | error => 1
  | warn => 2
  | info => 3
  | debug => 4
  | trace => 5

/-- The name of a level in small letters. -/
def name : Level → String
  | error => "error"
  | warn => "warn"
  | info => "info"
  | debug => "debug"
  | trace => "trace"

/-- The name of a level as it stands in events. -/
def title : Level → String
  | error => "ERROR"
  | warn => "WARN"
  | info => "INFO"
  | debug => "DEBUG"
  | trace => "TRACE"

/-- The level with a name; small and capital letters make no difference. -/
def ofName? (name : String) : Option Level :=
  all.find? fun l => l.name.toList == name.toList.map Char.toLower

end Level

/-- The least important level that is wanted, or none at all. -/
abbrev Threshold := Option Level

namespace Threshold

/-- The place of a threshold among all thresholds. -/
def rank (t : Threshold) : Nat := t.elim 0 Level.rank

def name (t : Threshold) : String := t.elim "off" Level.name

/-- Whether events of a level are wanted. -/
def admits (t : Threshold) (l : Level) : Bool := l.rank ≤ rank t

/-- All thresholds by rank. -/
def all : List Threshold := none :: Level.all.map some

/-- The threshold that a text stands for, by rank or by name. Nothing stands for errors only. -/
def ofText? (text : String) : Option Threshold :=
  match Text.signedNumber? text.toList with
  | some rank => all[rank]?
  | none =>
    if text.isEmpty then some (some .error)
    else all.find? fun t => (name t).toList == text.toList.map Char.toLower

end Threshold

end PathRouter.Log
