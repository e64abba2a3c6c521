import PathRouter.Log.Filter
import PathRouter.Dictionary

/-!
# Settings of the log

What is logged and how, as the environment says.
-/

namespace PathRouter

/-- The variables that are set, with their values. -/
abbrev Environment := Dictionary String

end PathRouter

namespace PathRouter.Log

/-- How events are written: for machines or for people. -/
inductive Format where
  | json | pretty
deriving DecidableEq, Repr

namespace Format

def name : Format → String
  | json => "json"
  | pretty => "pretty"

/-- The format with a name; small and capital letters make no difference. -/
def ofName (name : String) : Format :=
  if name.toList.map Char.toLower = "json".toList then json else pretty

end Format

structure Settings where
  /-- The name of the level from which on events are wanted. -/
  levelName : String
  format : Format
  /-- More directives, separated by commas. -/
  targets : Option String
  /-- Whether events are written while the program goes on. -/
  buffered : Bool
  /-- Whether events say where they come from. -/
  located : Bool
deriving DecidableEq, Repr

namespace Settings

/-- The settings of an empty environment. -/
def standard : Settings := ⟨"info", .pretty, none, false, false⟩

/-- A truth value. -/
def switch? : String → Option Bool
  | "true" => some true
  | "false" => some false
  | _ => none

/-- The settings of an environment. A value that means nothing counts as not set. -/
def ofEnvironment (env : Environment) : Settings :=
  ⟨(env.get? "BRKT_LOG_LEVEL").getD standard.levelName,
    (env.get? "BRKT_LOG_FORMAT").elim standard.format Format.ofName,
    env.get? "BRKT_LOG_TARGET_FILTER",
    ((env.get? "BRKT_LOG_ASYNC").bind switch?).getD standard.buffered,
    ((env.get? "BRKT_LOG_INCLUDE_LOCATION").bind switch?).getD standard.located⟩

/-- The level from which on events are wanted. -/
def level (s : Settings) : Level := (Level.ofName? s.levelName).getD .info

/-- The directives for targets, as they are written. -/
def targetTexts (s : Settings) : List String :=
  (((s.targets.getD "").splitOn ",").map Text.trimBlank).filter fun part => !part.isEmpty

/-- The texts among them that are no directives. -/
def badTargets (s : Settings) : List String :=
  s.targetTexts.filter fun part => (Directive.ofText? part).isNone

/-- The filter: that of the environment, if there is one, or else the level, and the directives for
targets. -/
def filter (s : Settings) (env : Environment) : Filter :=
  let base := ((env.get? "RUST_LOG").bind Filter.ofText?).getD
    (.ofDirectives [.everywhere (some s.level)])
  (s.targetTexts.filterMap Directive.ofText?).foldl Filter.add base

end Settings

end PathRouter.Log
