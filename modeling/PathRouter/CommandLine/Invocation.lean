import PathRouter.CommandLine.Arguments
import PathRouter.Log.Settings
import PathRouter.Request.Method

/-!
# Invocations

What the program is asked to do: a table, perhaps another base path for it, and a command. The table
and the base path may also be given by the environment. The arguments of the command are looked at
first, then those before it, then the environment.
-/

namespace PathRouter.CommandLine

/-- What is to be done with a router. -/
inductive Command where
  /-- Tell the number of routes. -/
  | check
  | list
  /-- Look up a request. -/
  | lookUp (path method : String)
  /-- Make the path of a named route. -/
  | generate (name : String) (params : List (String × String))
deriving DecidableEq, Repr

/-- What the program is asked to do. -/
structure Invocation where
  /-- The path of the table. -/
  table : String
  /-- The base path in place of that of the table. -/
  basePath : Option String
  command : Command
deriving DecidableEq, Repr

/-! ## Grammars -/

def tableOption : Parameter := ⟨"routes", some 'r', .path, false⟩

/-- The option for the base path. -/
def basePathOption : Parameter := ⟨"base-path", none, .text, false⟩

/-- The option for the method of a request. -/
def methodOption : Parameter := ⟨"method", some 'm', .text, false⟩

/-- The option for the value of a placeholder. -/
def paramOption : Parameter := ⟨"param", some 'p', .pair, true⟩

/-- The only operand of a command. -/
def onlyOperand : Parameter := ⟨"operand", none, .text, false⟩

def commandNames : List String := ["check", "list", "match", "generate", "help"]

/-- What stands before the command. -/
def mainGrammar : Grammar := ⟨[tableOption, basePathOption], [], commandNames⟩

/-- The arguments of a command without arguments. -/
def emptyGrammar : Grammar := ⟨[], [], []⟩

/-- The arguments of looking up a request. -/
def lookUpGrammar : Grammar := ⟨[methodOption], [onlyOperand], []⟩

/-- The arguments of making a path. -/
def generateGrammar : Grammar := ⟨[paramOption], [onlyOperand], []⟩

/-! ## Reading -/

/-- Reads all arguments of a command. -/
def readCommandArguments (g : Grammar) (args : List String) : Except UsageFault Progress := do
  let (s, _) ← readArguments g (.start g) args
  s.settle

/-- The value of an operand, which must be given. -/
def required (s : Progress) (p : Parameter) : Except UsageFault String :=
  match s.value? p.name with
  | some value => .ok value
  | none => .error .missingArgument

/-- What is answered to a request for help with some words: the words must be names of commands, of
which only the first one may have further commands, and it has none. -/
def helpFault : List String → UsageFault
  | [] => .helpWanted
  | [name] => if commandNames.contains name then .helpWanted else .unknownCommand
  | _ => .unknownCommand

/-- Reads a command with its arguments. -/
def readCommand (name : String) (args : List String) : Except UsageFault Command :=
  match name with
  | "check" => do
    let _ ← readCommandArguments emptyGrammar args
    pure .check
  | "list" => do
    let _ ← readCommandArguments emptyGrammar args
    pure .list
  | "match" => do
    let s ← readCommandArguments lookUpGrammar args
    pure (.lookUp (← required s onlyOperand)
      ((s.value? methodOption.name).getD Request.defaultMethod))
  | "generate" => do
    let s ← readCommandArguments generateGrammar args
    pure (.generate (← required s onlyOperand) ((s.values paramOption.name).filterMap splitPair?))
  | _ => .error (helpFault args)

/-- Gives an option the value of a variable, if it has none. -/
def giveVariable (env : Environment) (p : Parameter) (variable_ : String) (s : Progress) :
    Except UsageFault Progress :=
  match s.value? p.name, env.get? variable_ with
  | none, some value => s.give p value
  | _, _ => .ok s

/-- Looks at all values that stand before the command or in the environment. -/
def finish (env : Environment) (s : Progress) : Except UsageFault Progress := do
  let s ← s.settle
  let s ← giveVariable env tableOption "BRKT_ROUTES" s
  giveVariable env basePathOption "BRKT_BASE_PATH" s

/-- The invocation that arguments stand for. -/
def Invocation.ofArguments (env : Environment) (args : List String) :
    Except UsageFault Invocation := do
  match ← readArguments mainGrammar (.start mainGrammar) args with
  | (s, none) =>
    let s ← finish env s
    throw (if s.given.isEmpty then .nothingGiven else .missingCommand)
  | (s, some (name, args)) =>
    let command ← readCommand name args
    let s ← finish env s
    pure ⟨← required s tableOption, s.value? basePathOption.name, command⟩

end PathRouter.CommandLine
