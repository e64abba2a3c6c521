/-!
# Arguments of commands

The arguments of a command are options with a value, written after a dash or two, and operands. An
option waits for its value, and the value is looked at only when the next option or operand comes or
the arguments end; so of several faults an earlier value may be reported after a later word.
-/

namespace PathRouter.CommandLine

/-- Why arguments cannot be obeyed. -/
inductive UsageFault where
  /-- Help is asked for. -/
  | helpWanted
  /-- There are no arguments at all. -/
  | nothingGiven
  /-- An option has no value, or an empty one that must not be empty. -/
  | missingValue
  /-- A value has not the right form. -/
  | badValue (value : String)
  /-- An option that takes no value has one. -/
  | needlessValue
  /-- An option is given twice. -/
  | repeatedOption
  | unknownArgument
  /-- A required option or operand is not given. -/
  | missingArgument
  | unknownCommand
  | missingCommand
deriving DecidableEq, Repr

inductive ValueKind where
  | text
  /-- A path must not be empty. -/
  | path
  /-- A key and a value with an equals sign between them. -/
  | pair
deriving DecidableEq, Repr

/-- The key and the value around the first equals sign. -/
def splitPair? (text : String) : Option (String × String) :=
  let cs := text.toList
  match cs.dropWhile (· != '=') with
  | [] => none
  | _ :: value => some (String.ofList (cs.takeWhile (· != '=')), String.ofList value)

def ValueKind.check (value : String) : ValueKind → Except UsageFault Unit
  | text => .ok ()
  | path => if value.isEmpty then .error .missingValue else .ok ()
  | pair => if (splitPair? value).isSome then .ok () else .error (.badValue value)

/-- An option or an operand. -/
structure Parameter where
  name : String
  letter : Option Char
  kind : ValueKind
  /-- Whether it may be given several times. -/
  repeats : Bool
deriving DecidableEq, Repr

/-- What a command understands. -/
structure Grammar where
  options : List Parameter
  operands : List Parameter
  /-- The commands one of which may follow; no operand is then understood. -/
  commands : List String

namespace Grammar

def named? (g : Grammar) (name : String) : Option Parameter :=
  g.options.find? fun p => p.name == name

def lettered? (g : Grammar) (letter : Char) : Option Parameter :=
  g.options.find? fun p => p.letter == some letter

end Grammar

/-- What is known in the middle of arguments. -/
structure Progress where
  /-- Parameters with their values, in the order in which the values were looked at. -/
  given : List (String × String)
  /-- The parameter whose value has not been looked at, and its value if there is one. -/
  pending : Option (Parameter × Option String)
  /-- The operands still to come. -/
  operands : List Parameter
  /-- Whether only operands may follow. -/
  operandsOnly : Bool

namespace Progress

/-- Before the arguments of a command. -/
def start (g : Grammar) : Progress := ⟨[], none, g.operands, false⟩

def values (s : Progress) (name : String) : List String :=
  (s.given.filter fun v => v.1 == name).map (·.2)

def value? (s : Progress) (name : String) : Option String := (s.values name).head?

def give (s : Progress) (p : Parameter) (value : String) : Except UsageFault Progress := do
  if !p.repeats && (s.value? p.name).isSome then throw .repeatedOption
  p.kind.check value
  pure { s with given := s.given ++ [(p.name, value)] }

/-- Looks at the value that has not been looked at. -/
def settle (s : Progress) : Except UsageFault Progress :=
  match s.pending with
  | none => .ok s
  | some (_, none) => .error .missingValue
  | some (p, some value) => { s with pending := none }.give p value

/-- Begins an option, the value of which may be attached to it. -/
def option (s : Progress) (p : Parameter) (attached : Option String) :
    Except UsageFault Progress := do
  let s ← s.settle
  match attached with
  | some value => s.give p value
  | none => pure { s with pending := some (p, none) }

/-- Takes an option by name, with the text behind an equals sign if there is one. -/
def longOption (g : Grammar) (s : Progress) (name : List Char) (attached : Option (List Char)) :
    Except UsageFault Progress :=
  let name := String.ofList name
  if name = "help" then
    match attached with
    | some _ => .error .needlessValue
    | none => do
      let _ ← s.settle
      throw .helpWanted
  else
    match g.named? name with
    | some p => s.option p (attached.map String.ofList)
    | none => .error .unknownArgument

/-- Takes an option by its letter, with the text behind the letter. An equals sign before a value is
no part of it. -/
def shortOption (g : Grammar) (s : Progress) (letter : Char) (behind : List Char) :
    Except UsageFault Progress :=
  if letter = 'h' then do
    let _ ← s.settle
    throw .helpWanted
  else
    match g.lettered? letter with
    | some p => s.option p <|
      match behind with
      | [] => none
      | '=' :: value => some (String.ofList value)
      | value => some (String.ofList value)
    | none => .error .unknownArgument

def operand (g : Grammar) (s : Progress) (word : String) : Except UsageFault Progress :=
  match s.operands with
  | p :: ps => do
    let s ← s.settle
    pure { s with pending := some (p, some word), operands := ps }
  | [] =>
    .error <|
      if g.commands.isEmpty || (s.operandsOnly && g.commands.contains word) then .unknownArgument
      else .unknownCommand

/-- Takes a word that is no option: the value that an option waits for, or an operand. -/
def word (g : Grammar) (s : Progress) (w : String) : Except UsageFault Progress :=
  match s.pending with
  | some (p, none) =>
    if s.operandsOnly then s.operand g w else .ok { s with pending := some (p, some w) }
  | _ => s.operand g w

/-- Whether an option waits for its value. -/
def isWaiting (s : Progress) : Bool :=
  match s.pending with
  | some (_, none) => true
  | _ => false

/-- Takes an argument. A single dash is a word, two dashes end the options. -/
def argument (g : Grammar) (s : Progress) (arg : String) : Except UsageFault Progress :=
  if s.operandsOnly then s.word g arg
  else
    match arg.toList with
    | ['-', '-'] => .ok { s with operandsOnly := true }
    | '-' :: '-' :: cs =>
      s.longOption g (cs.takeWhile (· != '=')) <|
        match cs.dropWhile (· != '=') with
        | [] => none
        | _ :: value => some value
    | '-' :: letter :: behind => s.shortOption g letter behind
    | _ => s.word g arg

end Progress

/-- Reads arguments up to the name of a command, which is returned with what follows it. -/
def readArguments (g : Grammar) (s : Progress) :
    List String → Except UsageFault (Progress × Option (String × List String))
  | [] => .ok (s, none)
  | arg :: args =>
    if !s.operandsOnly && !s.isWaiting && g.commands.contains arg then .ok (s, some (arg, args))
    else do readArguments g (← s.argument g arg) args

end PathRouter.CommandLine
