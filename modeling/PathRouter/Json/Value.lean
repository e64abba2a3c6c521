import PathRouter.Dictionary

/-!
# Writing JSON texts

Values are written over several lines, every item and every member on a line of its own, two blanks
further in than what it belongs to; or else on a single line, without any blanks between their
parts.
-/

namespace PathRouter.Json

/-- A value to be written. -/
inductive Value where
  | null
  | number (n : Nat)
  | string (s : String)
  | array (items : List Value)
  | object (members : List (String × Value))

/-- The hexadecimal digit of a value. -/
def hexDigit (n : Nat) : Char := Char.ofNat (if n < 10 then 0x30 + n else 0x57 + n)

/-- A character as it stands in a string. -/
def encodeChar (c : Char) : List Char :=
  if c = '"' then ['\\', '"']
  else if c = '\\' then ['\\', '\\']
  else if c = '\x08' then ['\\', 'b']
  else if c = '\x0C' then ['\\', 'f']
  else if c = '\n' then ['\\', 'n']
  else if c = '\r' then ['\\', 'r']
  else if c = '\t' then ['\\', 't']
  else if c.toNat < 0x20 then
    ['\\', 'u', '0', '0', hexDigit (c.toNat / 16), hexDigit (c.toNat % 16)]
  else [c]

/-- A string with its quotation marks. -/
def encodeString (s : String) : List Char := '"' :: s.toList.flatMap encodeChar ++ ['"']

/-- The beginning of a line. -/
def indent (depth : Nat) : List Char := '\n' :: List.replicate (2 * depth) ' '

mutual

/-- The text of a value at a depth. -/
def Value.chars (depth : Nat) : Value → List Char
  | .null => "null".toList
  | .number n => (Nat.repr n).toList
  | .string s => encodeString s
  | .array [] => ['[', ']']
  | .array (item :: items) =>
    '[' :: indent (depth + 1) ++ item.chars (depth + 1) ++ itemChars depth items ++
      indent depth ++ [']']
  | .object [] => ['\x7b', '\x7d']
  | .object ((key, value) :: members) =>
    '\x7b' :: indent (depth + 1) ++ encodeString key ++ [':', ' '] ++ value.chars (depth + 1) ++
      memberChars depth members ++ indent depth ++ ['\x7d']

/-- The text of the items behind the first one. -/
def Value.itemChars (depth : Nat) : List Value → List Char
  | [] => []
  | item :: items => ',' :: indent (depth + 1) ++ item.chars (depth + 1) ++ itemChars depth items

/-- The text of the members behind the first one. -/
def Value.memberChars (depth : Nat) : List (String × Value) → List Char
  | [] => []
  | (key, value) :: members =>
    ',' :: indent (depth + 1) ++ encodeString key ++ [':', ' '] ++ value.chars (depth + 1) ++
      memberChars depth members

end

def Value.text (v : Value) : String := String.ofList (v.chars 0)

mutual

/-- The text of a value on a single line. -/
def Value.lineChars : Value → List Char
  | .null => "null".toList
  | .number n => (Nat.repr n).toList
  | .string s => encodeString s
  | .array [] => ['[', ']']
  | .array (item :: items) => '[' :: item.lineChars ++ lineItemChars items ++ [']']
  | .object [] => ['\x7b', '\x7d']
  | .object ((key, value) :: members) =>
    '\x7b' :: encodeString key ++ ':' :: value.lineChars ++ lineMemberChars members ++ ['\x7d']

/-- The text of the items behind the first one on a single line. -/
def Value.lineItemChars : List Value → List Char
  | [] => []
  | item :: items => ',' :: item.lineChars ++ lineItemChars items

/-- The text of the members behind the first one on a single line. -/
def Value.lineMemberChars : List (String × Value) → List Char
  | [] => []
  | (key, value) :: members =>
    ',' :: encodeString key ++ ':' :: value.lineChars ++ lineMemberChars members

end

/-- The text of a value on a single line. -/
def Value.line (v : Value) : String := String.ofList v.lineChars

end PathRouter.Json
