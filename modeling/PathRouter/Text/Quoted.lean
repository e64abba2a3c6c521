import PathRouter.Unicode.Property

/-!
# Quoted text

A text between quotation marks with everything escaped that could not be seen: quotation marks and
backslashes, control characters, characters that cannot be printed, and marks that would join the
character before them.
-/

namespace PathRouter.Text.Quoted

open Unicode (CharSet)

/-- The characters that cannot be printed: all that are not assigned to a visible shape, and all
separators. The blank counts as visible. -/
def unprintable : CharSet := (Unicode.ofCategories ["c", "z"]).difference (.singleton ' ')

/-- The marks that join the character before them. -/
def joining : CharSet := (Unicode.binaryProperties.find? "graphemeextend").getD .empty

/-- Whether a character is shown as it is. -/
def isPlain (c : Char) : Bool :=
  if c.toNat < 0x7F then 0x20 ≤ c.toNat else !joining.contains c && !unprintable.contains c

def hexDigits (n : Nat) : List Char := Nat.toDigits 16 n

/-- A character as it stands between quotation marks. -/
def encodeChar (c : Char) : List Char :=
  if c = '\x00' then ['\\', '0']
  else if c = '\t' then ['\\', 't']
  else if c = '\r' then ['\\', 'r']
  else if c = '\n' then ['\\', 'n']
  else if c = '"' then ['\\', '"']
  else if c = '\\' then ['\\', '\\']
  else if isPlain c then [c]
  else ['\\', 'u', '\x7b'] ++ hexDigits c.toNat ++ ['\x7d']

/-- A text between quotation marks. -/
def encode (s : String) : String :=
  String.ofList ('"' :: s.toList.flatMap encodeChar ++ ['"'])

end PathRouter.Text.Quoted
