import PathRouter.Unicode.Category
import PathRouter.Unicode.Script
import PathRouter.Unicode.ScriptExtension
import PathRouter.Unicode.Age
import PathRouter.Unicode.Binary
import PathRouter.Unicode.GraphemeBreak
import PathRouter.Unicode.WordBreak
import PathRouter.Unicode.SentenceBreak

/-!
# Character properties by name

A set of characters is named by a binary property, a category or a script alone, or by a property
and one of its values. Names are compared loosely: case, blanks, hyphens, low lines and an `is` in
front make no difference.
-/

namespace PathRouter.Unicode

/-- Small letters, without blanks, hyphens, low lines and characters outside ASCII. -/
def looseLetters (cs : List Char) : List Char :=
  (cs.filter fun c => c.toNat < 0x80 && c != ' ' && c != '-' && c != '_').map Char.toLower

/-- The loose form of a name. An `is` in front does not count, unless only a `c` is left. -/
def looseName (name : List Char) : String :=
  match name with
  | i :: s :: rest =>
    if i.toLower = 'i' ∧ s.toLower = 's' then
      match looseLetters rest with
      | ['c'] => "isc"
      | letters => String.ofList letters
    else String.ofList (looseLetters name)
  | name => String.ofList (looseLetters name)

/-- The characters named by one word. -/
def propertyNamed? (name : List Char) : Option CharSet :=
  let name := looseName name
  binaryProperties.find? name <|> category? name <|> scripts.find? name

/-- The characters that have a value of a property. -/
def propertyValue? (property value : List Char) : Option CharSet :=
  let value := looseName value
  match looseName property with
  | "gc" | "generalcategory" => category? value
  | "sc" | "script" => scripts.find? value
  | "scx" | "scriptextensions" => scriptExtensions.find? value
  | "age" => age? value
  | "gcb" | "graphemeclusterbreak" => graphemeBreaks.find? value
  | "wb" | "wordbreak" => wordBreaks.find? value
  | "sb" | "sentencebreak" => sentenceBreaks.find? value
  | _ => none

def ofCategories (names : List String) : CharSet :=
  (names.filterMap category?).foldl .union .empty

def decimalDigits : CharSet := ofCategories ["nd"]

def whiteSpace : CharSet := (binaryProperties.find? "whitespace").getD .empty

def alphabetic : CharSet := (binaryProperties.find? "alphabetic").getD .empty

/-- The alphabetic and the numeric characters. -/
def alphanumeric : CharSet := alphabetic.union (ofCategories ["n"])

/-- The characters of words: letters, marks, decimal digits, connectors and joiners. -/
def wordChars : CharSet :=
  (alphabetic.union (ofCategories ["m", "nd", "pc"])).union
    ((binaryProperties.find? "joincontrol").getD .empty)

end PathRouter.Unicode
