import PathRouter.Unicode.CharSet
import PathRouter.Text.Digit

/-!
# Property tables

The values of a character property with the characters that have them. The characters are written as
hexadecimal code points and ranges of code points, with blanks between them. A value may have
several names, given in loose form: small letters, without blanks, hyphens and low lines.
-/

namespace PathRouter.Unicode

/-- The range of one code point or of two. -/
def rangeOf (low? number? : Option Nat) : List (Nat × Nat) :=
  number?.toList.map fun n => (low?.getD n, n)

/-- The ranges written in a table, from the middle of one: `low?` is its beginning, if that is read
completely, and `number?` is what has been read of a code point. -/
def readRanges (low? number? : Option Nat) : List Char → List (Nat × Nat)
  | [] => rangeOf low? number?
  | '-' :: rest => readRanges number? none rest
  | c :: rest =>
    match Text.hexDigit? c with
    | some d => readRanges low? (some (number?.getD 0 * 16 + d)) rest
    | none => rangeOf low? number? ++ readRanges none none rest

/-- One value of a property. -/
structure Entry where
  names : List String
  /-- The characters with the value. -/
  text : String

def Entry.set (e : Entry) : CharSet :=
  .ofRanges (readRanges none none e.text.toList)

/-- The values of a property. -/
abbrev Table := List Entry

/-- The characters whose value has a name in loose form. -/
def Table.find? (t : Table) (name : String) : Option CharSet :=
  (List.find? (fun e => e.names.contains name) t).map Entry.set

end PathRouter.Unicode
