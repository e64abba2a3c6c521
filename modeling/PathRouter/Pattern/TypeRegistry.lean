import PathRouter.Dictionary

/-!
# Placeholder types

A placeholder has a type tag, and the registry says which expression a tag stands for. A tag that is
not in the registry is an expression itself.
-/

namespace PathRouter.Pattern

/-- The expressions of type tags. -/
structure TypeRegistry where
  types : Dictionary String
deriving DecidableEq

/-- What a type tag stands for. -/
inductive Resolved where
  /-- The expression in the registry. -/
  | registered (fragment : String)
  /-- The tag itself. -/
  | inline (fragment : String)
deriving DecidableEq, Repr

namespace Resolved

def fragment : Resolved → String
  | registered fragment | inline fragment => fragment

/-- Whether the tag stands for itself. -/
def isInline : Resolved → Bool
  | registered _ => false
  | inline _ => true

end Resolved

namespace TypeRegistry

/-- The tags that are always there: digits, letters and digits, hexadecimal digits, a segment, the
rest of a path, and a segment up to a dot. -/
def builtInTypes : List (String × String) :=
  [("i", "[0-9]+"), ("a", "[0-9A-Za-z]+"), ("h", "[0-9A-Fa-f]+"), ("*", "[^/]+"), ("**", ".+"),
    ("", "[^/.]+")]

/-- The registry with the built-in tags only. -/
def builtIn : TypeRegistry := ⟨.ofList builtInTypes⟩

instance : Inhabited TypeRegistry := ⟨builtIn⟩

/-- The expression of a tag in the registry. -/
def get? (r : TypeRegistry) (tag : String) : Option String := r.types.get? tag

/-- What a tag stands for. -/
def resolve (r : TypeRegistry) (tag : String) : Resolved :=
  match r.get? tag with
  | some fragment => .registered fragment
  | none => .inline tag

/-- Adds tags; of several with one name the last counts. -/
def extend (r : TypeRegistry) (types : List (String × String)) : TypeRegistry :=
  ⟨r.types.insertAll types⟩

def size (r : TypeRegistry) : Nat := r.types.size

def isEmpty (r : TypeRegistry) : Bool := r.types.isEmpty

end TypeRegistry

end PathRouter.Pattern
