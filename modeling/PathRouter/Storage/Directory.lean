import PathRouter.Storage.Path

/-!
# Directories

A directory with some files and directories below it, from which paths start.
-/

namespace PathRouter.Storage

/-- The contents of the files in a directory, by the components of their paths. -/
structure Directory where
  files : List (List (List Char) × List UInt8)

namespace Directory

/-- The directory with files at some paths. -/
def ofList (files : List (String × List UInt8)) : Directory :=
  ⟨files.map fun (path, content) => (components path.toList, content)⟩

/-- Whether a place is a directory: a file is below it. -/
def isInner (d : Directory) (place : List (List Char)) : Bool :=
  d.files.any fun f => place.isPrefixOf f.1 && place.length < f.1.length

/-- Follows components from a directory of which the place is known, if it is one inside. Outside
there are directories only on the way up. -/
def follow (d : Directory) : Option (List (List Char)) → List (List Char) →
    Except ReadFault (List UInt8)
  | _, [] => .error .isDirectory
  | here, [] :: rest | here, ['.'] :: rest => follow d here rest
  | some (first :: others), ['.', '.'] :: rest => follow d (some (first :: others).dropLast) rest
  | _, ['.', '.'] :: rest => follow d none rest
  | none, _ :: _ => .error .notFound
  | some here, name :: rest =>
    match d.files.lookup (here ++ [name]) with
    | some content => if rest.isEmpty then .ok content else .error .notDirectory
    | none =>
      if d.isInner (here ++ [name]) then follow d (some (here ++ [name])) rest
      else .error .notFound

/-- The content of the file that a path leads to. -/
def read (d : Directory) : Files := fun path =>
  match path.toList with
  | [] => .error .notFound
  | '/' :: cs => d.follow none (components cs)
  | cs => d.follow (some []) (components cs)

end Directory

end PathRouter.Storage
