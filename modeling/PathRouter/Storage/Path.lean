/-!
# Paths of files

A path names a file by components with slashes between them. The name of a file may end in an
extension, which says how the file is written.
-/

namespace PathRouter.Storage

def components : List Char → List (List Char)
  | [] => [[]]
  | '/' :: cs => [] :: components cs
  | c :: cs =>
    match components cs with
    | [] => [[c]]
    | first :: rest => (c :: first) :: rest

/-- The name of the file that a path leads to. -/
def fileName (path : String) : List Char := (components path.toList).getLastD []

/-- The extension of a name: what follows its last dot, unless the name begins with that dot. -/
def extension? (name : List Char) : Option (List Char) :=
  let before := (name.reverse.dropWhile (· != '.')).drop 1
  if before.isEmpty then none else some (name.reverse.takeWhile (· != '.')).reverse

/-- Whether the name of a file ends in an extension, which is given in small letters. -/
def hasExtension (path extension : String) : Bool :=
  (extension? (fileName path)).map (·.map Char.toLower) == some extension.toList

/-- Why a file cannot be read as text. -/
inductive ReadFault where
  | notFound
  /-- The path leads to a directory. -/
  | isDirectory
  /-- The path goes on behind a file. -/
  | notDirectory
  /-- The file is no UTF-8 text. -/
  | invalidText
deriving DecidableEq, Repr

/-- What is said about a file that cannot be read. -/
def ReadFault.message : ReadFault → String
  | notFound => "No such file or directory (os error 2)"
  | isDirectory => "Is a directory (os error 21)"
  | notDirectory => "Not a directory (os error 20)"
  | invalidText => "stream did not contain valid UTF-8"

/-- The contents of files by path. -/
abbrev Files := String → Except ReadFault (List UInt8)

end PathRouter.Storage
