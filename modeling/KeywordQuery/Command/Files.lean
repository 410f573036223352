/-!
# Files in memory

A tree of files for running the program apart from a real system.

* `FileTree` — the files, and the directory that paths start from;
* `FileTree.read` — the content of the file at a path, or why there is none;
* `OpenFault` — the reasons, and `OpenFault.message` their wording.
-/

namespace KeywordQuery.Command

/-- Why a file cannot be opened. -/
inductive OpenFault where
  | notFound
  | notDirectory
  | isDirectory
  | nameTooLong
  | notPermitted
  | other (reason : String)
  deriving Repr, DecidableEq

/-- The wording of a reason. -/
def OpenFault.message : OpenFault → String
  | notFound => "No such file or directory"
  | notDirectory => "Not a directory"
  | isDirectory => "Is a directory"
  | nameTooLong => "File name too long"
  | notPermitted => "Permission denied"
  | other reason => reason

/-- The names on the way from the root to a file or directory. -/
abbrev Place := List String

/-- Files with their content, further directories, and the directory that paths start from. -/
structure FileTree where
  home : Place
  directories : List Place := []
  files : List (Place × List UInt8) := []

namespace FileTree

/-- The most bytes that a name may have. -/
def maxName : Nat := 255

/-- The most bytes that a path may have. -/
def maxPath : Nat := 4095

/-- The content of the file at a place. -/
def content? (tree : FileTree) (place : Place) : Option (List UInt8) :=
  (tree.files.find? (·.1 == place)).map (·.2)

/-- Whether there is a directory at a place: what lies on the way to anything is one. -/
def isDirectory (tree : FileTree) (place : Place) : Bool :=
  (tree.home :: tree.directories ++ tree.files.map (·.1.dropLast)).any place.isPrefixOf

/-- The place that a path leads to from a place on. -/
def walk (tree : FileTree) (place : Place) : List String → Except OpenFault Place
  | [] => .ok place
  | name :: names =>
    if (tree.content? place).isSome then .error .notDirectory
    else if !tree.isDirectory place then .error .notFound
    else if name = "" ∨ name = "." then tree.walk place names
    else if name = ".." then tree.walk place.dropLast names
    else if maxName < name.utf8ByteSize then .error .nameTooLong
    else tree.walk (place ++ [name]) names

/-- The content of the file at a path. -/
def read (tree : FileTree) (path : String) : Except OpenFault (List UInt8) :=
  if path.isEmpty then .error .notFound
  else if maxPath < path.utf8ByteSize then .error .nameTooLong
  else do
    let place ← tree.walk (if path.startsWith "/" then [] else tree.home) (path.splitOn "/")
    match tree.content? place with
    | some content => .ok content
    | none => .error (if tree.isDirectory place then .isDirectory else .notFound)

end FileTree

end KeywordQuery.Command
