import Dialogue.Conversation

/-!
# Files

What the library needs to know of a file system: what stands at a path. A tree of files answers
that for every path relative to its root.

## Main definitions

* `FileSystem`: what stands at each path
* `FileTree.lookup`: what stands at a path of a tree
* `Conversation.ofFile`: the conversation of a file
-/

namespace Dialogue

/-- Why nothing can be opened at a path. -/
inductive OpenError where
  | notFound
  | notDirectory
  | nameTooLong
  /-- Any other reason, with a text of its own. -/
  | other (message : String)
  deriving DecidableEq, Repr

/-- The text of the error. -/
def OpenError.message : OpenError → String
  | .notFound => "No such file or directory (os error 2)"
  | .notDirectory => "Not a directory (os error 20)"
  | .nameTooLong => "File name too long (os error 36)"
  | .other message => message

/-- What stands at a path. -/
inductive Entry where
  | file (bytes : List UInt8)
  | directory
  | absent (error : OpenError)
  deriving DecidableEq, Repr

/-- What stands at each path. -/
abbrev FileSystem := String → Entry

/-- The text of a failed read of a directory. -/
def directoryMessage : String := "Is a directory (os error 21)"

/-- Opens what stands at a path for reading. A directory opens, but its first read fails. -/
def Entry.deliveries : Entry → Except OpenError (List Delivery)
  | .file bytes => .ok (deliver bytes)
  | .directory => .ok [.failure directoryMessage]
  | .absent error => .error error

/-- Files by the names that lead to them from the root. Directories are what the names need. -/
structure FileTree where
  files : List (List String × List UInt8) := []

namespace FileTree

/-- The parts of a path between its slashes. -/
def parts (path : String) : List String :=
  path.splitOn "/"

/-- The names that a path consists of; empty parts and single dots name nothing. -/
def names (path : String) : List String :=
  (parts path).filter fun part => part != "" && part != "."

/-- A tree of the given files; `/` in a path makes directories. -/
def ofPaths (files : List (String × List UInt8)) : FileTree :=
  ⟨files.map fun file => (names file.1, file.2)⟩

/-- What stands at the end of a list of names. -/
def entry (tree : FileTree) (place : List String) : Entry :=
  match tree.files.lookup place with
  | some bytes => .file bytes
  | none =>
    if place.isEmpty || tree.files.any (fun file => place.isPrefixOf file.1) then .directory
    else .absent .notFound

/-- The bytes that a name in a directory has at most. -/
def maxName : Nat := 255

/-- The bytes that a path has at most. -/
def maxPath : Nat := 4095

/-- A place on the way along a path: somewhere outside of the tree, or names below its root. -/
inductive Place where
  | outside
  | below (names : List String)

/-- What stands at a place. Outside of the tree are only directories, each in another. -/
def entryAt (tree : FileTree) : Place → Entry
  | .outside => .directory
  | .below names => tree.entry names

/-- The place one part of a path further on. No name leads on from outside of the tree. -/
def Place.step (place : Place) (part : String) : Except OpenError Place :=
  if part = "" || part = "." then .ok place
  else if part = ".." then
    match place with
    | .outside => .ok .outside
    | .below [] => .ok .outside
    | .below names => .ok (.below names.dropLast)
  else if maxName < part.utf8ByteSize then .error .nameTooLong
  else
    match place with
    | .outside => .error .notFound
    | .below names => .ok (.below (names ++ [part]))

/-- Follows the parts of a path. Whatever is gone through must be a directory. -/
def walk (tree : FileTree) (place : Place) : List String → Entry
  | [] => tree.entryAt place
  | part :: rest =>
    match tree.entryAt place with
    | .directory =>
      match place.step part with
      | .ok next => tree.walk next rest
      | .error error => .absent error
    | .file _ => .absent .notDirectory
    | .absent error => .absent error

/-- Where a path starts: at the root of the tree, unless a slash leads out of it. -/
def Place.start (path : String) : Place :=
  if path.toList.head? = some '/' then .outside else .below []

/-- What stands at a path. The empty path leads nowhere, and a path holds no NUL. -/
def lookup (tree : FileTree) : FileSystem := fun path =>
  if '\x00' ∈ path.toList then .absent (.other "file name contained an unexpected NUL byte")
  else if path = "" then .absent .notFound
  else if maxPath < path.utf8ByteSize then .absent .nameTooLong
  else tree.walk (.start path) (parts path)

end FileTree

/-- Why a file gives no conversation. -/
inductive LoadError where
  | unopened (error : OpenError)
  | invalid (error : ParseError)
  deriving DecidableEq, Repr

/-- The text of the error. -/
def LoadError.message : LoadError → String
  | .unopened error => s!"IO error: {error.message}"
  | .invalid error => s!"Parse error: {error.message}"

/-- The conversation of a file. -/
def Conversation.ofFile (files : FileSystem) (path : String) :
    Except LoadError (Conversation Transcript) :=
  match (files path).deliveries with
  | .error error => .error (.unopened error)
  | .ok deliveries =>
    match Conversation.ofDeliveries deliveries with
    | .ok conversation => .ok conversation
    | .error error => .error (.invalid error)

end Dialogue
