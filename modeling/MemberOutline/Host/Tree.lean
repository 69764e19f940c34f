import MemberOutline.Host.Basic
import MemberOutline.Text.Words

/-!
# A host made of a tree of files

The working directory with the files below it, and standard input. Names are resolved part by part:
an empty part and a dot stay in a directory, two dots leave it. Of what lies above the working
directory only the directories on the way up are there.
-/

namespace MemberOutline

/-- Files below a working directory. -/
structure FileTree where
  /-- The name of the working directory. -/
  directory : String
  /-- The files, with the parts of their names; no content means bytes that are no text. -/
  files : List (List Text × Option Text)
  /-- The directories, with the parts of their names; those of files need not be named. -/
  directories : List (List Text)
  /-- What is on standard input; nothing means bytes that are no text. -/
  input : Option Text

namespace FileTree

/-- The parts of a name that count: neither empty nor a dot. -/
def parts (name : Text) : List Text :=
  (Text.splitOn '/' name).filter fun part => part ≠ [] && part ≠ ['.']

/-- Where the resolution of a name stands. -/
inductive Place where
  /-- At this file or directory below the working directory. -/
  | below (path : List Text)
  /-- At a directory above it. -/
  | above
  deriving DecidableEq, Repr

/-- The file with these parts, if there is one. -/
def file? (tree : FileTree) (path : List Text) : Option (Option Text) := tree.files.lookup path

/-- Whether these parts name a directory. -/
def isDirectory (tree : FileTree) (path : List Text) : Bool :=
  path = [] || tree.directories.any path.isPrefixOf ||
    tree.files.any fun f => path.isPrefixOf f.1 && path.length < f.1.length

/-- Whether a place is a directory. -/
def isDirectoryAt (tree : FileTree) : Place → Bool
  | .below path => tree.isDirectory path
  | .above => true

/-- The longest name that a directory may have an entry by, in bytes. -/
def longestPart : Nat := 255

/-- The length, in bytes, from which a whole name is too long. -/
def tooLong : Nat := 4096

/-- The size of a text in bytes. -/
def byteSize (t : Text) : Nat := (String.ofList t).utf8ByteSize

/-- The place that one more part of a name leads to. -/
def walk (tree : FileTree) (place : Place) (part : Text) : Except Fault Place :=
  if !tree.isDirectoryAt place then .error .notDirectory
  else if part = [] ∨ part = ['.'] then .ok place
  else if part = ['.', '.'] then
    match place with
    | .below (p :: more) => .ok (.below (p :: more).dropLast)
    | _ => .ok .above
  else if byteSize part > longestPart then .error .nameTooLong
  else
    match place with
    | .above => .error .notFound
    | .below path =>
      let path := path ++ [part]
      if (tree.file? path).isSome || tree.isDirectory path then .ok (.below path)
      else .error .notFound

/-- The place where the resolution of a name starts, and the name from there. -/
def start (tree : FileTree) (name : Text) : Place × Text :=
  let relative := if name.head? = some '/' then (.above, name) else (.below [], name)
  match Text.after? tree.directory.toList name with
  | some rest => if rest = [] ∨ rest.head? = some '/' then (.below [], rest) else relative
  | none => relative

/-- The place that a name leads to. -/
def resolve (tree : FileTree) (name : Text) : Except Fault Place :=
  if name.contains '\x00' then .error .nullInName
  else if name = [] then .error .notFound
  else if byteSize name ≥ tooLong then .error .nameTooLong
  else
    let (place, rest) := tree.start name
    (Text.splitOn '/' rest).foldlM tree.walk place

/-- The text of the file with a name. -/
def read (tree : FileTree) (name : Text) : Except Fault Text := do
  match ← tree.resolve name with
  | .above => .error .isDirectory
  | .below path =>
    match tree.file? path with
    | some (some content) => .ok content
    | some none => .error .notText
    | none => .error .isDirectory

/-- Whether a name leads to a file, readable or not. -/
def isFile (tree : FileTree) (name : Text) : Bool :=
  match tree.resolve name with
  | .ok (.below path) => (tree.file? path).isSome
  | _ => false

/-- The host that answers from a tree. -/
def host (tree : FileTree) : Host Id where
  pathExists name := (tree.resolve name.toList).isOk
  isFile name := tree.isFile name.toList
  readFile name := tree.read name.toList
  readInput :=
    match tree.input with
    | some content => .ok content
    | none => .error .notText
  workingDirectory := .ok tree.directory

end FileTree

end MemberOutline
