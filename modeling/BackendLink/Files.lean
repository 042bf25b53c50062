import BackendLink.IoError
import BackendLink.OsText

/-!
# Files

What the program can see of a file system: what a name opens. Opening a directory succeeds, and only
reading it fails.

* `FileTree.opening` follows a name through a tree of files, part by part, as a system does that has
  the tree as its working directory and nothing else.
-/

namespace BackendLink

inductive Opened
  | file (content : List UInt8)
  | directory
  deriving DecidableEq, Repr

abbrev FileSystem := OsText → Except IoError Opened

namespace Opened

def content : Opened → Except IoError (List UInt8)
  | file content => .ok content
  | directory => .error (.system 21)

/-- The content as text. -/
def text (opened : Opened) : Except IoError String := do
  match Utf8.text? (← opened.content) with
  | some text => .ok text
  | none => .error (.custom .invalidData "stream did not contain valid UTF-8")

end Opened

/-- The files below a directory. Each is named by the parts of its path. -/
structure FileTree where
  files : List (List (List UInt8) × List UInt8)

namespace FileTree

def slash : UInt8 := 0x2F

/-- The parts of a path. -/
def parts : List UInt8 → List (List UInt8)
  | [] => [[]]
  | b :: rest =>
    if b = slash then [] :: parts rest
    else
      match parts rest with
      | [] => [[b]]
      | part :: others => (b :: part) :: others

def ofFiles (files : List (OsText × List UInt8)) : FileTree :=
  ⟨files.map fun (name, content) => (parts name.bytes, content)⟩

def file? (tree : FileTree) (name : List (List UInt8)) : Option (List UInt8) :=
  tree.files.lookup name

/-- Some file lies below the name. -/
def hasDirectory (tree : FileTree) (name : List (List UInt8)) : Bool :=
  tree.files.any fun entry => name.isPrefixOf entry.1

/-- Where a walk has come to: a directory of the tree, or one around it. -/
inductive Place
  | inside (name : List (List UInt8))
  | outside

def Place.parent : Place → Place
  | inside [] | outside => outside
  | inside name => inside name.dropLast

/-- The longest part of a path that a system takes. -/
def partLimit : Nat := 255

/-- The longest path that a system takes. -/
def pathLimit : Nat := 4095

/-- Follows the parts of a path. Behind a file nothing can follow, not even an empty part. -/
def walk (tree : FileTree) : Place → List (List UInt8) → Except IoError Opened
  | _, [] => .ok .directory
  | place, part :: rest =>
    if part = [] ∨ part = [0x2E] then tree.walk place rest
    else if part = [0x2E, 0x2E] then tree.walk place.parent rest
    else if partLimit < part.length then .error (.system 36)
    else
      match place with
      | .outside => .error (.system 2)
      | .inside name =>
        let name := name ++ [part]
        match tree.file? name with
        | some content => if rest.isEmpty then .ok (.file content) else .error (.system 20)
        | none => if tree.hasDirectory name then tree.walk (.inside name) rest else .error (.system 2)

def opening (tree : FileTree) : FileSystem := fun path =>
  let bytes := path.bytes
  if 0 ∈ bytes then .error (.custom .invalidInput "file name contained an unexpected NUL byte")
  else if bytes.isEmpty then .error (.system 2)
  else if pathLimit < bytes.length then .error (.system 36)
  else tree.walk (if bytes.head? = some slash then .outside else .inside []) (parts bytes)

end FileTree
end BackendLink
