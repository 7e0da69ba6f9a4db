/-
  A small tree of files, made by adding one name after the other and looked up as a file system
  does it: every part of a name before the last must lead to a directory. A double dot leads to
  the directory above, also above the tree's own root, where only what was added is known.
-/
import Chip8.Fault
import Chip8.Rom.PathName

namespace Chip8

/-- What stands at a place. -/
inductive FileNode where
  | file (data : List Byte)
  /-- A file that cannot be read, and what the system tells of it. -/
  | locked (told : Text)
  | directory
deriving DecidableEq, Repr

/-- A way to find out what names lead to. -/
abbrev FileLookup := PathName → Except FileFault FileNode

/-- The bytes of the file that a name leads to. -/
def FileLookup.read (look : FileLookup) (p : PathName) : Except FileFault (List Byte) := do
  match ← look p with
  | .file data => return data
  | .locked told => throw (.refused told)
  | .directory => throw .isDirectory

structure FileTree where
  /-- What was added, with its place. -/
  entries : List (PathName × FileNode) := []
deriving DecidableEq, Repr, Inhabited

namespace FileTree

/-- What stands at a place. The root and the directories above it are always there. -/
def node? (t : FileTree) (place : PathName) : Option FileNode :=
  if place.isAbove then some .directory
  else (t.entries.find? (·.1 == place)).map (·.2)

/-- The tree with a node at a place, whatever stood there before. -/
def put (t : FileTree) (place : PathName) (node : FileNode) : FileTree :=
  ⟨(place, node) :: t.entries.filter (·.1 != place)⟩

/-- The longest part of a name, in bytes. -/
def partLimit : Nat := 255

/-- The longest name, in bytes. -/
def nameLimit : Nat := 4095

/-- One part further from a place. -/
def follow (t : FileTree) (place : PathName) (part : Text) : Except FileFault PathName :=
  match t.node? place with
  | none => .error .missing
  | some .directory =>
    if part == PathName.up then .ok place.above
    else if partLimit < part.encodedSize then .error .nameTooLong
    else
      let next := place.below part.joinBytes
      if (t.node? next).isSome then .ok next else .error .missing
  | some _ => .error .notDirectory

/-- What a name leads to. -/
def resolve (t : FileTree) : FileLookup := fun p =>
  if nameLimit < p.text.encodedSize then .error .nameTooLong
  else do
    let place ← p.parts.foldlM t.follow p.start
    (t.node? place).elim (.error .missing) .ok

/-- The tree with a directory one part further from a place, made if it is missing, and its
place. Nothing comes of it where a file is in the way. -/
def makeDirectory (t : FileTree) (place : PathName) (part : Text) :
    Option (FileTree × PathName) :=
  if part == PathName.up then some (t, place.above)
  else
    let next := place.below part.joinBytes
    match t.node? next with
    | none => some (t.put next .directory, next)
    | some .directory => some (t, next)
    | some _ => none

/-- The tree with the directories of several parts, one below the other. -/
def makeDirectories (t : FileTree) (place : PathName) (parts : List Text) :
    Option (FileTree × PathName) :=
  parts.foldlM (fun (t, place) part => t.makeDirectory place part) (t, place)

/-- The tree with a file one part further from a place, in the stead of any file there. -/
def makeFile? (t : FileTree) (place : PathName) (part : Text) (file : FileNode) :
    Option FileTree :=
  let next := place.below part.joinBytes
  if part == PathName.up || t.node? next == some .directory then none
  else some (t.put next file)

/-- The tree with a file, or with a directory, and every directory on the way to it. -/
def add? (t : FileTree) (p : PathName) : FileNode → Option FileTree
  | .directory => (t.makeDirectories p.start p.parts).map (·.1)
  | file => do
    let (t, place) ← t.makeDirectories p.start p.parts.dropLast
    t.makeFile? place (← p.parts.getLast?) file

/-- The tree with what a name is to lead to; as it was where that cannot be. -/
def add (t : FileTree) (p : PathName) (node : FileNode) : FileTree := (t.add? p node).getD t

theorem node?_put_self (t : FileTree) {place : PathName} (node : FileNode)
    (h : place.isAbove = false) : (t.put place node).node? place = some node := by
  simp [node?, put, h]

theorem node?_put_of_ne (t : FileTree) {place other : PathName} (node : FileNode)
    (h : other ≠ place) : (t.put place node).node? other = t.node? other := by
  unfold node? put
  split
  · rfl
  · congr 1
    rw [List.find?_cons_of_neg (by simpa using Ne.symm h), List.find?_filter]
    congr 1
    funext e
    by_cases he : e.1 = other <;> simp [he, h]

end FileTree

end Chip8
