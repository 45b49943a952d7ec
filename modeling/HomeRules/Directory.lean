import HomeRules.Dictionary
import HomeRules.Path

/-! # Directories

Files and directories under their places, with the time each was last modified. A
place is the list of names that leads there from the working directory, or from
the root where its first name is that of the root. -/

set_option autoImplicit false

namespace HomeRules

inductive Contents where
  | file (bytes : ByteArray)
  | directory
  deriving Inhabited

/-- What a path holds and when it was last modified. -/
structure FileEntry where
  contents : Contents
  modified : Nat
  deriving Inhabited

/-! ## Places -/

/-- The names that lead to a file or a directory. -/
abbrev Place := List String

namespace Place

/-- Where a component leads from a place. Out of the root it leads nowhere else. -/
def step (place : Place) (name : String) : Place :=
  if name = Path.parent then
    match place.getLast? with
    | none => [Path.parent]
    | some last =>
      if last = Path.parent then place ++ [Path.parent]
      else if last = Path.root then place
      else place.dropLast
  else place ++ [name]

/-- The names that lead from the first place to the second, if it lies there. -/
def below? : Place → Place → Option Place
  | [], rest => some rest
  | _ :: _, [] => none
  | a :: above, b :: rest => if a = b then below? above rest else none

end Place

/-! ## Trees -/

structure FileTree where
  entries : List (Place × FileEntry) := []
  deriving Inhabited

namespace FileTree

def at? (tree : FileTree) (place : Place) : Option FileEntry :=
  (tree.entries.find? (·.1 = place)).map (·.2)

/-- Whether a directory stands at a place. The working directory and the root are
always there. -/
def isDirectoryAt (tree : FileTree) (place : Place) : Bool :=
  place.isEmpty || place = [Path.root] ||
    match tree.at? place with
    | some ⟨.directory, _⟩ => true
    | _ => false

/-- The place that components lead to. Only a directory can be left. -/
def follow (tree : FileTree) (place : Place) : List String → Option Place
  | [] => some place
  | name :: rest =>
    if name = Path.parent && !tree.isDirectoryAt place then none
    else tree.follow (place.step name) rest

/-- The place that a path leads to. -/
def place? (tree : FileTree) (path : String) : Option Place :=
  tree.follow [] (Path.components path)

def get? (tree : FileTree) (path : String) : Option FileEntry :=
  (tree.place? path).bind tree.at?

/-- Whether a path leads to a directory. The empty path leads nowhere. -/
def isDirectory (tree : FileTree) (path : String) : Bool :=
  !path.isEmpty && (tree.place? path).any tree.isDirectoryAt

/-- Puts an entry at a place, where it replaces the one that was there. -/
def putAt (tree : FileTree) (place : Place) (entry : FileEntry) : FileTree :=
  ⟨tree.entries.filter (·.1 ≠ place) ++ [(place, entry)]⟩

/-- Puts a directory at a place where there is nothing. -/
def grow (tree : FileTree) (place : Place) : FileTree :=
  if place.isEmpty || place = [Path.root] || (tree.at? place).isSome then tree
  else tree.putAt place ⟨.directory, 0⟩

/-- The place that components lead to, in a tree with all directories on the way. -/
def reach (tree : FileTree) (place : Place) : List String → FileTree × Place
  | [] => (tree, place)
  | name :: rest => (tree.grow place).reach (place.step name) rest

/-- Puts an entry at a path, with the directories that lead there. -/
def put (tree : FileTree) (path : String) (entry : FileEntry) : FileTree :=
  let (tree, place) := tree.reach [] (Path.components path)
  tree.putAt place entry

/-- Removes a place and all below it. -/
def removeAt (tree : FileTree) (place : Place) : FileTree :=
  ⟨tree.entries.filter fun (other, _) => (place.below? other).isNone⟩

/-- Removes what a path leads to and all below it. -/
def remove (tree : FileTree) (path : String) : FileTree :=
  match tree.place? path with
  | some place => tree.removeAt place
  | none => tree

/-- The names in a directory with their entries, in order. A directory that is
missing is empty. -/
def listing (tree : FileTree) (path : String) : Dictionary FileEntry :=
  match tree.place? path with
  | some place =>
    if tree.isDirectory path then
      Dictionary.ofList (tree.entries.filterMap fun (other, entry) =>
        match place.below? other with
        | some [name] => some (name, entry)
        | _ => none)
    else []
  | none => []

/-! ## Moving -/

/-- Whether an entry may take a place: a file that of a file, and a directory that of
a directory with nothing in it. -/
def admits (tree : FileTree) (entry : FileEntry) (place : Place) : Bool :=
  tree.isDirectoryAt place.dropLast &&
    match tree.at? place, entry.contents with
    | none, _ => true
    | some ⟨.file _, _⟩, .file _ => true
    | some ⟨.directory, _⟩, .directory =>
      tree.entries.all fun (other, _) => other = place || (place.below? other).isNone
    | _, _ => false

/-- Moves what is at a place, with all below it, to another place. -/
def moveAt (tree : FileTree) (source target : Place) : FileTree :=
  ⟨(tree.removeAt target).entries.map fun (place, entry) =>
    match source.below? place with
    | some rest => (target ++ rest, entry)
    | none => (place, entry)⟩

/-- Moves what a path leads to, with all below it, to another path. What cannot be
moved stays. -/
def rename (tree : FileTree) (source target : String) : FileTree :=
  match tree.place? source, tree.place? target with
  | some source, some target =>
    match tree.at? source with
    | some entry =>
      if (source.below? target).isNone && tree.admits entry target then tree.moveAt source target
      else tree
    | none => tree
  | _, _ => tree

end FileTree

/-! ## Reading -/

inductive FileError where
  | notText
  | isDirectory
  | missing
  deriving DecidableEq, Repr

/-- The wording of a file that cannot be read. -/
def FileError.message : FileError → String
  | .notText => "stream did not contain valid UTF-8"
  | .isDirectory => "Is a directory (os error 21)"
  | .missing => "No such file or directory (os error 2)"

def Contents.text : Contents → Except FileError String
  | .file bytes =>
    match String.fromUTF8? bytes with
    | some text => .ok text
    | none => .error .notText
  | .directory => .error .isDirectory

def FileTree.read (tree : FileTree) (path : String) : Except FileError String :=
  match tree.get? path with
  | some entry => entry.contents.text
  | none => .error (if tree.isDirectory path then .isDirectory else .missing)

end HomeRules
