import NameRouting.Fault
import NameRouting.Text.Pieces

/-!
# Files

The files that the program may read and write: a tree below the root, given by the places of its
files and of its empty directories, and the current directory in it. A path is followed step by
step, from the root if it starts with a slash and else from the current directory, and everything
on the way must be a directory.
-/

namespace NameRouting

/-- What lies at a path: a directory, a file with its bytes, or a file that may not be opened. -/
inductive FileEntry where
  | directory
  | file (bytes : ByteArray)
  | locked
deriving Inhabited

/-- A tree of files by their places, which are the steps to them from the root, with the place of
the current directory. -/
structure FileTree where
  here : List String
  entries : List (List String × FileEntry)
deriving Inhabited

namespace FileTree

/-- The steps of a path, in order. -/
def steps (path : String) : List String :=
  Text.piecesOf '/' path

/-- Where following a path starts, and the steps from there. -/
def origin (here : List String) (path : String) : List String × List String :=
  match steps path with
  | "" :: rest => ([], rest)
  | all => (here, all)

/-- The tree with a current directory and with the given paths, which have no steps that go
nowhere. -/
def ofPaths (here : List String) (paths : List (String × FileEntry)) : FileTree :=
  ⟨here, paths.map fun (path, entry) =>
    let (place, rest) := origin here path
    (place ++ rest, entry)⟩

/-- What lies at a place; whatever lies above something is a directory. -/
def entry? (tree : FileTree) (place : List String) : Option FileEntry :=
  if place.isPrefixOf tree.here then
    some .directory
  else
    match tree.entries.lookup place with
    | some entry => some entry
    | none =>
      if tree.entries.any fun (other, _) => place.isPrefixOf other then some .directory else none

/-- Whether a directory lies at a place. -/
def isDirectory (tree : FileTree) (place : List String) : Bool :=
  match tree.entry? place with
  | some .directory => true
  | _ => false

/-- The place that is reached by steps from a place; nothing lies above the root. -/
def follow (tree : FileTree) (place : List String) : List String → Option (List String)
  | [] => some place
  | step :: rest =>
    if !tree.isDirectory place then
      none
    else if step == "" || step == "." then
      tree.follow place rest
    else if step == ".." then
      tree.follow place.dropLast rest
    else
      tree.follow (place ++ [step]) rest

/-- What a path leads to. -/
def reach? (tree : FileTree) (path : String) : Option FileEntry :=
  let (place, rest) := origin tree.here path
  (tree.follow place rest).bind tree.entry?

/-- The bytes of the file at a path. -/
def read? (tree : FileTree) (path : String) : Option ByteArray :=
  match tree.reach? path with
  | some (.file bytes) => some bytes
  | _ => none

/-- The file at a path, if there is one: its bytes, unless it may not be opened. -/
def open? (tree : FileTree) (path : String) : Option (Option ByteArray) :=
  match tree.reach? path with
  | some (.file bytes) => some (some bytes)
  | some .locked => some none
  | _ => none

/-- The place of a path, found without looking at the tree. -/
def placeOf (here : List String) (path : String) : List String :=
  let (start, rest) := origin here path
  rest.foldl (fun place step =>
    if step == "" || step == "." then place
    else if step == ".." then place.dropLast
    else place ++ [step]) start

/-- Whether a file stands in the way to a place. -/
def isBlocked (tree : FileTree) (place : List String) : Bool :=
  (List.range place.length).any fun count =>
    match tree.entry? (place.take count) with
    | some (.file _) | some .locked => true
    | _ => false

/-- The tree with text added to the end of the file at a place, which is made when there is none;
its directory must be there. `shown` is the path that a fault names. -/
def append (tree : FileTree) (place : List String) (text shown : String) :
    Except Fault FileTree :=
  match tree.entry? place with
  | some .directory => .error (.config (.isDirectory shown))
  | some (.file bytes) =>
    let entries := tree.entries.map fun (other, entry) =>
      (other, if other == place then .file (bytes ++ text.toUTF8) else entry)
    .ok { tree with entries }
  | some .locked => .error (.config (.denied shown))
  | none =>
    if tree.isDirectory place.dropLast then
      .ok { tree with entries := tree.entries ++ [(place, .file text.toUTF8)] }
    else if tree.isBlocked place then
      .error (.config (.notADirectory shown))
    else
      .error (.config (.noSuchFile shown))

end FileTree

end NameRouting
