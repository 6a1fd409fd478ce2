import QueryBridge.Files.Path
import QueryBridge.Text.Utf8

/-!
# File trees

A tree maps locations to files and directories. A location is the list of names from
the working directory; a list that begins with a slash starts at the root instead.
Looking a path up walks through its pieces, and each piece needs a directory to go on
from. The operations on a tree report what stands in their way.
-/

set_option autoImplicit false

namespace QueryBridge.Files

/-- Why an operation on files fails. -/
inductive Fault where
  | notFound
  | notDirectory
  | isDirectory
  | alreadyExists
  | busy
  | nameTooLong
  | notText
  | zeroInPath
  deriving DecidableEq, Repr

/-- What a fault says. -/
def Fault.message : Fault → String
  | .notFound => "No such file or directory (os error 2)"
  | .notDirectory => "Not a directory (os error 20)"
  | .isDirectory => "Is a directory (os error 21)"
  | .alreadyExists => "File exists (os error 17)"
  | .busy => "Device or resource busy (os error 16)"
  | .nameTooLong => "File name too long (os error 36)"
  | .notText => "stream did not contain valid UTF-8"
  | .zeroInPath => "file name contained an unexpected NUL byte"

/-- What stands at a location. -/
inductive Entry where
  | file (octets : List UInt8)
  | directory
  deriving DecidableEq, Repr

/-- The names from the working directory. -/
abbrev Location := List String

/-- The location of the root. -/
def rootLocation : Location := ["/"]

/-- The files and directories at locations. -/
structure Tree where
  entries : List (Location × Entry) := []
  deriving DecidableEq, Repr

namespace Tree

/-- What stands at a location. The working directory and the root are always there. -/
def get? (tree : Tree) (place : Location) : Option Entry :=
  if place = [] || place = rootLocation then some .directory else tree.entries.lookup place

/-- The tree with nothing at a location. -/
def remove (tree : Tree) (place : Location) : Tree :=
  ⟨tree.entries.filter (·.1 ≠ place)⟩

/-- The tree with an entry at a location. -/
def put (tree : Tree) (place : Location) (entry : Entry) : Tree :=
  ⟨(place, entry) :: (tree.remove place).entries⟩

/-- The number of octets that one name may have. -/
def maxName : Nat := 255

/-- The number of octets that a path may have. -/
def maxPath : Nat := 4095

/-- The number of octets of a text. -/
def octetLength (s : List Char) : Nat :=
  (Text.Utf8.encode s).length

/-- The location that a piece of a path leads to. It may be a location with nothing on it. -/
def enter (tree : Tree) (place : Location) (piece : List Char) : Except Fault Location :=
  match tree.get? place with
  | none => .error .notFound
  | some (.file _) => .error .notDirectory
  | some .directory =>
    if piece = [] || piece = ['.'] then .ok place
    else if piece = ['.', '.'] then .ok (if place = rootLocation then place else place.dropLast)
    else if maxName < octetLength piece then .error .nameTooLong
    else .ok (place ++ [String.ofList piece])

/-- The location that pieces of a path lead to, the first one first. -/
def walk (tree : Tree) (place : Location) : List (List Char) → Except Fault Location
  | [] => .ok place
  | piece :: rest =>
    match tree.enter place piece with
    | .error fault => .error fault
    | .ok next => walk tree next rest

/-- Whether a path can be looked up at all. -/
def checkPath (path : Path) : Except Fault Unit :=
  if path.text.contains '\x00' then .error .zeroInPath
  else if path.text = [] then .error .notFound
  else if maxPath < octetLength path.text then .error .nameTooLong
  else .ok ()

/-- The location where a path begins. -/
def startOf (path : Path) : Location :=
  if path.isAbsolute then rootLocation else []

/-- The location of a path, on which nothing need be. -/
def locate (tree : Tree) (path : Path) : Except Fault Location :=
  match checkPath path with
  | .error fault => .error fault
  | .ok () => tree.walk (startOf path) path.pieces

/-- What stands at a path. -/
def find (tree : Tree) (path : Path) : Except Fault Entry :=
  match tree.locate path with
  | .error fault => .error fault
  | .ok place =>
    match tree.get? place with
    | none => .error .notFound
    | some entry => .ok entry

/-- Whether anything stands at a path. -/
def has (tree : Tree) (path : Path) : Bool :=
  match tree.find path with
  | .ok _ => true
  | .error _ => false

/-- Whether a directory stands at a path. -/
def isDirectory (tree : Tree) (path : Path) : Bool :=
  match tree.find path with
  | .ok .directory => true
  | _ => false

/-- The octets of the file at a path. -/
def read (tree : Tree) (path : Path) : Except Fault (List UInt8) :=
  match tree.find path with
  | .error fault => .error fault
  | .ok .directory => .error .isDirectory
  | .ok (.file octets) => .ok octets

/-- Makes the file at a path, or replaces what is in it. -/
def write (tree : Tree) (path : Path) (octets : List UInt8) : Except Fault Tree :=
  match tree.locate path with
  | .error fault => .error fault
  | .ok place =>
    match tree.get? place with
    | some .directory => .error .isDirectory
    | _ => .ok (tree.put place (.file octets))

/-- The last piece of a path that is not empty, and whether a slash stands behind it. -/
def target (path : Path) : List Char × Bool :=
  let backwards := path.pieces.reverse
  ((backwards.dropWhile (· = [])).headD [], backwards.head? = some [])

/-- The location of a path that a file can be moved to: its last piece is a name without a slash
behind it, and no directory stands there. -/
def destination (tree : Tree) (path : Path) : Except Fault Location :=
  match checkPath path with
  | .error fault => .error fault
  | .ok () =>
    let (last, slash) := target path
    let above := ((path.pieces.reverse.dropWhile (· = [])).drop 1).reverse
    match tree.walk (startOf path) (above ++ [[]]) with
    | .error fault => .error fault
    | .ok place =>
      if last = [] || last = ['.'] || last = ['.', '.'] then .error .busy
      else
        match tree.enter place last with
        | .error fault => .error fault
        | .ok place =>
          if slash then .error .notDirectory
          else if tree.get? place = some .directory then .error .isDirectory
          else .ok place

/-- Moves the file at one path to another, in place of a file that stands there. -/
def move (tree : Tree) (source path : Path) : Except Fault Tree :=
  match tree.locate source with
  | .error fault => .error fault
  | .ok place =>
    match tree.destination path with
    | .error fault => .error fault
    | .ok goal =>
      match tree.get? place with
      | some (.file octets) => .ok ((tree.remove place).put goal (.file octets))
      | some .directory => .error .isDirectory
      | none => .error .notFound

/-- Makes the directory at a path, in a directory that is there. -/
def makeDirectory (tree : Tree) (path : Path) : Except Fault Tree :=
  match tree.locate path with
  | .error fault => .error fault
  | .ok place =>
    if (tree.get? place).isSome then .error .alreadyExists else .ok (tree.put place .directory)

/-- Makes a directory whose parent is there by now; a directory that is there already is fine. -/
def settleDirectory (tree : Tree) (path : Path) : Except Fault Tree :=
  match tree.makeDirectory path with
  | .ok after => .ok after
  | .error fault => if tree.isDirectory path then .ok tree else .error fault

/-- Makes the directory at a path and those above it, which stay even if the last one fails. The
fuel bounds the number of parts of the path. -/
def makeDirectoriesWith : Nat → Tree → Path → Tree × Except Fault Unit
  | 0, tree, _ => (tree, .ok ())
  | fuel + 1, tree, path =>
    if path.text = [] then (tree, .ok ())
    else
      match tree.settleDirectory path with
      | .ok after => (after, .ok ())
      | .error .notFound =>
        match path.parent? with
        | none => (tree, .error .notFound)
        | some above =>
          match makeDirectoriesWith fuel tree above with
          | (after, .error fault) => (after, .error fault)
          | (after, .ok ()) =>
            match after.settleDirectory path with
            | .ok last => (last, .ok ())
            | .error fault => (after, .error fault)
      | .error fault => (tree, .error fault)

/-- Makes the directory at a path and those above it. -/
def makeDirectories (tree : Tree) (path : Path) : Tree × Except Fault Unit :=
  makeDirectoriesWith (path.text.length + 1) tree path

/-- The tree with an entry at a location and directories above it. -/
def plant (tree : Tree) (place : Location) (entry : Entry) : Tree :=
  ((List.range place.length).foldl
    (fun tree n => if n = 0 then tree else tree.put (place.take n) .directory) tree).put place entry

/-- The location that a path names where all its parts in front of the last are directories. -/
def plainLocation (path : Path) : Location :=
  path.pieces.foldl
    (fun place piece =>
      if piece = [] || piece = ['.'] then place
      else if piece = ['.', '.'] then (if place = rootLocation then place else place.dropLast)
      else place ++ [String.ofList piece])
    (startOf path)

end Tree

end QueryBridge.Files
