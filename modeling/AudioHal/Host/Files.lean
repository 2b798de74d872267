import AudioHal.Host.Path

/-! # Files

A tree of directories with files at its leaves, and the directory that relative paths start from.

* `Files.walk`: follows a path, component by component; every component but the last must lead to
  a directory.
* `Files.read`: the bytes of a file, or why there are none.
* `Files.write`, `Files.remove`, `Files.makeDirectory`: changes; one that cannot be made leaves the
  tree alone.
-/

set_option autoImplicit false

namespace AudioHal

/-- The names on the way from the root to a place in the tree. -/
abbrev Location := List (List UInt8)

/-- What stands at a place in the tree. -/
inductive Node
  | file (bytes : List UInt8)
  | directory
deriving DecidableEq

/-- Why a file cannot be read. -/
inductive Obstacle
  /-- Nothing is there. -/
  | notFound
  /-- A directory is there. -/
  | isADirectory
  /-- A file stands where a directory should. -/
  | notADirectory
  /-- The bytes are no text. -/
  | invalidData
  /-- A name is too long. -/
  | invalidFilename
  /-- The path holds a zero byte. -/
  | invalidInput
deriving DecidableEq

/-- The tree below the root. -/
structure Files where
  /-- The places other than the root, each at most once. -/
  nodes : List (Location × Node)
  /-- The working directory. -/
  current : Location

namespace Files

/-- What stands at a place. -/
def node? (fs : Files) (place : Location) : Option Node :=
  if place.isEmpty then some .directory else fs.nodes.lookup place

/-- A tree that holds the way to a working directory and nothing else. -/
def scratch (current : Location) : Files where
  nodes := (List.range current.length).map fun n => (current.take (n + 1), .directory)
  current := current

/-- Where one component leads from a directory. -/
def enter (place : Location) (component : List UInt8) : Except Obstacle Location :=
  if component.isEmpty || component == Path.here then .ok place
  else if component == Path.up then .ok place.dropLast
  else if Path.componentMax < component.length then .error .invalidFilename
  else .ok (place ++ [component])

/-- Where components lead from a place. The place that each of them starts from must be a
directory; the last one may lead to nothing. -/
def walk (fs : Files) : Location → List (List UInt8) → Except Obstacle Location
  | place, [] => .ok place
  | place, component :: rest =>
    match fs.node? place with
    | none => .error .notFound
    | some (.file _) => .error .notADirectory
    | some .directory => enter place component >>= fun next => walk fs next rest

/-- Where a path starts. -/
def start (fs : Files) (p : Path) : Location :=
  if p.isAbsolute then [] else fs.current

/-- Where a path leads. -/
def resolve (fs : Files) (p : Path) : Except Obstacle Location :=
  if p.holdsZero then .error .invalidInput
  else if p.bytes.isEmpty then .error .notFound
  else if p.isTooLong then .error .invalidFilename
  else fs.walk (fs.start p) p.components

/-- The bytes of a file. -/
def read (fs : Files) (p : Path) : Except Obstacle (List UInt8) :=
  fs.resolve p >>= fun place =>
    match fs.node? place with
    | some (.file bytes) => .ok bytes
    | some .directory => .error .isADirectory
    | none => .error .notFound

/-- The text of a file. -/
def readText (fs : Files) (p : Path) : Except Obstacle String :=
  fs.read p >>= fun bytes =>
    match Utf8.decode? bytes with
    | some text => .ok text
    | none => .error .invalidData

/-- The tree with something else at a place. -/
def put (fs : Files) (place : Location) (node : Node) : Files :=
  { fs with nodes := (place, node) :: fs.nodes.filter (·.1 != place) }

/-- Gives a file its bytes, making the file where there is none. -/
def write (fs : Files) (p : Path) (bytes : List UInt8) : Files :=
  match fs.resolve p with
  | .error _ => fs
  | .ok place =>
    match fs.node? place with
    | some .directory => fs
    | _ => fs.put place (.file bytes)

/-- Takes a file away. -/
def remove (fs : Files) (p : Path) : Files :=
  match fs.resolve p with
  | .error _ => fs
  | .ok place =>
    match fs.node? place with
    | some (.file _) => { fs with nodes := fs.nodes.filter (·.1 != place) }
    | _ => fs

/-- Makes the directories that components lead through, as far as no file is in the way. -/
def makeAlong (fs : Files) : Location → List (List UInt8) → Files
  | _, [] => fs
  | place, component :: rest =>
    match enter place component with
    | .error _ => fs
    | .ok next =>
      match fs.node? next with
      | some .directory => makeAlong fs next rest
      | some (.file _) => fs
      | none => makeAlong (fs.put next .directory) next rest

/-- Makes a directory, together with those on the way to it. -/
def makeDirectory (fs : Files) (p : Path) : Files :=
  if p.holdsZero || p.isTooLong then fs else fs.makeAlong (fs.start p) p.components

end Files

end AudioHal
