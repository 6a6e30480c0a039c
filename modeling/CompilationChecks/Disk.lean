import CompilationChecks.Text.Split
import CompilationChecks.Text.Utf8

/-!
The disk as a process finds it: folders, files, devices and links, each at its place. A path leads
from the root, or from the folder that the process is in, through folders to a place. A link leads
to the place that it names, so that the way back from there is not the way that was taken. At the
end of a path there need not be anything, and a file can be made there. Names and paths that are
too long lead nowhere.
-/

namespace CompilationChecks

/-- The names on the way from the root. -/
abbrev Place := List String

/-- The path that leads to a place from the root. -/
def Place.path (place : Place) : String :=
  "/" ++ String.intercalate "/" place

/-- Something that is no file but is used like one. -/
inductive Device where
  /-- Holds nothing and forgets what it is given. -/
  | null
  /-- Refuses what it is given. -/
  | closed
  /-- Prints what it is given. -/
  | output
  /-- Shows what it is given beside the output. -/
  | complaints
  deriving DecidableEq, Repr

/-- What stands at a place. -/
inductive Node where
  /-- A folder, and whether files can be made in it. -/
  | folder (grows : Bool)
  | file (content : Bytes)
  | device (device : Device)
  /-- A link to a place where no link stands. -/
  | link (target : Place)
  deriving DecidableEq, Repr

/-- Where something that is written ends up. -/
inductive Destination where
  /-- In a file, which is made if there is none. -/
  | file (place : Place)
  /-- In a device. -/
  | device (device : Device)
  deriving DecidableEq, Repr

/-- What a process finds on its disk. -/
structure Disk where
  /-- What stands at each place but the root, which is a folder. -/
  nodes : List (Place × Node)
  /-- The folder that the process is in. -/
  current : Place
  deriving DecidableEq, Repr

namespace Disk

/-- What stands at a place. -/
def node? (disk : Disk) (place : Place) : Option Node :=
  if place.isEmpty then some (.folder true) else disk.nodes.lookup place

/-- The greatest number of bytes in a name. -/
def nameLimit : Nat := 255

/-- The greatest number of bytes in a path. -/
def pathLimit : Nat := 4095

/-- Where a name leads from a folder. -/
def step (place : Place) (name : String) : Place :=
  if name = "" || name = "." then place
  else if name = ".." then place.dropLast
  else place ++ [name]

/-- The place itself, or the place that is meant by a link there. -/
def settle (disk : Disk) (place : Place) : Place :=
  match disk.node? place with
  | some (.link target) => target
  | _ => place

/-- Where names lead one after another. Only a folder leads on, and only by a name that is not too
long. -/
def follow? (disk : Disk) : Place → List String → Option Place
  | place, [] => some place
  | place, name :: others =>
    match disk.node? place with
    | some (.folder _) =>
      if name.utf8ByteSize ≤ nameLimit then disk.follow? (disk.settle (step place name)) others
      else none
    | _ => none

/-- Where a path leads. -/
def place? (disk : Disk) (path : String) : Option Place :=
  if pathLimit < path.utf8ByteSize then none
  else
    match (Text.pieces (· == '/') path.toList).map String.ofList with
    | "" :: names => disk.follow? [] names
    | names => disk.follow? disk.current names

/-- Whether a file can be made at a place where nothing stands. -/
def accepts (disk : Disk) (place : Place) : Bool :=
  match disk.node? place.dropLast with
  | some (.folder grows) => grows
  | _ => false

/-- The bytes that can be read at a path. -/
def read? (disk : Disk) (path : String) : Option Bytes :=
  match (disk.place? path).bind disk.node? with
  | some (.file content) => some content
  | some (.device .null) => some []
  | _ => none

/-- Where something that is written to a path ends up, if it can be written. -/
def destination? (disk : Disk) (path : String) : Option Destination :=
  match disk.place? path with
  | none => none
  | some place =>
    match disk.node? place with
    | none => if disk.accepts place then some (.file place) else none
    | some (.folder _) => none
    | some (.link _) => none
    | some (.file _) => some (.file place)
    | some (.device .closed) => none
    | some (.device device) => some (.device device)

/-- The disk with something more on it. -/
def add (disk : Disk) (place : Place) (node : Node) : Disk :=
  { disk with nodes := (place, node) :: disk.nodes }

/-! ## What every process finds -/

/-- The folder that a process is in at first. -/
def home : Place :=
  ["home"]

/-- Folders inside a folder. -/
def folders (inside : Place) (grow : Bool) (names : List String) : List (Place × Node) :=
  names.map fun name => (inside ++ [name], .folder grow)

/-- Links inside a folder. -/
def links (inside : Place) (targets : List (String × Place)) : List (Place × Node) :=
  targets.map fun entry => (inside ++ [entry.1], .link entry.2)

/-- Devices inside a folder. -/
def devices (inside : Place) (kinds : List (String × Device)) : List (Place × Node) :=
  kinds.map fun entry => (inside ++ [entry.1], .device entry.2)

/-- What the system says about a process, inside a folder: where the process is, which program it
runs, and its streams by number. The first stream gives nothing. -/
def aboutProcess (inside : Place) : List (Place × Node) :=
  folders inside false ["attr", "fd", "fdinfo", "map_files", "net", "ns", "task"] ++
    links inside [("cwd", home), ("root", [])] ++
    devices inside [("exe", .closed)] ++
    devices (inside ++ ["fd"]) [("0", .null), ("1", .output), ("2", .complaints)]

/-- The folder about the running process. -/
def ownProcess : Place :=
  ["proc", "self"]

/-- The folder about the running thread. -/
def ownThread : Place :=
  ownProcess ++ ["task", "1"]

/-- The disk on which there is nothing but what every process finds. -/
def usual : Disk where
  nodes :=
    folders [] true
        ["boot", "dev", "etc", "home", "media", "mnt", "opt", "root", "run", "srv", "tmp", "usr",
          "var"] ++
      folders [] false ["proc", "sys"] ++
      links []
        [("bin", ["usr", "bin"]), ("lib", ["usr", "lib"]), ("lib64", ["usr", "lib64"]),
          ("sbin", ["usr", "sbin"])] ++
      folders ["usr"] true
        ["bin", "games", "include", "lib", "lib64", "libexec", "local", "sbin", "share", "src"] ++
      folders ["usr", "local"] true
        ["bin", "etc", "games", "include", "lib", "sbin", "share", "src"] ++
      folders ["var"] true
        ["backups", "cache", "lib", "local", "log", "mail", "opt", "spool", "tmp"] ++
      links ["var"] [("lock", ["run", "lock"]), ("run", ["run"])] ++
      folders ["run"] true ["lock"] ++
      folders ["etc"] true
        ["alternatives", "apt", "default", "dpkg", "init.d", "opt", "profile.d", "skel"] ++
      folders ["dev"] true ["mqueue", "shm"] ++
      folders ["dev"] false ["pts"] ++
      links ["dev"] [("fd", ownProcess ++ ["fd"])] ++
      devices ["dev"]
        [("null", .null), ("full", .closed), ("tty", .closed), ("stdin", .null),
          ("stdout", .output), ("stderr", .complaints)] ++
      folders ["sys"] false
        ["block", "bus", "class", "dev", "devices", "firmware", "fs", "kernel", "module",
          "power"] ++
      folders ["proc"] false ["self", "sys"] ++
      links ["proc"] [("net", ownProcess ++ ["net"]), ("thread-self", ownThread)] ++
      folders (ownProcess ++ ["task"]) false ["1"] ++
      aboutProcess ownProcess ++ aboutProcess ownThread
  current := home

end Disk

end CompilationChecks
