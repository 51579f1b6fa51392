import RestClient.Disk.Basic
import RestClient.Disk.Path

/-! # File systems

A file system as a value: what is at each location, and where paths begin.

* `FileSystem.read`, `FileSystem.write` and `FileSystem.makeDirectory` do what a disk does with one
  path;
* `FileSystem.disk` is the disk that they make up. -/

namespace RestClient

/-- A place, by the names that lead to it from the root, the innermost first. -/
abbrev Location := List String

/-- What is at a place. -/
inductive Node where
  /-- A file with its bytes. -/
  | file (content : ByteArray)
  /-- A directory. -/
  | directory

/-- What is on a disk. -/
structure FileSystem where
  /-- What is at each location. -/
  node : Location → Option Node
  /-- Where paths begin that do not begin at the root. -/
  workingDirectory : Location

namespace FileSystem

/-- A file system with something else at one location. -/
def put (fs : FileSystem) (location : Location) (node : Node) : FileSystem :=
  { fs with node := fun l => if l = location then some node else fs.node l }

@[simp] theorem node_put_self (fs : FileSystem) (location : Location) (node : Node) :
    (fs.put location node).node location = some node := by simp [put]

theorem node_put_of_ne {fs : FileSystem} {location l : Location} {node : Node}
    (h : l ≠ location) : (fs.put location node).node l = fs.node l := by simp [put, h]

/-! ### Finding a location -/

/-- Whether there is a directory at a location. -/
def isDirectoryAt (fs : FileSystem) (location : Location) : Bool :=
  match fs.node location with
  | some .directory => true
  | _ => false

/-- Nothing, if there is a directory at a location. -/
def requireDirectory (fs : FileSystem) (location : Location) : Except FileFault Unit :=
  match fs.node location with
  | some .directory => .ok ()
  | some (.file _) => .error .notDirectory
  | none => .error .notFound

/-- Nothing, if a name is short enough for a directory to have it: a name has at most 255 bytes. -/
def requireShort (name : String) : Except FileFault Unit :=
  if 255 < name.utf8ByteSize then .error .nameTooLong else .ok ()

/-- Nothing, if a path can be followed at all: it is not empty, has no NUL character in it, and has
at most 4095 bytes. -/
def requirePath (path : String) : Except FileFault Unit :=
  if '\x00' ∈ path.toList then .error .nulInPath
  else if path = "" then .error .notFound
  else if 4095 < path.utf8ByteSize then .error .nameTooLong
  else .ok ()

/-- The place that a name leads to from a directory. -/
def enter (fs : FileSystem) (location : Location) (name : String) : Except FileFault Location :=
  match fs.requireDirectory location with
  | .error fault => .error fault
  | .ok () =>
    if name = "" ∨ name = "." then .ok location
    else if name = ".." then .ok location.tail
    else
      match requireShort name, fs.node (name :: location) with
      | .error fault, _ => .error fault
      | .ok (), none => .error .notFound
      | .ok (), some _ => .ok (name :: location)

/-- The place that names lead to. -/
def walk (fs : FileSystem) (location : Location) : List String → Except FileFault Location
  | [] => .ok location
  | name :: rest =>
    match fs.enter location name with
    | .error fault => .error fault
    | .ok next => fs.walk next rest

/-- Where a path begins. -/
def start (fs : FileSystem) (path : String) : Location :=
  if Path.isAbsolute path then [] else fs.workingDirectory

/-- The place of a path. -/
def locate (fs : FileSystem) (path : String) : Except FileFault Location :=
  match requirePath path with
  | .error fault => .error fault
  | .ok () => fs.walk (fs.start path) (Path.pieces path)

/-- What a path names, existing or not, for someone who wants to put something there. -/
inductive Target where
  /-- A directory that has no name of its own in the path. -/
  | unnamed
  /-- A name in a directory that exists; `slashed` if the path goes on with a slash. -/
  | named (parent : Location) (name : String) (slashed : Bool)

/-- The target of a path, which needs the directory that it lies in. -/
def target (fs : FileSystem) (path : String) : Except FileFault Target :=
  match requirePath path with
  | .error fault => .error fault
  | .ok () =>
    let reversed := (Path.pieces path).reverse
    match reversed.dropWhile (· == "") with
    | [] => .ok .unnamed
    | name :: before =>
      match fs.walk (fs.start path) before.reverse with
      | .error fault => .error fault
      | .ok parent =>
        match fs.requireDirectory parent with
        | .error fault => .error fault
        | .ok () =>
          if name = "." ∨ name = ".." then .ok .unnamed
          else .ok (.named parent name (reversed.head? == some ""))

/-! ### What a disk does -/

/-- The bytes in a file. -/
def readBytes (fs : FileSystem) (path : String) : Except FileFault ByteArray :=
  match fs.locate path with
  | .error fault => .error fault
  | .ok location =>
    match fs.node location with
    | some (.file content) => .ok content
    | some .directory => .error .isDirectory
    | none => .error .notFound

/-- The text in a file. -/
def read (fs : FileSystem) (path : String) : Except FileFault String :=
  match fs.readBytes path with
  | .error fault => .error fault
  | .ok content =>
    match String.fromUTF8? content with
    | some text => .ok text
    | none => .error .notText

/-- The location of the file that a path names for writing. -/
def writable (fs : FileSystem) (path : String) : Except FileFault Location :=
  match fs.target path with
  | .error fault => .error fault
  | .ok .unnamed => .error .isDirectory
  | .ok (.named _ _ true) => .error .isDirectory
  | .ok (.named parent name false) =>
    match requireShort name with
    | .error fault => .error fault
    | .ok () =>
      if fs.isDirectoryAt (name :: parent) then .error .isDirectory else .ok (name :: parent)

/-- A file system with other bytes as the whole content of a file. -/
def writeBytes (fs : FileSystem) (path : String) (content : ByteArray) :
    Except FileFault FileSystem :=
  match fs.writable path with
  | .error fault => .error fault
  | .ok location => .ok (fs.put location (.file content))

/-- A file system with a text as the whole content of a file. -/
def write (fs : FileSystem) (path text : String) : Except FileFault FileSystem :=
  fs.writeBytes path text.toUTF8

/-- A file system with one more directory. -/
def makeDirectory (fs : FileSystem) (path : String) : Except FileFault FileSystem :=
  match fs.target path with
  | .error fault => .error fault
  | .ok .unnamed => .error .alreadyExists
  | .ok (.named parent name _) =>
    match requireShort name, fs.node (name :: parent) with
    | .error fault, _ => .error fault
    | .ok (), some _ => .error .alreadyExists
    | .ok (), none => .ok (fs.put (name :: parent) .directory)

/-- Whether a path leads to a directory. -/
def isDirectory (fs : FileSystem) (path : String) : Bool :=
  match fs.locate path with
  | .ok location => fs.isDirectoryAt location
  | .error _ => false

/-- What becomes of a file system by a step that may fail: if it does, nothing changes. -/
def step (result : Except FileFault FileSystem) : StateM FileSystem (Except FileFault Unit) :=
  fun fs =>
    match result with
    | .error fault => (.error fault, fs)
    | .ok fs' => (.ok (), fs')

/-- A file system as a disk. -/
def disk : Disk (StateM FileSystem) where
  read path fs := (fs.read path, fs)
  isDirectory path fs := (fs.isDirectory path, fs)
  createDirectory path fs := step (fs.makeDirectory path) fs
  write path text fs := step (fs.write path text) fs

/-! ### Making file systems -/

/-- A file system with nothing in it but the working directory. -/
def emptyAt (workingDirectory : Location) : FileSystem where
  node l := if l <:+ workingDirectory then some .directory else none
  workingDirectory

end FileSystem

end RestClient
