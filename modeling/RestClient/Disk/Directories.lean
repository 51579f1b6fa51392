import RestClient.Disk.Basic
import RestClient.Disk.Path

/-! # Nested directories

A directory with those on the way to it, made on any disk.

* `Disk.ensureDirectory` makes one directory unless it exists;
* `Disk.createDirectories` makes the missing ones on the way first. Where one of them cannot be
  made, those above it stay. -/

namespace RestClient.Disk

variable {m : Type → Type} [Monad m]

/-- Makes a directory unless it exists. -/
def ensureDirectory (disk : Disk m) (path : String) : m (Except FileFault Unit) := do
  match ← disk.createDirectory path with
  | .ok () => return .ok ()
  | .error fault => return if ← disk.isDirectory path then .ok () else .error fault

/-- Makes the first of the given directories, each of which lies in the next one. What is missing on
the way is made first. -/
def createChain (disk : Disk m) : List String → m (Except FileFault Unit)
  | [] => return .ok ()
  | path :: outer => do
    match ← disk.ensureDirectory path with
    | .error .notFound =>
      match ← disk.createChain outer with
      | .error fault => return .error fault
      | .ok () => disk.ensureDirectory path
    | result => return result

/-- Makes a directory and those on the way to it, unless they exist. -/
def createDirectories (disk : Disk m) (path : String) : m (Except FileFault Unit) :=
  disk.createChain (Path.ancestors path)

end RestClient.Disk
