/-! # Disks

What the command line needs of a disk: reading a text, creating directories, writing a file. A
`Disk` is given over any monad, so that the same run works on a real disk and on one that is a
value. -/

namespace RestClient

/-- Why a file or directory cannot be used. -/
inductive FileFault where
  /-- Nothing has this name. -/
  | notFound
  /-- Something that stands in a path is no directory. -/
  | notDirectory
  /-- A directory is in the place of a file. -/
  | isDirectory
  /-- Something has this name already. -/
  | alreadyExists
  /-- A name, or the whole path, has too many bytes. -/
  | nameTooLong
  /-- The path has a NUL character in it. -/
  | nulInPath
  /-- The file holds no text. -/
  | notText
  /-- Anything else, in the words of the system. -/
  | other (text : String)
  deriving DecidableEq, Repr

/-- The fault in words. -/
def FileFault.message : FileFault → String
  | .notFound => "No such file or directory (os error 2)"
  | .notDirectory => "Not a directory (os error 20)"
  | .isDirectory => "Is a directory (os error 21)"
  | .alreadyExists => "File exists (os error 17)"
  | .nameTooLong => "File name too long (os error 36)"
  | .nulInPath => "file name contained an unexpected NUL byte"
  | .notText => "stream did not contain valid UTF-8"
  | .other text => text

/-- A disk, as far as the command line uses it. -/
structure Disk (m : Type → Type) where
  /-- The text in a file. -/
  read : String → m (Except FileFault String)
  /-- Whether a path leads to a directory. -/
  isDirectory : String → m Bool
  /-- Creates one directory in a directory that exists. -/
  createDirectory : String → m (Except FileFault Unit)
  /-- Makes a text the whole content of a file. -/
  write : String → String → m (Except FileFault Unit)

end RestClient
