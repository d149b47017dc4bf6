/-!
# File operations

What the program asks of a file system.  An operation either succeeds or fails for one of a few
causes, and a failed one has no effect.  Paths are texts, so the names of files are valid Unicode.
The working directory is assumed to exist: asking for its path does not fail.

## Main definitions

* `FileFault`, `FileFault.message` — why an operation failed.
* `Files` — the operations.
* `Files.makeDirectories` — makes a directory together with those above it.
-/

set_option relaxedAutoImplicit false
set_option autoImplicit false

namespace BuildConst

/-- Why a file operation failed. -/
inductive FileFault where
  | noSuchFile
  | fileExists
  | notDirectory
  | isDirectory
  | nameTooLong
  | nulInName
  | notText
  | other (description : String)
deriving DecidableEq, Repr

/-- The text that describes a fault. -/
def FileFault.message : FileFault → String
  | .noSuchFile => "No such file or directory (os error 2)"
  | .fileExists => "File exists (os error 17)"
  | .notDirectory => "Not a directory (os error 20)"
  | .isDirectory => "Is a directory (os error 21)"
  | .nameTooLong => "File name too long (os error 36)"
  | .nulInName => "file name contained an unexpected NUL byte"
  | .notText => "stream did not contain valid UTF-8"
  | .other description => description

/-- The operations of a file system, with paths that are relative to a working directory.  Paths are
valid Unicode. -/
class Files (m : Type → Type) where
  /-- The absolute path of the working directory, which is assumed to exist. -/
  workingDirectory : m String
  /-- The bytes of a file. -/
  readFile : String → m (Except FileFault (List UInt8))
  /-- Makes a file with given bytes, in place of one that is there. -/
  writeFile : String → List UInt8 → m (Except FileFault Unit)
  /-- Makes a directory. -/
  makeDirectory : String → m (Except FileFault Unit)
  /-- Whether a path leads to a directory. -/
  isDirectory : String → m Bool

namespace Files

variable {m : Type → Type} [Monad m] [Files m]

/-- Makes a directory, unless it is there. -/
def ensureDirectory (path : String) : m (Except FileFault Unit) := do
  match ← makeDirectory path with
  | .ok () => pure (.ok ())
  | .error fault => if ← isDirectory path then pure (.ok ()) else pure (.error fault)

/-- Makes the first directory of a list, where each next one is the directory that it lies in.  Only
when it cannot be made for lack of that one are the others made first. -/
def makeDirectories : List String → m (Except FileFault Unit)
  | [] => pure (.ok ())
  | path :: above => do
    match ← makeDirectory path with
    | .ok () => pure (.ok ())
    | .error .noSuchFile =>
      match ← makeDirectories above with
      | .ok () => ensureDirectory path
      | .error fault => pure (.error fault)
    | .error fault => if ← isDirectory path then pure (.ok ()) else pure (.error fault)

end Files

end BuildConst
