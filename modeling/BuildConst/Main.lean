import BuildConst.CommandLine.Program

/-!
# The executable

The file operations of the program on the file system it runs on, and its entry point.
-/

set_option relaxedAutoImplicit false
set_option autoImplicit false

namespace BuildConst

/-- The fault for a number by which the operating system tells a cause.  Some operations give the
number with its sign changed. -/
def FileFault.ofCode (number : UInt32) (description : String) : FileFault :=
  let code := if number < 0x80000000 then number else 0 - number
  if code = 2 then .noSuchFile
  else if code = 17 then .fileExists
  else if code = 20 then .notDirectory
  else if code = 21 then .isDirectory
  else if code = 36 then .nameTooLong
  else .other s!"{description} (os error {code})"

/-- The fault for an error of a file operation. -/
def FileFault.ofError : IO.Error → FileFault
  | .alreadyExists _ code details | .noFileOrDirectory _ code details
  | .inappropriateType _ code details | .invalidArgument _ code details
  | .permissionDenied _ code details | .resourceExhausted _ code details =>
    .ofCode code details
  | error => .other (toString error)

/-- Run a file operation on a path and turn its error into a fault. -/
def guarded {α : Type} (path : String) (operation : IO α) : IO (Except FileFault α) := do
  if '\x00' ∈ path.toList then pure (.error .nulInName)
  else
    try
      let result ← operation
      pure (.ok result)
    catch error => pure (.error (.ofError error))

/-- File operations on the file system of the machine. -/
instance : Files IO where
  workingDirectory := return toString (← IO.currentDir)
  readFile path :=
    guarded path do return (← IO.FS.readBinFile path).toList
  writeFile path bytes :=
    guarded path (IO.FS.writeBinFile path ⟨bytes.toArray⟩)
  makeDirectory path := guarded path (IO.FS.createDir path)
  -- Making the directory `.` inside a path fails because it exists exactly if the path leads to
  -- a directory.
  isDirectory path := do
    match ← guarded path (IO.FS.createDir (path ++ "/.")) with
    | .error .fileExists => pure true
    | _ => pure false

end BuildConst

/-- Prints the answer to the arguments and ends with its exit status. -/
def main (arguments : List String) : IO UInt32 := do
  let reply ← BuildConst.answer (m := IO) arguments
  (← IO.getStdout).putStr reply.stdout
  (← IO.getStderr).putStr reply.stderr
  return UInt32.ofNat reply.exit
