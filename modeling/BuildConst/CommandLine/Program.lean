import BuildConst.CommandLine.Commands
import BuildConst.Text.Wrap

/-!
# The program

From the arguments to what is printed: arguments that amount to no command are answered with the
version, the usage or a complaint, and a command that fails is answered with its message.

## Main definitions

* `Failure.report` — how a failure is shown.
* `Refusal.reply` — the answer to arguments that amount to no command.
* `answer` — the answer to a list of arguments.
-/

set_option relaxedAutoImplicit false
set_option autoImplicit false

namespace BuildConst

/-- The greatest width of a line of a failure report. -/
def reportWidth : Nat := 78

/-- How a failure is shown: the area it comes from, the message behind a cross, and the hint. -/
def Failure.report (f : Failure) : String :=
  s!"{programName}::cli\n\n" ++ Text.fill reportWidth "  × " "  │ " f.message ++ "\n" ++
    (match f.help with
    | none => ""
    | some help => Text.fill reportWidth "  help: " "        " help ++ "\n") ++ "\n"

/-- How the program is used.  This is an abridged form of the program's help: it names the commands
but not their options, and it is the same for each command. -/
def usage : String :=
  s!"Usage: {programName} <COMMAND>\n\n" ++
    "Commands:\n" ++
    "  emit-rust    Write constants as source\n" ++
    "  emit-module  Write constants as a binary module image\n" ++
    "  check        Validate declarations without writing an artifact\n" ++
    "  inspect      List the constants stored in a module image\n" ++
    "  help         Print this message\n"

/-- The complaint about arguments that amount to no command.  This is an abridged form: it tells the
fault, but not the argument that has it nor what was expected there. -/
def Refusal.complaint : Refusal → String
  | .unknownCommand => "unrecognized subcommand"
  | .unknownArgument => "unexpected argument"
  | .unfitValue => "a value is required for an argument"
  | .unwantedValue => "unexpected value for an argument"
  | .givenTwice => "an argument cannot be used multiple times"
  | .missingArgument => "required arguments were not provided"
  | .helpWanted | .versionWanted | .nothingGiven => ""

/-- The answer to arguments that amount to no command. -/
def Refusal.reply (r : Refusal) : Reply :=
  match r with
  | .helpWanted => { exit := r.exit, stdout := usage }
  | .versionWanted => { exit := r.exit, stdout := s!"{programName} {programVersion}\n" }
  | .nothingGiven => { exit := r.exit, stderr := usage }
  | _ => { exit := r.exit, stderr := "error: " ++ r.complaint ++ "\n\n" ++ usage }

/-- The answer to a command. -/
def Command.reply : Except Failure Reply → Reply
  | .ok reply => reply
  | .error failure => { exit := Failure.exit, stderr := failure.report }

/-- The answer to a list of arguments. -/
def answer {m : Type → Type} [Monad m] [Files m] (arguments : List String) : m Reply :=
  match Command.parse arguments with
  | .error refusal => pure refusal.reply
  | .ok command => return Command.reply (← command.execute)

end BuildConst
