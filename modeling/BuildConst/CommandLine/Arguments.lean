import BuildConst.Artifact
import BuildConst.Compilation

/-!
# Command line arguments

The first argument names a command, and the arguments after it are switches with their values and,
for one command, an operand.  They are taken from left to right.  A value is looked at only when the
next switch, the next operand or the end shows that it is complete; an argument that means nothing
is refused at once.

## Main definitions

* `Switch`, `Verb`, `Command` — what can be given, and what it amounts to.
* `Refusal` — why arguments amount to no command.
* `Scan`, `Scan.step` — the arguments taken so far, and one more.
* `Command.parse` — the command of a list of arguments.
-/

set_option relaxedAutoImplicit false
set_option autoImplicit false

namespace BuildConst

/-- A switch of the command line. -/
inductive Switch where
  | target
  | namespaceText
  | className
  | declarationFile
  | define
  | json
  | help
  | version
deriving DecidableEq, Repr

namespace Switch

/-- The name of a switch after two hyphens. -/
def long : Switch → String
  | target => "target"
  | namespaceText => "namespace"
  | className => "class-name"
  | declarationFile => "from"
  | define => "define"
  | json => "json"
  | help => "help"
  | version => "version"

/-- The letter of a switch after one hyphen. -/
def short? : Switch → Option Char
  | target => some 'o'
  | define => some 'D'
  | help => some 'h'
  | version => some 'V'
  | _ => none

/-- Whether a value belongs to a switch. -/
def takesValue : Switch → Bool
  | json | help | version => false
  | _ => true

/-- Whether a switch may be given more than once. -/
def isRepeatable : Switch → Bool
  | declarationFile | define => true
  | _ => false

/-- Whether the value of a switch must not be empty. -/
def refusesEmpty : Switch → Bool
  | target | declarationFile => true
  | _ => false

end Switch

/-- The commands by their names. -/
inductive Verb where
  | emitSource
  | emitImage
  | check
  | inspect
deriving DecidableEq, Repr

namespace Verb

/-- All commands. -/
def all : List Verb :=
  [emitSource, emitImage, check, inspect]

/-- The word for a command. -/
def word : Verb → String
  | emitSource => "emit-rust"
  | emitImage => "emit-module"
  | check => "check"
  | inspect => "inspect"

/-- The command of a word. -/
def ofWord? (w : String) : Option Verb :=
  all.find? fun v => v.word == w

/-- The switches of a command. -/
def switches : Verb → List Switch
  | emitSource | emitImage =>
    [.target, .namespaceText, .className, .declarationFile, .define, .help]
  | check => [.declarationFile, .define, .help]
  | inspect => [.json, .help]

/-- Whether a command has an operand. -/
def takesOperand : Verb → Bool
  | inspect => true
  | _ => false

end Verb

/-- Where declarations come from: files, and arguments in shorthand.  The files come first. -/
structure Sources where
  files : List String
  arguments : List String
deriving DecidableEq, Repr

/-- A command with its arguments. -/
inductive Command where
  | emit (config : Config) (sources : Sources)
  | check (sources : Sources)
  | inspect (path : String) (json : Bool)
deriving DecidableEq, Repr

/-- Why arguments amount to no command. -/
inductive Refusal where
  | helpWanted
  | versionWanted
  | nothingGiven
  | unknownCommand
  | unknownArgument
  | unfitValue
  | unwantedValue
  | givenTwice
  | missingArgument
deriving DecidableEq, Repr

/-- The exit status of a program that refuses its arguments. -/
def Refusal.exit : Refusal → Nat
  | .helpWanted | .versionWanted => 0
  | _ => 2

/-- An argument that is not complete yet: a switch whose value is awaited, or a value or operand
that was not looked at. -/
inductive Pending where
  | awaiting (s : Switch)
  | valued (s : Switch) (value : String)
  | operand (value : String)
deriving DecidableEq, Repr

/-- The arguments of a command taken so far. -/
structure Scan where
  given : List (Switch × String) := []
  operand : Option String := none
  pending : Option Pending := none
  onlyOperands : Bool := false
deriving DecidableEq, Repr

namespace Scan

/-- Whether a switch was given. -/
def has (scan : Scan) (s : Switch) : Bool :=
  scan.given.any fun g => g.1 == s

/-- The arguments with one more switch. -/
def take (scan : Scan) (s : Switch) (value : String) : Except Refusal Scan :=
  if !s.isRepeatable && scan.has s then .error .givenTwice
  else if s.refusesEmpty && value.isEmpty then .error .unfitValue
  else .ok { scan with given := scan.given ++ [(s, value)] }

/-- The arguments without one that is not complete. -/
def settle (scan : Scan) : Except Refusal Scan :=
  let cleared := { scan with pending := none }
  match scan.pending with
  | none => .ok cleared
  | some (.awaiting _) => .error .unfitValue
  | some (.valued s value) => cleared.take s value
  | some (.operand value) =>
    if value.isEmpty then .error .unfitValue else .ok { cleared with operand := some value }

/-- The arguments with a switch that has no value. -/
def flag (scan : Scan) (s : Switch) : Except Refusal Scan := do
  let settled ← scan.settle
  match s with
  | .help => .error .helpWanted
  | .version => .error .versionWanted
  | _ => settled.take s ""

/-- The arguments with a switch whose value, if any, is attached to it. -/
def switch (scan : Scan) (s : Switch) (attached : Option String) : Except Refusal Scan :=
  if s.takesValue then do
    let settled ← scan.settle
    match attached with
    | some value => settled.take s value
    | none => .ok { settled with pending := some (.awaiting s) }
  else
    match attached with
    | some _ => .error .unwantedValue
    | none => scan.flag s

/-- The arguments with one that began with two hyphens: a name, and perhaps an equals sign and a
value. -/
def longForm (available : List Switch) (scan : Scan) (body : List Char) : Except Refusal Scan :=
  let (name, attached) :=
    match Text.splitFirst '=' body with
    | some (name, value) => (String.ofList name, some (String.ofList value))
    | none => (String.ofList body, none)
  match available.find? fun s => s.long == name with
  | some s => scan.switch s attached
  | none => .error .unknownArgument

/-- The arguments with one that began with one hyphen: letters, of which the first one that takes a
value takes what follows it, perhaps after an equals sign. -/
def shortForm (available : List Switch) (scan : Scan) : List Char → Except Refusal Scan
  | [] => .ok scan
  | c :: rest =>
    match available.find? fun s => s.short? == some c with
    | none => .error .unknownArgument
    | some s =>
      if s.takesValue then
        match rest with
        | [] => scan.switch s none
        | '=' :: value => scan.switch s (some (String.ofList value))
        | value => scan.switch s (some (String.ofList value))
      else do
        let next ← scan.flag s
        next.shortForm available rest

/-- Whether an operand was given, complete or not. -/
def hasOperand (scan : Scan) : Bool :=
  scan.operand.isSome ||
    match scan.pending with
    | some (.operand _) => true
    | _ => false

/-- The arguments with an operand. -/
def addOperand (verb : Verb) (scan : Scan) (value : String) : Except Refusal Scan :=
  if verb.takesOperand && !scan.hasOperand then do
    let settled ← scan.settle
    .ok { settled with pending := some (.operand value) }
  else .error .unknownArgument

/-- The arguments with one that is no switch. -/
def plain (verb : Verb) (scan : Scan) (argument : String) : Except Refusal Scan :=
  match scan.pending with
  | some (.awaiting s) => .ok { scan with pending := some (.valued s argument) }
  | _ => scan.addOperand verb argument

/-- The arguments with one more.  After two hyphens that stand alone, all are operands. -/
def step (verb : Verb) (scan : Scan) (argument : String) : Except Refusal Scan :=
  if scan.onlyOperands then scan.addOperand verb argument
  else
    match argument.toList with
    | ['-', '-'] => .ok { scan with onlyOperands := true }
    | '-' :: '-' :: body => scan.longForm verb.switches body
    | ['-'] => scan.plain verb argument
    | '-' :: letters => scan.shortForm verb.switches letters
    | _ => scan.plain verb argument

/-- The values of a switch in the order in which they were given. -/
def values (scan : Scan) (s : Switch) : List String :=
  (scan.given.filter fun g => g.1 == s).map Prod.snd

/-- The value of a switch that is given at most once. -/
def value? (scan : Scan) (s : Switch) : Option String :=
  (scan.values s).head?

/-- Where declarations come from. -/
def sources (scan : Scan) : Sources :=
  ⟨scan.values .declarationFile, scan.values .define⟩

/-- The command that writes an artifact in a given form. -/
def emitCommand (scan : Scan) (strategy : Strategy) : Except Refusal Command :=
  match scan.value? .target with
  | none => .error .missingArgument
  | some target =>
    let usual : Config := { target, strategy }
    let config : Config :=
      { usual with
        namespaceText := (scan.value? .namespaceText).getD usual.namespaceText
        className := (scan.value? .className).getD usual.className }
    .ok (.emit config scan.sources)

/-- The command that the arguments of a verb amount to. -/
def command (verb : Verb) (scan : Scan) : Except Refusal Command :=
  match verb with
  | .emitSource => scan.emitCommand .source
  | .emitImage => scan.emitCommand .image
  | .check => .ok (.check scan.sources)
  | .inspect =>
    match scan.operand with
    | none => .error .missingArgument
    | some path => .ok (.inspect path (scan.has .json))

end Scan

namespace Command

/-- The word that asks for help. -/
def helpWord : String := "help"

/-- Whether a word names a command or asks for help. -/
def isWord (w : String) : Bool :=
  w == helpWord || (Verb.ofWord? w).isSome

/-- The command of the arguments after a verb. -/
def ofArguments (verb : Verb) (arguments : List String) : Except Refusal Command := do
  let scan ← arguments.foldlM (Scan.step verb) {}
  let settled ← scan.settle
  settled.command verb

/-- What a request for help on some words comes to.  There is help on each command. -/
def helpOn : List String → Refusal
  | [] => .helpWanted
  | [w] => if isWord w then .helpWanted else .unknownCommand
  | _ => .unknownCommand

/-- What the first argument comes to if it is no command. -/
def withoutVerb (argument : String) (rest : List String) : Refusal :=
  let available : List Switch := [.help, .version]
  let refusalOf (result : Except Refusal Scan) : Refusal :=
    match result with
    | .error refusal => refusal
    | .ok _ => .unknownArgument
  match argument.toList with
  | ['-', '-'] =>
    match rest with
    | [] => .nothingGiven
    | w :: _ => if isWord w then .unknownArgument else .unknownCommand
  | '-' :: '-' :: body => refusalOf (Scan.longForm available {} body)
  | ['-'] => .unknownCommand
  | '-' :: letters => refusalOf (Scan.shortForm available {} letters)
  | _ => .unknownCommand

/-- The command of a list of arguments. -/
def parse : List String → Except Refusal Command
  | [] => .error .nothingGiven
  | argument :: rest =>
    if argument = helpWord then .error (helpOn rest)
    else
      match Verb.ofWord? argument with
      | some verb => ofArguments verb rest
      | none => .error (withoutVerb argument rest)

end Command

end BuildConst
