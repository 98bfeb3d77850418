import Tabular.Session

/-!
# The command line

The arguments say where tables are stored, what the prompt is, and which script to run; without a
script the statements come from standard input. `parse` reads them from left to right, and the first
thing that settles the matter counts: a fault, or a request for the version or for help.

A value follows its option as the next argument, or after an equals sign, or directly after a short
option's letter. After `--` every argument is a script.

The reading of arguments does not depend on what they mean: the form of an argument comes first
(`classify`), and what it is good for second (`parseFrom`). A value that begins with a dash can only
be given together with its option, since as an argument of its own it would be taken for an option;
a single dash is an exception.

`run` is the whole program over a tree of files: what it writes, what it complains of and the code
that it ends with. The program on the disk has the same parts in the same order.
-/

namespace Tabular.CommandLine

/-- What the arguments ask for. -/
structure Options where
  dataDir : String
  prompt : String
  log : Option String
  script : Option String
  deriving DecidableEq, Repr

/-- What holds when no argument says otherwise. -/
def Options.default : Options :=
  ⟨".", "> ", none, none⟩

/-- What is wrong with the arguments. -/
inductive UsageFault
  | unknown (argument : String)
  | missingValue (option : String)
  | unneededValue (option : String)
  | repeated (option : String)
  deriving DecidableEq, Repr

/-- The words for a fault of usage. -/
def UsageFault.message : UsageFault → String
  | unknown argument => "unexpected argument '" ++ argument ++ "' found"
  | missingValue option => "a value is required for '" ++ option ++ "' but none was supplied"
  | unneededValue option => "unexpected value for '" ++ option ++ "' found"
  | repeated option => "the argument '" ++ option ++ "' cannot be used multiple times"

/-- What is to be done. -/
inductive Request
  | run (options : Options)
  | version
  | help
  deriving DecidableEq, Repr

/-- What takes a value. -/
inductive Setting
  | dir
  | prompt
  | log
  | script
  deriving DecidableEq, Repr

/-- How a setting is called in messages. -/
def Setting.name : Setting → String
  | dir => "--dir <DIR>"
  | prompt => "--prompt <PROMPT>"
  | log => "--log <LOG>"
  | script => "[SCRIPT]"

/-- The values given so far. -/
structure Given where
  dir : Option String
  prompt : Option String
  log : Option String
  script : Option String
  deriving DecidableEq, Repr

namespace Given

/-- No value yet. -/
def nothing : Given :=
  ⟨none, none, none, none⟩

/-- The value of a setting. -/
def get (g : Given) : Setting → Option String
  | .dir => g.dir
  | .prompt => g.prompt
  | .log => g.log
  | .script => g.script

/-- Gives a setting its value, once only. Paths are not empty. -/
def set (g : Given) (s : Setting) (value : String) : Except UsageFault Given :=
  if (g.get s).isSome then
    .error (if s = .script then .unknown value else .repeated s.name)
  else
    match s with
    | .dir =>
      if value.isEmpty then .error (.missingValue s.name) else .ok { g with dir := some value }
    | .prompt => .ok { g with prompt := some value }
    | .log => .ok { g with log := some value }
    | .script =>
      if value.isEmpty then .error (.missingValue s.name) else .ok { g with script := some value }

/-- The options, with what holds by default for what was not given. -/
def options (g : Given) : Options where
  dataDir := g.dir.getD Options.default.dataDir
  prompt := g.prompt.getD Options.default.prompt
  log := g.log
  script := g.script

end Given

/-- What an argument is by its form. -/
inductive Argument
  /-- The two dashes after which all arguments are scripts. -/
  | separator
  | script (path : String)
  /-- A setting with the value that is written with it, if one is. -/
  | setting (s : Setting) (value : Option String)
  | version
  | help
  | bad (fault : UsageFault)
  deriving DecidableEq, Repr

/-- A request that takes no value, written as a long option. -/
def plainRequest (name : String) (value : Option String) (a : Argument) : Argument :=
  if value.isSome then .bad (.unneededValue ("--" ++ name)) else a

/-- The form of an argument that begins with two dashes and has more. -/
def longOption (body : List Char) : Argument :=
  let name := String.ofList (body.takeWhile (· != '='))
  let value := match body.dropWhile (· != '=') with
    | [] => none
    | _ :: cs => some (String.ofList cs)
  match name with
  | "dir" => .setting .dir value
  | "prompt" => .setting .prompt value
  | "log" => .setting .log value
  | "version" => plainRequest name value .version
  | "help" => plainRequest name value .help
  | _ => .bad (.unknown ("--" ++ name))

/-- The form of an argument that begins with one dash and has more. Its first letter decides:
requests settle the matter, and the rest of an option that takes a value is the value. -/
def shortOption (letter : Char) (rest : List Char) : Argument :=
  match letter with
  | 'd' =>
    .setting .dir <| match rest with
      | [] => none
      | '=' :: cs => some (String.ofList cs)
      | cs => some (String.ofList cs)
  | 'V' => .version
  | 'h' => .help
  | c => .bad (.unknown (String.ofList ['-', c]))

/-- The form of an argument. A single dash is a script's name like any other. -/
def classify (arg : String) : Argument :=
  match arg.toList with
  | ['-', '-'] => .separator
  | '-' :: '-' :: body => longOption body
  | '-' :: letter :: rest => shortOption letter rest
  | _ => .script arg

/-- Reads the arguments that are left. -/
def parseFrom (g : Given) : List String → Except UsageFault Request
  | [] => .ok (.run g.options)
  | arg :: rest =>
    match classify arg with
    | .separator => do
      let g ← rest.foldlM (·.set .script ·) g
      return .run g.options
    | .script path => do parseFrom (← g.set .script path) rest
    | .setting s (some value) => do parseFrom (← g.set s value) rest
    | .setting s none =>
      match rest with
      | [] => .error (.missingValue s.name)
      | value :: rest =>
        match classify value with
        | .script _ => do parseFrom (← g.set s value) rest
        | _ => .error (.missingValue s.name)
    | .version => .ok .version
    | .help => .ok .help
    | .bad fault => .error fault

/-- What a list of arguments asks for. -/
def parse (args : List String) : Except UsageFault Request :=
  parseFrom .nothing args

/-- The line that tells the version. -/
def versionLine : String := "tabledb 0.1.0"

/-- The help, line by line. -/
def helpLines : List String := [
  "In-memory tables with select, join and .db file persistence",
  "",
  "Usage: tabledb [OPTIONS] [SCRIPT]",
  "",
  "Arguments:",
  "  [SCRIPT]  Script to run instead of reading standard input",
  "",
  "Options:",
  "  -d, --dir <DIR>        Directory holding the .db files used by load and store [default: .]",
  "      --prompt <PROMPT>  Prompt shown before each statement in interactive sessions [default: \"> \"]",
  "      --log <LOG>        Log filter, e.g. debug",
  "  -h, --help             Print help",
  "  -V, --version          Print version"]

/-- A line of diagnostics. -/
def complaint (text : String) : String :=
  "tabledb: " ++ text

/-! ### Running in a tree of files -/

open Disk (FileTree)

/-- What a run of the program leaves. -/
structure Outcome where
  exitCode : Nat
  output : String
  diagnostics : List String
  files : FileTree

/-- What a session leaves. -/
def Outcome.ofTranscript (t : Session.Transcript) : Outcome :=
  let output := Message.render t.messages
  match t.flow with
  | .goOn | .finish => ⟨0, output, [], t.state.files⟩
  | .stop fault => ⟨1, output, [complaint fault.message], t.state.files⟩
  | .outOfRange => ⟨101, output, [complaint "a value was read out of range"], t.state.files⟩

/-- Runs the program with these arguments, in a tree of files, with nobody at its standard input. -/
def run (args : List String) (input : Text.Bytes) (files : FileTree) : Outcome :=
  match parse args with
  | .error fault => ⟨2, "", ["error: " ++ fault.message], files⟩
  | .ok .version => ⟨0, versionLine ++ "\n", [], files⟩
  | .ok .help => ⟨0, String.join (helpLines.map (· ++ "\n")), [], files⟩
  | .ok (.run options) =>
    let passes : Nat → Passes := fun _ ↦ .arrival
    let state : Session.State := ⟨.empty options.dataDir, files, 0⟩
    Outcome.ofTranscript <| match options.script with
      | some path => Session.runFile passes path state
      | none => Session.run none passes input state

end Tabular.CommandLine
