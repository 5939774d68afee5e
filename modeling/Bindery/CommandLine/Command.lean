import Bindery.CommandLine.Options

/-!
# Commands

What the program can be asked to do, and how a list of arguments asks for it.  The flag
`--verbose` is understood by every command and changes nothing that is printed or written.
-/

namespace Bindery.CommandLine

/-- What the program is asked to do. -/
inductive Command where
  /-- Write the artifacts of the modules. -/
  | generate (model : String) (config output : Option String) (modules : List String)
  /-- Report what would be skipped. -/
  | check (model : String) (config : Option String) (modules : List String)
  /-- Print the managed declarations of one module. -/
  | signatures (model : String) (config : Option String) (module : String)
  | showHelp
  | showVersion
deriving DecidableEq, Repr

/-- The option that every command understands. -/
def verboseOption : OptionSpec := ⟨"verbose", some 'v', .flag⟩

/-- The option that asks for help. -/
def helpOption : OptionSpec := ⟨"help", some 'h', .help⟩

/-- The options in front of a command. -/
def programOptions : List OptionSpec :=
  [verboseOption, helpOption, ⟨"version", some 'V', .version⟩]

/-- The options that name the input of a command. -/
def inputOptions : List OptionSpec :=
  [⟨"model", some 'm', .single false⟩, ⟨"config", some 'c', .single false⟩, verboseOption,
    helpOption]

/-- The options of `generate`. -/
def generateOptions : List OptionSpec :=
  inputOptions ++ [⟨"output", some 'o', .single false⟩, ⟨"module", none, .repeated⟩]

/-- The options of `check`. -/
def checkOptions : List OptionSpec :=
  inputOptions ++ [⟨"module", none, .repeated⟩]

/-- The options of `signatures`. -/
def signaturesOptions : List OptionSpec :=
  inputOptions ++ [⟨"module", none, .single true⟩]

/-- The options of a command, which takes no other arguments. -/
def commandOptions (options : List OptionSpec) (args : List String) : Except Halt Given :=
  (readOptions options ⟨[], none⟩ args).bind fun (given, rest) =>
    if rest.isEmpty then .ok given else .error .usage

/-- The names of the commands, with that of the one that explains the others. -/
def commandNames : List String :=
  ["generate", "check", "signatures", "help"]

/-- The command of a name with its arguments. -/
def readCommand (name : String) (args : List String) : Except Halt Command :=
  match name with
  | "generate" => do
    let given ← commandOptions generateOptions args
    return .generate (← required given "model") (given.lookup "config") (given.lookup "output")
      (values given "module")
  | "check" => do
    let given ← commandOptions checkOptions args
    return .check (← required given "model") (given.lookup "config") (values given "module")
  | "signatures" => do
    let given ← commandOptions signaturesOptions args
    return .signatures (← required given "model") (given.lookup "config")
      (← required given "module")
  | "help" =>
    match args with
    | [] => .error .help
    | [name] => .error (if commandNames.contains name then .help else .usage)
    | _ => .error .usage
  | _ => .error .usage

/-- What the arguments ask for; nothing if they are wrong. -/
def Command.ofArguments? (args : List String) : Option Command :=
  let command := (readOptions programOptions ⟨[], none⟩ args).bind fun (_, rest) =>
    match rest with
    | name :: rest => readCommand name rest
    | [] => .error .usage
  match command with
  | .ok command => some command
  | .error .help => some .showHelp
  | .error .version => some .showVersion
  | .error .usage => none

end Bindery.CommandLine
