import Bindery.Text.Basic

/-!
# Options

The options of a command line, read from left to right.  A long option takes its value from the
next argument or after an equals sign; short options may be run together, and the first that takes
a value takes the rest of its argument, if there is any.  Names are never abbreviated.

Reading ends at the first argument that is no option, at the end, or with the first thing that is
wrong; a request for help or for the version ends it too.
-/

namespace Bindery.CommandLine

/-- What an option does. -/
inductive OptionKind where
  /-- Is given or not. -/
  | flag
  /-- Has a value, and may be given once. -/
  | single (mayBeEmpty : Bool)
  /-- Has a value, and may be given again. -/
  | repeated
  | help
  | version
deriving DecidableEq, Repr

/-- An option. -/
structure OptionSpec where
  long : String
  short : Option Char
  kind : OptionKind
deriving DecidableEq, Repr

/-- Whether an option has a value. -/
def OptionSpec.takesValue (o : OptionSpec) : Bool :=
  match o.kind with
  | .single _ | .repeated => true
  | _ => false

/-- Why reading ends early. -/
inductive Halt where
  /-- The arguments are wrong. -/
  | usage
  | help
  | version
deriving DecidableEq, Repr

/-- Options that were given, by long name, with their values; a flag has an empty one. -/
abbrev Given := List (String × String)

/-- The options after one more is given. -/
def give (o : OptionSpec) (value : String) (given : Given) : Except Halt Given :=
  match o.kind with
  | .help => .error .help
  | .version => .error .version
  | .repeated => .ok (given ++ [(o.long, value)])
  | .flag =>
    if (given.lookup o.long).isSome then .error .usage else .ok (given ++ [(o.long, value)])
  | .single mayBeEmpty =>
    if (given.lookup o.long).isSome || (!mayBeEmpty && value == "") then .error .usage
    else .ok (given ++ [(o.long, value)])

/-- What an argument leaves behind: the options so far, and one that waits for its value. -/
structure Progress where
  given : Given
  waiting : Option OptionSpec

/-- The progress after a long option, without its dashes. -/
def readLong (options : List OptionSpec) (given : Given) (arg : String) : Except Halt Progress :=
  let (name, attached) := match Text.cutFirst? "=" arg with
    | some (name, value) => (name, some value)
    | none => (arg, none)
  match options.find? (·.long == name), attached with
  | none, _ => .error .usage
  | some o, some value =>
    if o.takesValue then (give o value given).map (⟨·, none⟩) else .error .usage
  | some o, none =>
    if o.takesValue then .ok ⟨given, some o⟩ else (give o "" given).map (⟨·, none⟩)

/-- The progress after short options, without their dash. -/
def readShort (options : List OptionSpec) (given : Given) : List Char → Except Halt Progress
  | [] => .ok ⟨given, none⟩
  | c :: rest =>
    match options.find? (·.short == some c) with
    | none => .error .usage
    | some o =>
      if o.takesValue then
        match rest with
        | [] => .ok ⟨given, some o⟩
        | '=' :: value => (give o (String.ofList value) given).map (⟨·, none⟩)
        | value => (give o (String.ofList value) given).map (⟨·, none⟩)
      else (give o "" given).bind fun given => readShort options given rest

/-- The options at the front of the arguments, and the arguments from the first one that is no
option.  After `--` no argument is an option. -/
def readOptions (options : List OptionSpec) (progress : Progress) :
    List String → Except Halt (Given × List String)
  | [] => if progress.waiting.isSome then .error .usage else .ok (progress.given, [])
  | arg :: rest =>
    match arg.toList, progress.waiting with
    | ['-', '-'], none => if rest.isEmpty then .ok (progress.given, []) else .error .usage
    | '-' :: _ :: _, some _ => .error .usage
    | '-' :: '-' :: name, none =>
      (readLong options progress.given (String.ofList name)).bind fun progress =>
        readOptions options progress rest
    | '-' :: c :: cs, none =>
      (readShort options progress.given (c :: cs)).bind fun progress =>
        readOptions options progress rest
    | _, some o =>
      (give o arg progress.given).bind fun given => readOptions options ⟨given, none⟩ rest
    | _, none => .ok (progress.given, arg :: rest)

/-- All values of an option. -/
def values (given : Given) (long : String) : List String :=
  (given.filter (·.1 == long)).map Prod.snd

/-- The value of an option that has to be given. -/
def required (given : Given) (long : String) : Except Halt String :=
  match given.lookup long with
  | some value => .ok value
  | none => .error .usage

end Bindery.CommandLine
