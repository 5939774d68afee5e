import Bindery.CommandLine.Command
import Bindery.Run.Report

/-!
# Running commands

A command is carried out in two steps.  First it is planned: the inputs are read, the modules
generated, and what is to be printed and delivered is settled, or the run fails.  Then the
deliveries are made.  So a run that fails before its first delivery has printed and written
nothing.
-/

namespace Bindery.CommandLine

/-- The program's name and version. -/
def versionLine : String := "trellis 0.1.0"

/-- What the program can do. -/
def helpLines : List String := [
  "C-linkage binding generator for Qt-style class models",
  "",
  "Usage: trellis [OPTIONS] <COMMAND>",
  "",
  "Commands:",
  "  generate    Generate header and implementation artifacts",
  "  check       Report every construct that would be skipped",
  "  signatures  Print the managed-side signatures of a module",
  "  help        Print this message or the help of the given subcommand(s)",
  "",
  "Options:",
  "  -v, --verbose  Log debug output (overridden by TRELLIS_LOG)",
  "  -h, --help     Print help",
  "  -V, --version  Print version"]

/-- What a command prints by itself, and what it delivers. -/
structure Plan where
  lines : List String
  deliveries : List Delivery
deriving DecidableEq, Repr

/-- The lines of a report on skipped constructs. -/
def checkLines (artifacts : List Artifacts) : List String :=
  let entries := artifacts.flatMap fun a =>
    a.ledger.entries.map fun s => a.module ++ ": " ++ s.text
  entries ++ [toString entries.length ++ " construct(s) skipped"]

/-- The plan of a command. -/
def Command.plan (read : Reader) : Command → Except RunError Plan
  | .generate model config output modules => do
    let ctx ← read.context config model
    let artifacts ← ctx.artifacts modules
    return {
      lines := []
      deliveries := artifacts.map (ctx.delivery (ctx.outputDirectory output)) }
  | .check model config modules => do
    let ctx ← read.context config model
    return { lines := checkLines (← ctx.artifacts modules), deliveries := [] }
  | .signatures model config module => do
    let ctx ← read.context config model
    let signatures ← (ctx.signatures module).mapError RunError.generation
    return { lines := signatures.map ManagedSignature.text, deliveries := [] }
  | .showHelp => .ok { lines := helpLines, deliveries := [] }
  | .showVersion => .ok { lines := [versionLine], deliveries := [] }

/-- The line that reports a written file. -/
def writtenLine (path : String) : String :=
  "Wrote " ++ path

/-- How the program ends. -/
structure Completion where
  exitCode : Nat
  /-- What it printed to standard output. -/
  output : String
  /-- The files it leaves behind. -/
  store : FileStore

/-- A command carried out in a file store. -/
def Command.run (command : Command) (store : FileStore) : Completion :=
  match command.plan store.read? with
  | .error _ => { exitCode := 1, output := "", store }
  | .ok plan =>
    let report := store.deliverAll plan.deliveries
    { exitCode := if report.failure.isSome then 1 else 0
      output := Text.lines (plan.lines ++ report.paths.map writtenLine)
      store := report.store }

/-- The program with these arguments, run in a file store. -/
def run (args : List String) (store : FileStore) : Completion :=
  match Command.ofArguments? args with
  | some command => command.run store
  | none => { exitCode := 2, output := "", store }

end Bindery.CommandLine
