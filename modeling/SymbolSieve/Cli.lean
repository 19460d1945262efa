import SymbolSieve.Settings
import SymbolSieve.Tool
import SymbolSieve.Job
import SymbolSieve.Log
import SymbolSieve.Cli.Complete
import SymbolSieve.Cli.Script.Bash
import SymbolSieve.Cli.Script.Zsh
import SymbolSieve.Cli.Script.Fish
import SymbolSieve.Cli.Script.PowerShell

namespace SymbolSieve

namespace Cli

def prompt : String := "Reading from stdin (press Ctrl+D to end input on Unix, Ctrl+Z on Windows):"

structure Exit where
  code : Nat
  stdout : Bytes := []
  stderr : Bytes := []
  files : Files

def outputFile : Bytes := Bytes.ofString "result.txt"

structure Options where
  config : Bytes := []
  debug : Bool := false
  help : Bool := false
  operands : List Bytes := []
deriving DecidableEq, Repr

def Options.ofArgs (args : List Bytes) : Except Bytes Options := do
  let p ← parse Command.main.runningFlags args
  pure { config := (p.get? "config").getD [], debug := p.isOn "debug", help := p.isOn "help",
         operands := p.operands }

def Options.files (o : Options) : List Bytes := [o.config, o.operands.headD []]

def usageError (setup : Setup) (withHelp : Bool) (fs : Files) (message : Bytes) : Exit :=
  { code := 2, files := fs,
    stderr := Bytes.ofString "Error: " ++ message ++ Bytes.ofString ("\n" ++ Command.main.usage setup withHelp) }

def runJob (o : Options) (stdin : Bytes) (fs : Files) (clock : Bytes) : Exit :=
  let settings := if o.config.isEmpty then Settings.loadDefault fs else Settings.load fs o.config
  match settings with
  | .error e => { code := 2, files := fs, stderr := Bytes.ofString "Error: " ++ e.message ++ [0x0A] }
  | .ok cfg =>
    let debug := cfg.debug || o.debug
    let tool : Tool := { path := cfg.tool, args := cfg.args }
    let input := o.operands.headD []
    let stdout := if o.operands.isEmpty then Bytes.ofString (prompt ++ "\n") else []
    let job : Job := { input, output := outputFile }
    let r := job.run fs (some (tool.decoder, fs)) { data := stdin } false
    let started : LogLine := ⟨Bytes.ofString "run started",
      [("input", .text input), ("output", .text outputFile), ("tool", .text tool.name)]⟩
    let finished : LogLine := ⟨Bytes.ofString "run finished",
      [("lines", .number r.tally.lines), ("matched", .number r.tally.matched),
       ("decoded", .number r.tally.decoded), ("failed", .number r.tally.failed)]⟩
    let log := if debug then
        (started :: r.notes.map Note.logLine ++ [finished]).flatMap (·.render clock)
      else []
    let (code, message) : Nat × Bytes := match r.fault with
      | none => (0, [])
      | some f =>
        match f.kind with
        | .notFound => (1, Bytes.ofString "File '" ++ input ++ Bytes.ofString "' not found.")
        | .toolMissing => (127, tool.name ++ Bytes.ofString " not found. Please ensure it is installed.")
        | _ => if f.is .canceled then (130, Bytes.ofString "interrupted") else (1, f.message)
    let stderr := log ++ (if code == 0 then [] else Bytes.ofString "Error: " ++ message ++ [0x0A])
    { code, stdout, stderr, files := r.files }

def Shell.script (s : Shell) (describe : Bool) : String :=
  let names := ScriptNames.ofProgram programName describe
  match s with
  | .bash => bashScript names
  | .zsh => zshScript names
  | .fish => fishScript names
  | .powerShell => powerShellScript names

def answerRequest (describe : Bool) (words : List Bytes) (fs : Files) : Exit :=
  let a := answerFor words
  let lines := a.candidates.map fun c => Answer.line describe c ++ "\n"
  let reported := match a.error with
    | some e => Bytes.ofString "[Debug] [Error] " ++ e ++ [0x0A]
    | none => []
  { code := 0, files := fs,
    stdout := Bytes.ofString (String.join lines ++ ":" ++ toString a.directive ++ "\n"),
    stderr := reported ++ Bytes.ofString ("Completion ended with directive: " ++ directiveName a.directive ++ "\n") }

def run (args : List Bytes) (stdin : Bytes) (fs : Files) (clock : Bytes) : Exit :=
  let setup := setupFor args
  match locate setup args with
  | (.main, rest) =>
    match Options.ofArgs rest with
    | .error m => usageError setup true fs m
    | .ok o =>
      if o.help then { code := 0, files := fs, stdout := Bytes.ofString (Command.main.help setup) }
      else if o.operands.length > 1 then
        usageError setup true fs
          (Bytes.ofString ("accepts at most 1 arg(s), received " ++ toString o.operands.length))
      else runJob o stdin fs clock
  | (.complete describe, rest) =>
    if rest.isEmpty then usageError setup false fs (Bytes.ofString "requires at least 1 arg(s), only received 0")
    else answerRequest describe rest fs
  | (.completion, rest) =>
    match parse Command.completion.runningFlags rest with
    | .error m => usageError setup false fs m
    | .ok _ => { code := 0, files := fs, stdout := Bytes.ofString (Command.completion.help setup) }
  | (.script s, rest) =>
    match parse (Command.script s).runningFlags rest with
    | .error m => usageError setup false fs m
    | .ok p =>
      if p.isOn "help" then { code := 0, files := fs, stdout := Bytes.ofString ((Command.script s).help setup) }
      else match p.operands with
        | w :: _ =>
          usageError setup false fs (Bytes.ofString "unknown command " ++ Text.quote w ++ Bytes.ofString " for " ++
            Text.quote (Bytes.ofString (Command.script s).path))
        | [] => { code := 0, files := fs, stdout := Bytes.ofString (s.script (!p.isOn "no-descriptions")) }

end Cli

end SymbolSieve
