import SymbolSieve.Cli.Flags

namespace SymbolSieve

namespace Cli

inductive Shell where
  | bash
  | fish
  | powerShell
  | zsh
deriving DecidableEq, Repr

def Shell.name : Shell → String
  | .bash => "bash"
  | .fish => "fish"
  | .powerShell => "powershell"
  | .zsh => "zsh"

def Shell.all : List Shell := [.bash, .fish, .powerShell, .zsh]

inductive Command where
  | main
  | complete (describe : Bool)
  | completion
  | script (shell : Shell)
deriving DecidableEq, Repr

def programName : String := "c2filt"

structure Setup where
  requests : Bool := false
  scripts : Bool := false
  shells : Bool := true
deriving DecidableEq, Repr

def Command.name : Command → String
  | .main => programName
  | .complete _ => "__complete"
  | .completion => "completion"
  | .script s => s.name

def Command.calledBy : Command → List String
  | .complete _ => ["__complete", "__completeNoDesc"]
  | c => [c.name]

def Command.children (setup : Setup) : Command → List Command
  | .main => (if setup.requests then [.complete true] else []) ++ (if setup.scripts then [.completion] else [])
  | .completion => if setup.shells then Shell.all.map .script else []
  | _ => []

def Command.child? (setup : Setup) (c : Command) (word : Bytes) : Option Command :=
  (c.children setup).findSome? fun d =>
    if Bytes.ofString "__completeNoDesc" == word && d == .complete true then some (.complete false)
    else if d.calledBy.any (Bytes.ofString · == word) then some d else none

def Command.path : Command → String
  | .main => programName
  | .complete _ => programName ++ " __complete"
  | .completion => programName ++ " completion"
  | .script s => programName ++ " completion " ++ s.name

def noDescriptions : FlagSpec := { name := "no-descriptions", usage := "disable completion descriptions" }

def mainFlags : List FlagSpec :=
  [{ name := "config", short := some 0x63, takesValue := true,
     usage := "config file (default ./.c2filt.yaml if present)" },
   { name := "debug", usage := "log matching and decoding details to stderr" }]

def Command.flags : Command → List FlagSpec
  | .main => mainFlags
  | .script _ => [noDescriptions]
  | _ => []

def Command.runningFlags (c : Command) : List FlagSpec := c.flags ++ [helpFlag c.name]

def Command.runnable : Command → Bool
  | .completion => false
  | _ => true

def Command.hidden : Command → Bool
  | .complete _ => true
  | _ => false

def swallowsNext (flags : List FlagSpec) (s : Bytes) : Bool :=
  match s with
  | 0x2D :: 0x2D :: name =>
    !name.contains 0x3D && !((longFlag? flags name).any (!·.takesValue))
  | [0x2D, c] => c != 0x3D && !((shortFlag? flags c).any (!·.takesValue))
  | _ => false

def wordsOf (flags : List FlagSpec) : Nat → List Bytes → List Bytes
  | 0, _ => []
  | _ + 1, [] => []
  | fuel + 1, s :: rest =>
    if s == Bytes.ofString "--" then []
    else if swallowsNext flags s then
      match rest with
      | [] | [_] => []
      | _ :: more => wordsOf flags fuel more
    else if !s.isEmpty && s.head? != some 0x2D then s :: wordsOf flags fuel rest
    else wordsOf flags fuel rest

def withoutWord (flags : List FlagSpec) (x : Bytes) : Nat → List Bytes → List Bytes
  | 0, args => args
  | _ + 1, [] => []
  | fuel + 1, s :: rest =>
    if s == Bytes.ofString "--" then s :: rest
    else if swallowsNext flags s then
      match rest with
      | [] => [s]
      | v :: more => s :: v :: withoutWord flags x fuel more
    else if s.head? != some 0x2D && s == x then rest
    else s :: withoutWord flags x fuel rest

def Command.find (setup : Setup) : Nat → Command → List Bytes → Command × List Bytes
  | 0, c, args => (c, args)
  | fuel + 1, c, args =>
    match wordsOf c.flags (args.length + 1) args with
    | [] => (c, args)
    | w :: _ =>
      match c.child? setup w with
      | some d => Command.find setup fuel d (withoutWord c.flags w (args.length + 1) args)
      | none => (c, args)

def locate (setup : Setup) (args : List Bytes) : Command × List Bytes :=
  Command.find setup (args.length + 2) .main args

def setupFor (args : List Bytes) : Setup :=
  let requests := match (locate { requests := true } args).1 with
    | .complete _ => true
    | _ => false
  let scripts := !requests && (locate { scripts := true, shells := false } args).1 == .completion
  { requests, scripts }

def Command.short : Command → String
  | .main => "Match and demangle C++ symbols from a symbol dump"
  | .complete _ => "Request shell completion choices for the specified command-line"
  | .completion => "Generate the autocompletion script for the specified shell"
  | .script s => "Generate the autocompletion script for " ++ s.name

def description : String :=
  "c2filt scans lines of text for symbols starting with ten zeros and\n" ++
  "containing \"C2\", demangles each match with c++filt, and writes the\n" ++
  "matches with their demangled form to result.txt in the current directory.\n\n" ++
  "Without an input file, lines are read from standard input."

def Command.long : Command → String
  | .main => description
  | .complete _ =>
    "__complete is a special command that is used by the shell completion logic\n" ++
    "to request completion choices for the specified command-line."
  | .completion =>
    "Generate the autocompletion script for " ++ programName ++ " for the specified shell.\n" ++
    "See each sub-command's help for details on how to use the generated script.\n"
  | .script .bash =>
    "Generate the autocompletion script for the bash shell.\n\n" ++
    "This script depends on the 'bash-completion' package.\n" ++
    "If it is not installed already, you can install it via your OS's package manager.\n\n" ++
    "To load completions in your current shell session:\n\n" ++
    "\tsource <(" ++ programName ++ " completion bash)\n\n" ++
    "To load completions for every new session, execute once:\n\n" ++
    "#### Linux:\n\n" ++
    "\t" ++ programName ++ " completion bash > /etc/bash_completion.d/" ++ programName ++ "\n\n" ++
    "#### macOS:\n\n" ++
    "\t" ++ programName ++ " completion bash > $(brew --prefix)/etc/bash_completion.d/" ++ programName ++ "\n\n" ++
    "You will need to start a new shell for this setup to take effect.\n"
  | .script .zsh =>
    "Generate the autocompletion script for the zsh shell.\n\n" ++
    "If shell completion is not already enabled in your environment you will need\n" ++
    "to enable it.  You can execute the following once:\n\n" ++
    "\techo \"autoload -U compinit; compinit\" >> ~/.zshrc\n\n" ++
    "To load completions in your current shell session:\n\n" ++
    "\tsource <(" ++ programName ++ " completion zsh)\n\n" ++
    "To load completions for every new session, execute once:\n\n" ++
    "#### Linux:\n\n" ++
    "\t" ++ programName ++ " completion zsh > \"$\x7bfpath[1]\x7d/_" ++ programName ++ "\"\n\n" ++
    "#### macOS:\n\n" ++
    "\t" ++ programName ++ " completion zsh > $(brew --prefix)/share/zsh/site-functions/_" ++ programName ++ "\n\n" ++
    "You will need to start a new shell for this setup to take effect.\n"
  | .script .fish =>
    "Generate the autocompletion script for the fish shell.\n\n" ++
    "To load completions in your current shell session:\n\n" ++
    "\t" ++ programName ++ " completion fish | source\n\n" ++
    "To load completions for every new session, execute once:\n\n" ++
    "\t" ++ programName ++ " completion fish > ~/.config/fish/completions/" ++ programName ++ ".fish\n\n" ++
    "You will need to start a new shell for this setup to take effect.\n"
  | .script .powerShell =>
    "Generate the autocompletion script for powershell.\n\n" ++
    "To load completions in your current shell session:\n\n" ++
    "\t" ++ programName ++ " completion powershell | Out-String | Invoke-Expression\n\n" ++
    "To load completions for every new session, add the output of the above command\n" ++
    "to your powershell profile.\n"

def Command.useLine : Command → String
  | .main => "c2filt [input-file] [flags]"
  | .complete _ => programName ++ " __complete [command-line]"
  | .completion => programName ++ " completion [flags]"
  | .script .bash => programName ++ " completion bash"
  | .script s => programName ++ " completion " ++ s.name ++ " [flags]"

def trimEnd (p : Char → Bool) (s : String) : String := String.ofList (s.toList.reverse.dropWhile p).reverse

def padRight (s : String) (width : Nat) : String :=
  s ++ String.ofList (List.replicate (width - s.length) ' ')

def Command.usage (setup : Setup) (c : Command) (withHelp : Bool) : String :=
  let visible := (c.children setup).filter (!·.hidden)
  let flags := if withHelp then c.runningFlags else c.flags
  let width := (visible.map (·.name.length)).foldl max 11
  "Usage:" ++
  (if c.runnable then "\n  " ++ c.useLine else "") ++
  (if visible.isEmpty then "" else "\n  " ++ c.path ++ " [command]") ++
  (if visible.isEmpty then ""
   else "\n\nAvailable Commands:" ++ String.join (visible.map fun d => "\n  " ++ padRight d.name width ++ " " ++ d.short)) ++
  (if flags.isEmpty then "" else "\n\nFlags:\n" ++ trimEnd (· == '\n') (flagUsages flags)) ++
  (if visible.isEmpty then "" else "\n\nUse \"" ++ c.path ++ " [command] --help\" for more information about a command.") ++
  "\n"

def Command.help (setup : Setup) (c : Command) : String :=
  trimEnd Char.isWhitespace c.long ++ "\n\n" ++ c.usage setup true

end Cli

end SymbolSieve
