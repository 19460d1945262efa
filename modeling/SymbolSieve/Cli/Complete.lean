import SymbolSieve.Cli.Command

namespace SymbolSieve

namespace Cli

structure Answer where
  candidates : List String := []
  directive : Nat := 0
  error : Option Bytes := none
deriving DecidableEq, Repr

def noFileCompletion : Nat := 4

def directiveName (d : Nat) : String :=
  let names := [(1, "ShellCompDirectiveError"), (2, "ShellCompDirectiveNoSpace"),
    (4, "ShellCompDirectiveNoFileComp"), (8, "ShellCompDirectiveFilterFileExt"),
    (16, "ShellCompDirectiveFilterDirs"), (32, "ShellCompDirectiveKeepOrder")]
  let set := (names.filter fun (bit, _) => d / bit % 2 == 1).map (·.2)
  if d ≥ 64 then "ERROR: unexpected ShellCompDirective value: " ++ toString d
  else if set.isEmpty then "ShellCompDirectiveDefault"
  else ", ".intercalate set

def looksLikeFlag (s : Bytes) : Bool :=
  match s with
  | 0x2D :: 0x2D :: _ :: _ => true
  | 0x2D :: c :: _ => c != 0x2D
  | _ => false

def flagNamed? (table : List FlagSpec) (name : Bytes) : Option FlagSpec :=
  match name with
  | [c] => shortFlag? table c
  | _ => longFlag? table name

def flagTarget (table : List FlagSpec) (args : List Bytes) (last : Bytes) :
    Option FlagSpec × List Bytes × Bytes × Option Bytes :=
  let fromWord : Option (Bytes × Bytes) :=
    if last.head? == some 0x2D then
      match last.findIdx? (· == 0x3D) with
      | some i =>
        let name := if (last.take i).take 2 == [0x2D, 0x2D] then (last.take i).drop 2 else (last.take i).drop (i - 1)
        some (name, last.drop (i + 1))
      | none => none
    else none
  if last.head? == some 0x2D && fromWord.isNone then (none, args, last, none)
  else
    let withEqual := fromWord.isSome
    let (name, rest, trimmed) : Bytes × Bytes × List Bytes := match fromWord with
      | some (n, r) => (n, r, args)
      | none => ([], last, args)
    let (name, trimmed) : Bytes × List Bytes :=
      if !name.isEmpty then (name, trimmed)
      else match args.getLast? with
        | some prev =>
          if looksLikeFlag prev && !prev.contains 0x3D then
            ((if prev.take 2 == [0x2D, 0x2D] then prev.drop 2 else [prev.getLast?.getD 0]), args.dropLast)
          else ([], trimmed)
        | none => ([], trimmed)
    if name.isEmpty then (none, trimmed, rest, none)
    else
      match flagNamed? table name with
      | none =>
        (none, args, last, some (Bytes.ofString ("subcommand '" ++ programName ++ "' does not support flag '") ++
          name ++ Bytes.ofString "'"))
      | some f =>
        if !withEqual && !f.takesValue then (none, args, rest, none)
        else (some f, trimmed, rest, none)

def showArgs (args : List Bytes) : Bytes :=
  [0x5B] ++ (args.intersperse [0x20]).flatten ++ [0x5D]

def flagCandidates (f : FlagSpec) (word : Bytes) : List String :=
  let long := "--" ++ f.name
  let short := match f.short with
    | some c => ["-" ++ (Char.ofNat c.toNat).toString]
    | none => []
  ((long :: short).filter fun n => word.isPrefixOf (Bytes.ofString n)).map (· ++ "\t" ++ f.usage)

def answerFor (words : List Bytes) : Answer :=
  let table := Command.main.runningFlags
  let last := words.getLast?.getD []
  let typed := words.dropLast
  let (flag, args, word, flagError) := flagTarget table typed last
  let counted := (parse table (args ++ [Bytes.ofString "--"])).toOption.map (·.operands.length)
  match parse table args with
  | .error e =>
    { error := some (Bytes.ofString "Error while parsing flags from args " ++ showArgs args ++
        Bytes.ofString ": " ++ e) }
  | .ok p =>
    let flagCompletion := !(counted.getD 0 > p.operands.length)
    match flagError.filter (fun _ => flagCompletion) with
    | some e => { error := some e }
    | none =>
      if p.given "help" then { directive := noFileCompletion }
      else if flag.isNone && word.head? == some 0x2D && !word.contains 0x3D && flagCompletion then
        let sorted := table.mergeSort (fun a b => decide (a.name ≤ b.name))
        let found := sorted.flatMap fun f => if p.given f.name then [] else flagCandidates f word
        { candidates := found, directive := noFileCompletion }
      else { }

def Answer.line (describe : Bool) (candidate : String) : String :=
  let c := if describe then candidate else (candidate.splitOn "\t").headD ""
  let c := (c.splitOn "\n").headD ""
  c.trimAscii.toString

end Cli

end SymbolSieve
