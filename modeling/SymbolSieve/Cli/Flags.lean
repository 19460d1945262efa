import SymbolSieve.Text.Quoted

namespace SymbolSieve

namespace Cli

structure FlagSpec where
  name : String
  short : Option UInt8 := none
  takesValue : Bool := false
  usage : String
deriving DecidableEq, Repr

def helpFlag (command : String) : FlagSpec := { name := "help", short := some 0x68, usage := "help for " ++ command }

structure Parsed where
  values : List (String × Bytes) := []
  operands : List Bytes := []
deriving DecidableEq, Repr

def Parsed.get? (p : Parsed) (name : String) : Option Bytes :=
  (p.values.reverse.find? (·.1 == name)).map (·.2)

def Parsed.isOn (p : Parsed) (name : String) : Bool := p.get? name == some (Bytes.ofString "true")

def Parsed.given (p : Parsed) (name : String) : Bool := (p.get? name).isSome

def parseBool (v : Bytes) : Option Bool :=
  let spellings : List (String × Bool) :=
    [("1", true), ("t", true), ("T", true), ("TRUE", true), ("true", true), ("True", true),
     ("0", false), ("f", false), ("F", false), ("FALSE", false), ("false", false), ("False", false)]
  (spellings.find? (fun (s, _) => Bytes.ofString s == v)).map (·.2)

def FlagSpec.label (f : FlagSpec) : String :=
  match f.short with
  | some c => "-" ++ (Char.ofNat c.toNat).toString ++ ", --" ++ f.name
  | none => "--" ++ f.name

def quoteChar (c : UInt8) : Bytes :=
  let inner := (Text.quote [c]).drop 1 |>.dropLast
  let inner := if c == 0x22 then [0x22] else if c == 0x27 then [0x5C, 0x27] else inner
  let inner := if c ≥ 0x80 then (Text.quote (Utf8.encode [.char (Char.ofNat c.toNat)])).drop 1 |>.dropLast
    else inner
  [0x27] ++ inner ++ [0x27]

def Parsed.set (p : Parsed) (f : FlagSpec) (value : Bytes) : Except Bytes Parsed :=
  if f.takesValue then .ok { p with values := p.values ++ [(f.name, value)] }
  else
    match parseBool value with
    | some b => .ok { p with values := p.values ++ [(f.name, Bytes.ofString (toString b))] }
    | none =>
      .error (Bytes.ofString "invalid argument " ++ Text.quote value ++ Bytes.ofString " for " ++
        Text.quote (Bytes.ofString f.label) ++ Bytes.ofString " flag: strconv.ParseBool: parsing " ++
        Text.quote value ++ Bytes.ofString ": invalid syntax")

def longFlag? (table : List FlagSpec) (name : Bytes) : Option FlagSpec :=
  table.find? (Bytes.ofString ·.name == name)

def shortFlag? (table : List FlagSpec) (c : UInt8) : Option FlagSpec :=
  table.find? (·.short == some c)

def shorts (table : List FlagSpec) : Nat → Bytes → List Bytes → Parsed → List Bytes →
    Except Bytes (Parsed × List Bytes)
  | 0, _, _, p, left => .ok (p, left)
  | _ + 1, [], _, p, left => .ok (p, left)
  | fuel + 1, c :: more, args, p, _ =>
    let sh := c :: more
    match shortFlag? table c with
    | none =>
      .error (Bytes.ofString "unknown shorthand flag: " ++ quoteChar c ++ Bytes.ofString " in -" ++ sh)
    | some f =>
      match more with
      | 0x3D :: v@(_ :: _) => do
        let p ← p.set f v
        .ok (p, args)
      | _ =>
        if !f.takesValue then do
          let p ← p.set f (Bytes.ofString "true")
          shorts table fuel more args p args
        else if !more.isEmpty then do
          let p ← p.set f more
          .ok (p, args)
        else
          match args with
          | v :: rest => do
            let p ← p.set f v
            .ok (p, rest)
          | [] =>
            .error (Bytes.ofString "flag needs an argument: " ++ quoteChar c ++ Bytes.ofString " in -" ++ sh)

def parseWith (table : List FlagSpec) : Nat → List Bytes → Parsed → Except Bytes Parsed
  | 0, _, p => .ok p
  | _ + 1, [], p => .ok p
  | fuel + 1, s :: rest, p =>
    match s with
    | 0x2D :: 0x2D :: name =>
      if name.isEmpty then .ok { p with operands := p.operands ++ rest }
      else if name.head? == some 0x2D || name.head? == some 0x3D then
        .error (Bytes.ofString "bad flag syntax: " ++ s)
      else
        let key := name.takeWhile (· != 0x3D)
        let value := if key.length < name.length then some (name.drop (key.length + 1)) else none
        match longFlag? table key with
        | none => .error (Bytes.ofString "unknown flag: --" ++ key)
        | some f =>
          match value with
          | some v => do parseWith table fuel rest (← p.set f v)
          | none =>
            if !f.takesValue then do parseWith table fuel rest (← p.set f (Bytes.ofString "true"))
            else
              match rest with
              | v :: more => do parseWith table fuel more (← p.set f v)
              | [] => .error (Bytes.ofString "flag needs an argument: " ++ s)
    | 0x2D :: cluster@(_ :: _) => do
      let (p, rest) ← shorts table (cluster.length + 1) cluster rest p rest
      parseWith table fuel rest p
    | _ => parseWith table fuel rest { p with operands := p.operands ++ [s] }

def parse (table : List FlagSpec) (args : List Bytes) : Except Bytes Parsed :=
  parseWith table (args.length + 1) args {}

def FlagSpec.head (f : FlagSpec) : String :=
  (match f.short with
    | some c => "  -" ++ (Char.ofNat c.toNat).toString ++ ", --" ++ f.name
    | none => "      --" ++ f.name) ++
  (if f.takesValue then " string" else "")

def flagUsages (table : List FlagSpec) : String :=
  let sorted := table.mergeSort (fun a b => decide (a.name ≤ b.name))
  let width := (sorted.map (·.head.length)).foldl max 0
  String.join (sorted.map fun f =>
    f.head ++ String.ofList (List.replicate (width - f.head.length + 3) ' ') ++ f.usage ++ "\n")

end Cli

end SymbolSieve
