import SymbolSieve.Yaml.Node
import SymbolSieve.Text.Base64
import SymbolSieve.Text.Blank
import SymbolSieve.Text.Quoted
import SymbolSieve.Fault
import SymbolSieve.Host.Files

namespace SymbolSieve

structure Settings where
  tool : Bytes := []
  args : List Bytes := []
  debug : Bool := false
deriving DecidableEq, Repr

inductive SettingsError where
  | unreadable (path : Bytes) (cause : Fault)
  | invalid (path : Bytes) (detail : Bytes)
deriving Repr

def SettingsError.message : SettingsError → Bytes
  | .unreadable path cause => Bytes.ofString "config: read " ++ path ++ Bytes.ofString ": " ++ cause.message
  | .invalid path detail => Bytes.ofString "config: invalid: " ++ path ++ Bytes.ofString ": " ++ detail

namespace Settings

open Yaml

inductive Meaning where
  | null
  | flag (b : Bool)
  | other
  | text (bytes : Bytes)
deriving DecidableEq, Repr

structure Decoding where
  errors : List Bytes := []
  following : List Nat := []
  claimed : Option (List Bytes) := none
  decoded : Nat := 1
  viaAlias : Nat := 0

abbrev Decode := StateT Decoding (Except String)

def excessiveAliasing (viaAlias decoded : Nat) : Bool :=
  viaAlias > 100 && decoded > 1000 &&
    (if decoded ≤ 400000 then 100 * viaAlias > 99 * decoded
     else if decoded ≥ 4000000 then 10 * viaAlias > decoded
     else decide ((360000000 * viaAlias : Int) > decoded * (356400000 - 89 * ((decoded : Int) - 400000))))

def visit : Decode Unit := do
  let d ← get
  let decoded := d.decoded + 1
  let viaAlias := if d.following.isEmpty then d.viaAlias else d.viaAlias + 1
  set { d with decoded := decoded, viaAlias := viaAlias }
  if excessiveAliasing viaAlias decoded then throw "document contains excessive aliasing"

def tagOf : Node → String
  | .scalar t _ _ | .sequence t _ _ | .mapping t _ _ => t
  | .alias .. => ""

def mismatch (line : Bytes) : Decode Unit :=
  modify fun d => { d with errors := d.errors ++ [line] }

def typeError (n : Node) (target : String) : Decode Unit :=
  let tag := tagOf n
  let value := Bytes.ofString n.text
  let shown : Bytes :=
    if tag == "!!seq" || tag == "!!map" then []
    else if value.length > 10 then Bytes.ofString " `" ++ value.take 7 ++ Bytes.ofString "...`"
    else Bytes.ofString " `" ++ value ++ Bytes.ofString "`"
  mismatch (Bytes.ofString ("line " ++ toString n.line ++ ": cannot unmarshal " ++ shortTag tag) ++
    shown ++ Bytes.ofString (" into " ++ target))

def meaning (tag value : String) : Decode (String × Meaning) :=
  if tag == "!!str" then pure ("!!str", .text (Bytes.ofString value))
  else
    match resolve tag value with
    | .error m => throw m
    | .ok (rtag, r) =>
      if rtag == "!!binary" then
        match Base64.decode? (Bytes.ofString value) with
        | some bytes => pure (rtag, .text bytes)
        | none => throw "!!binary value contains invalid base64 data"
      else
        match r with
        | .null => pure (rtag, .null)
        | .bool b => pure (rtag, .flag b)
        | .other => pure (rtag, .other)
        | .text s => pure (rtag, .text (Bytes.ofString s))

def repeatedKeys (pairs : List (Node × Node)) : List Bytes :=
  let keys := pairs.map (·.1)
  (keys.zipIdx).flatMap fun (a, i) =>
    ((keys.drop (i + 1)).filter a.sameKey).map fun b =>
      Bytes.ofString ("line " ++ toString b.line ++ ": mapping key ") ++ Text.quote (Bytes.ofString b.text) ++
        Bytes.ofString (" already defined at line " ++ toString a.line)

def checkKeys (pairs : List (Node × Node)) : Decode Bool := do
  let repeated := repeatedKeys pairs
  repeated.forM mismatch
  pure repeated.isEmpty

def follow {α : Type} (doc : Document) (name : String) (anchor id : Nat) (k : Node → Decode α) :
    Decode α := do
  if (← get).following.contains id then throw ("anchor '" ++ name ++ "' value contains itself")
  match doc.target? anchor with
  | none => throw ("unknown anchor '" ++ name ++ "' referenced")
  | some target =>
    modify fun d => { d with following := id :: d.following }
    let r ← k target
    modify fun d => { d with following := d.following.erase id }
    pure r

def tooDeep : String := "document nests too deeply"

def olderBooleans : List (String × Bool) :=
  [("y", true), ("Y", true), ("yes", true), ("Yes", true), ("YES", true), ("on", true), ("On", true),
   ("ON", true), ("n", false), ("N", false), ("no", false), ("No", false), ("NO", false),
   ("off", false), ("Off", false), ("OFF", false)]

def isMerge : Node → Bool
  | .scalar tag value _ => value == "<<" && (tag == "" || tag == "!" || tag == "!!merge")
  | _ => false

def fieldNames : List Bytes := [Bytes.ofString "tool", Bytes.ofString "args", Bytes.ofString "debug"]

mutual

def text (doc : Document) : Nat → Node → Decode (Option Bytes)
  | 0, _ => throw tooDeep
  | fuel + 1, n => do
    visit
    match n with
    | .scalar tag value _ => do
      match (← meaning tag value).2 with
      | .null => pure none
      | .text bytes => pure (some bytes)
      | _ => pure (some (Bytes.ofString value))
    | .sequence .. => do typeError n "string"; pure none
    | .mapping _ pairs _ => do
      if ← checkKeys pairs then typeError n "string"
      pure none
    | .alias name anchor id _ => follow doc name anchor id (text doc fuel)

def flag (doc : Document) : Nat → Node → Decode (Option Bool)
  | 0, _ => throw tooDeep
  | fuel + 1, n => do
    visit
    match n with
    | .scalar tag value _ => do
      match (← meaning tag value).2 with
      | .null => pure none
      | .flag b => pure (some b)
      | .text bytes =>
        match olderBooleans.find? (fun (w, _) => Bytes.ofString w == bytes) with
        | some (_, b) => pure (some b)
        | none => do typeError n "bool"; pure none
      | .other => do typeError n "bool"; pure none
    | .sequence .. => do typeError n "bool"; pure none
    | .mapping _ pairs _ => do
      if ← checkKeys pairs then typeError n "bool"
      pure none
    | .alias name anchor id _ => follow doc name anchor id (flag doc fuel)

def texts (doc : Document) : Nat → Node → Decode (Option (List Bytes))
  | 0, _ => throw tooDeep
  | fuel + 1, n => do
    visit
    match n with
    | .scalar tag value _ => do
      match (← meaning tag value).2 with
      | .null => pure (some [])
      | _ => do typeError n "[]string"; pure none
    | .sequence _ items _ => do
      let decoded ← items.mapM (text doc fuel)
      pure (some decoded.reduceOption)
    | .mapping _ pairs _ => do
      if ← checkKeys pairs then typeError n "[]string"
      pure none
    | .alias name anchor id _ => follow doc name anchor id (texts doc fuel)

def textKeys (doc : Document) : Nat → List (Node × Node) → Decode (List Bytes)
  | 0, _ => throw tooDeep
  | fuel + 1, pairs => do
    let keys ← pairs.mapM fun (k, _) => keyText doc fuel k
    pure keys.reduceOption

def keyText (doc : Document) : Nat → Node → Decode (Option Bytes)
  | 0, _ => throw tooDeep
  | fuel + 1, n => do
    visit
    match n with
    | .scalar tag value _ => do
      let (rtag, m) ← meaning tag value
      match m with
      | .text bytes => pure (some bytes)
      | _ => pure (if rtag == "!!timestamp" then some (Bytes.ofString value) else none)
    | .alias name anchor id _ => follow doc name anchor id (keyText doc fuel)
    | .sequence _ items _ => do
      items.forM fun i => do discard (keyText doc fuel i)
      pure none
    | .mapping _ pairs _ => do
      if (repeatedKeys pairs).isEmpty then
        pairs.forM fun (k, v) => do
          discard (keyText doc fuel k)
          discard (keyText doc fuel v)
      pure none

def into (doc : Document) : Nat → Node → Settings → Decode Settings
  | 0, _, _ => throw tooDeep
  | fuel + 1, n, cfg => do
    visit
    match n with
    | .scalar tag value _ => do
      match (← meaning tag value).2 with
      | .null => pure cfg
      | _ => do typeError n "config.Config"; pure cfg
    | .sequence .. => do typeError n "config.Config"; pure cfg
    | .mapping _ pairs _ => do
      if ← checkKeys pairs then fields doc fuel pairs cfg else pure cfg
    | .alias name anchor id _ => follow doc name anchor id (fun t => into doc fuel t cfg)

def fields (doc : Document) : Nat → List (Node × Node) → Settings → Decode Settings
  | 0, _, _ => throw tooDeep
  | fuel + 1, pairs, cfg => do
    let outer := (← get).claimed
    modify fun d => { d with claimed := none }
    let step := fun (acc : Settings × List Bytes × Option (List Bytes) × Option Node)
        (pair : Node × Node) => do
      let (cfg, done, claimed, merge) := acc
      let (k, v) := pair
      if isMerge k then return (cfg, done, claimed, some v)
      let some name ← text doc fuel k | return acc
      let claimed ← match claimed with
        | some set => if set.contains name then return acc else pure (some (name :: set))
        | none => pure none
      if fieldNames.contains name then
        if done.contains name then
          mismatch (Bytes.ofString ("line " ++ toString k.line ++ ": field ") ++ name ++
            Bytes.ofString " already set in type config.Config")
          return (cfg, done, claimed, merge)
        let cfg ← field doc fuel name v cfg
        pure (cfg, name :: done, claimed, merge)
      else
        mismatch (Bytes.ofString ("line " ++ toString k.line ++ ": field ") ++ name ++
          Bytes.ofString " not found in type config.Config")
        pure (cfg, done, claimed, merge)
    let (cfg, _, claimed, merge) ← pairs.foldlM step (cfg, [], outer, none)
    modify fun d => { d with claimed := claimed }
    match merge with
    | some m => mergeInto doc fuel pairs m cfg
    | none => pure cfg

def field (doc : Document) : Nat → Bytes → Node → Settings → Decode Settings
  | 0, _, _, _ => throw tooDeep
  | fuel + 1, name, v, cfg =>
    if name == Bytes.ofString "tool" then do
      pure (match ← text doc fuel v with
        | some t => { cfg with tool := t }
        | none => cfg)
    else if name == Bytes.ofString "args" then do
      pure (match ← texts doc fuel v with
        | some xs => { cfg with args := xs }
        | none => cfg)
    else do
      pure (match ← flag doc fuel v with
        | some b => { cfg with debug := b }
        | none => cfg)

def mergeInto (doc : Document) : Nat → List (Node × Node) → Node → Settings → Decode Settings
  | 0, _, _, _ => throw tooDeep
  | fuel + 1, pairs, m, cfg => do
    let outer := (← get).claimed
    if outer.isNone then
      let keys ← textKeys doc fuel pairs
      modify fun d => { d with claimed := some keys }
    let wantMap : Decode Settings := throw "map merge requires map or sequence of maps as the value"
    let isMapping := fun (n : Node) => match n with
      | .mapping .. => true
      | .alias _ anchor _ _ => match doc.target? anchor with
        | some (.mapping ..) | none => true
        | _ => false
      | _ => false
    let cfg ← match m with
      | .mapping .. => into doc fuel m cfg
      | .alias .. => if isMapping m then into doc fuel m cfg else wantMap
      | .sequence _ items _ =>
        items.foldlM (fun cfg item => if isMapping item then into doc fuel item cfg else wantMap) cfg
      | _ => wantMap
    modify fun d => { d with claimed := outer }
    pure cfg

end

def ofYaml (bytes : Bytes) : Except Bytes Settings :=
  match firstDocument bytes with
  | .error f => .error (Bytes.ofString f.message)
  | .ok none => .ok {}
  | .ok (some doc) =>
    let fuel := (bytes.length + 2) * (bytes.length + 2)
    match (into doc fuel doc.root {}).run {} with
    | .error m => .error (Bytes.ofString ("yaml: " ++ m))
    | .ok (cfg, d) =>
      if d.errors.isEmpty then .ok cfg
      else
        .error (Bytes.ofString "yaml: unmarshal errors:\n  " ++
          (d.errors.intersperse (Bytes.ofString "\n  ")).flatten)

def firstEmpty (args : List Bytes) : Option Nat := args.findIdx? (· == [])

def parse (path : Bytes) (bytes : Bytes) : Except SettingsError Settings :=
  match ofYaml bytes with
  | .error detail => .error (.invalid path detail)
  | .ok cfg =>
    match firstEmpty cfg.args with
    | some i => .error (.invalid path (Bytes.ofString ("args[" ++ toString i ++ "] is empty")))
    | none => .ok { cfg with tool := Text.trim cfg.tool }

def defaultPath : Bytes := Bytes.ofString ".c2filt.yaml"

def load (fs : Files) (path : Bytes) : Except SettingsError Settings :=
  match fs.readAll path with
  | .error f => .error (.unreadable path f)
  | .ok bytes => parse path bytes

def loadDefault (fs : Files) : Except SettingsError Settings :=
  match load fs defaultPath with
  | .error (.unreadable _ f) => if f.is .notExist then .ok {} else .error (.unreadable defaultPath f)
  | r => r

end Settings

end SymbolSieve
