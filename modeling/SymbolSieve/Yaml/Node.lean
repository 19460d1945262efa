import SymbolSieve.Yaml.Input
import SymbolSieve.Yaml.Event
import SymbolSieve.Yaml.Scalar

namespace SymbolSieve

namespace Yaml

inductive Node where
  | scalar (tag value : String) (line : Nat)
  | sequence (tag : String) (items : List Node) (line : Nat)
  | mapping (tag : String) (pairs : List (Node × Node)) (line : Nat)
  | alias (name : String) (anchor : Nat) (id : Nat) (line : Nat)
deriving Repr, Inhabited

namespace Node

def line : Node → Nat
  | .scalar _ _ l | .sequence _ _ l | .mapping _ _ l | .alias _ _ _ l => l

def text : Node → String
  | .scalar _ v _ => v
  | .alias n _ _ _ => n
  | _ => ""

def sort : Node → Nat
  | .scalar .. => 0
  | .sequence .. => 1
  | .mapping .. => 2
  | .alias .. => 3

def sameKey (a b : Node) : Bool := a.sort == b.sort && a.text == b.text

end Node

def nodeTag (explicit default : String) : String :=
  if explicit != "" && explicit != "!" then shortTag explicit else default

def scalarNode (tag text : String) (style : ScalarStyle) (line : Nat) : Node :=
  let default :=
    if style != .plain then "!!str"
    else if text == "<<" then "!!merge"
    else (resolveUnchecked "" text).1
  .scalar (nodeTag tag default) text line

structure Document where
  root : Node
  anchored : List (Nat × Node)

def Document.target? (d : Document) (anchor : Nat) : Option Node := d.anchored.lookup anchor

structure Composer where
  parser : Parser
  pending : Option Event := none
  anchors : List (String × Nat) := []
  anchored : List (Nat × Node) := []
  anchorCount : Nat := 0
  aliasCount : Nat := 0

namespace Composer

def peek (c : Composer) : Except Failure (Event × Composer) :=
  match c.pending with
  | some e => .ok (e, c)
  | none =>
    match c.parser.next with
    | .ok (e, p) => .ok (e, { c with parser := p, pending := some e })
    | .error pr => .error (.text pr)

def take (c : Composer) : Composer := { c with pending := none }

def declare (c : Composer) (anchor : String) : Option Nat × Composer :=
  if anchor.isEmpty then (none, c)
  else (some c.anchorCount,
        { c with anchors := (anchor, c.anchorCount) :: c.anchors, anchorCount := c.anchorCount + 1 })

def complete (c : Composer) (place : Option Nat) (n : Node) : Composer :=
  match place with
  | some i => { c with anchored := (i, n) :: c.anchored }
  | none => c

def exhausted : Failure := .other "document nests too deeply"

mutual

def node : Nat → Composer → Except Failure (Node × Composer)
  | 0, _ => .error exhausted
  | fuel + 1, c => do
    let (e, c) ← c.peek
    let line := e.start.line + 1
    match e.kind with
    | .scalar anchor tag text style =>
      let n := scalarNode tag text style line
      let (place, c) := c.take.declare anchor
      pure (n, c.complete place n)
    | .alias name =>
      match c.anchors.lookup name with
      | some place =>
        pure (.alias name place c.aliasCount line, { c.take with aliasCount := c.aliasCount + 1 })
      | none => throw (.other ("unknown anchor '" ++ name ++ "' referenced"))
    | .sequenceStart anchor tag _ =>
      let t := nodeTag tag "!!seq"
      let (place, c) := c.take.declare anchor
      let (items, c) ← sequenceItems fuel c []
      let n := Node.sequence t items line
      pure (n, c.complete place n)
    | .mappingStart anchor tag _ =>
      let t := nodeTag tag "!!map"
      let (place, c) := c.take.declare anchor
      let (pairs, c) ← mappingPairs fuel c []
      let n := Node.mapping t pairs line
      pure (n, c.complete place n)
    | _ => throw (.other "unexpected event")

def sequenceItems : Nat → Composer → List Node → Except Failure (List Node × Composer)
  | 0, _, _ => .error exhausted
  | fuel + 1, c, acc => do
    let (e, c) ← c.peek
    if e.kind == .sequenceEnd then pure (acc.reverse, c.take)
    else
      let (n, c) ← node fuel c
      sequenceItems fuel c (n :: acc)

def mappingPairs : Nat → Composer → List (Node × Node) →
    Except Failure (List (Node × Node) × Composer)
  | 0, _, _ => .error exhausted
  | fuel + 1, c, acc => do
    let (e, c) ← c.peek
    if e.kind == .mappingEnd then pure (acc.reverse, c.take)
    else
      let (k, c) ← node fuel c
      let (v, c) ← node fuel c
      mappingPairs fuel c ((k, v) :: acc)

end

end Composer

def firstDocument (bytes : Bytes) : Except Failure (Option Document) := do
  let chars ← match decodeStream bytes with
    | .ok cs => pure cs
    | .error m => throw (.other m)
  let fuel := 64 * (chars.length + 4)
  let c : Composer := { parser := { scanner := { rest := chars } } }
  let (_, c) ← c.peek
  let (e, c) ← c.take.peek
  match e.kind with
  | .documentStart _ =>
    let (n, c) ← Composer.node fuel c.take
    let (_, c) ← c.peek
    pure (some { root := n, anchored := c.anchored })
  | _ => pure none

end Yaml

end SymbolSieve
