import SymbolSieve.Shell.Number
import SymbolSieve.Host.Files
import SymbolSieve.Shell.Syntax

namespace SymbolSieve

namespace Shell

inductive TestWord where
  | unary (name : String)
  | binary (name : String)
  | negation
  | conjunction
  | disjunction
  | opening
  | closing
  | operand
  | finish
deriving DecidableEq, Repr

def unaryTests : List String :=
  ["-r", "-w", "-x", "-e", "-f", "-d", "-c", "-b", "-p", "-u", "-g", "-k", "-s", "-t", "-z", "-n",
   "-h", "-O", "-G", "-L", "-S"]

def binaryTests : List String :=
  ["=", "!=", "<", ">", "-eq", "-ne", "-ge", "-gt", "-le", "-lt", "-nt", "-ot", "-ef"]

def testOperator (s : Bytes) : Option TestWord :=
  match unaryTests.find? (Bytes.ofString · == s) with
  | some n => some (.unary n)
  | none =>
    match binaryTests.find? (Bytes.ofString · == s) with
    | some n => some (.binary n)
    | none =>
      if s == Bytes.ofString "!" then some .negation
      else if s == Bytes.ofString "-a" then some .conjunction
      else if s == Bytes.ofString "-o" then some .disjunction
      else if s == Bytes.ofString "(" then some .opening
      else if s == Bytes.ofString ")" then some .closing
      else none

def binaryAt (args : List Bytes) (i : Nat) : Bool :=
  match args[i]?.bind testOperator with
  | some (.binary _) => true
  | _ => false

def testWordAt (args : List Bytes) (i : Nat) : TestWord :=
  match args[i]? with
  | none => .finish
  | some s =>
    match testOperator s with
    | some (.unary n) =>
      let asOperand := args[i + 1]?.isNone || (args[i + 2]?.isSome && binaryAt args (i + 1))
      if asOperand then .operand else .unary n
    | some .opening => if args[i + 1]?.isNone then .operand else .opening
    | some w => w
    | none => .operand

def testNumber (b : Bytes) : Except Bytes Int :=
  let s := b.dropWhile isSpaceByte
  let (negative, body) : Bool × Bytes := match s with
    | 0x2D :: r => (true, r)
    | 0x2B :: r => (false, r)
    | r => (false, r)
  let digits := body.takeWhile isDigit
  let n : Nat := digits.foldl (fun acc c => acc * 10 + (c.toNat - 48)) 0
  let fits := if negative then n ≤ Nat.pow 2 63 else n < Nat.pow 2 63
  if digits.isEmpty || !(body.drop digits.length).all isSpaceByte || !fits then
    .error (Bytes.ofString "Illegal number: " ++ b)
  else .ok (if negative then -(n : Int) else n)

def unaryTest (fs : Files) (op : String) (a : Bytes) : Bool :=
  let e : Option Entry := (fs.lookup a).toOption.map (·.2)
  if op == "-n" then !a.isEmpty
  else if op == "-z" then a.isEmpty
  else if op == "-e" || op == "-r" || op == "-w" || op == "-O" || op == "-G" then e.isSome
  else if op == "-f" then
    match e with
    | some (.file ..) | some (.program _) => true
    | _ => false
  else if op == "-d" then e == some .directory
  else if op == "-x" then
    match e with
    | some (.file _ x) => x
    | some (.program _) | some .directory => true
    | _ => false
  else if op == "-s" then
    match e with
    | some (.file c _) => !c.isEmpty
    | some (.program _) | some .directory => true
    | _ => false
  else if op == "-k" then
    -- only the shared scratch directory carries the sticky bit
    (fs.lookup a).toOption.any (·.1 == [Bytes.ofString "tmp"])
  else if op == "-c" then
    match e with
    | some (.device _) => true
    | _ => false
  else false

def binaryTest (fs : Files) (op : String) (a b : Bytes) : Except Bytes Bool :=
  let numbers (f : Int → Int → Bool) : Except Bytes Bool := do
    let x ← testNumber a
    let y ← testNumber b
    pure (f x y)
  if op == "=" then .ok (a == b)
  else if op == "!=" then .ok (a != b)
  else if op == "<" then .ok (decide (a.map UInt8.toNat < b.map UInt8.toNat))
  else if op == ">" then .ok (decide (b.map UInt8.toNat < a.map UInt8.toNat))
  else if op == "-eq" then numbers (· == ·)
  else if op == "-ne" then numbers (· != ·)
  else if op == "-ge" then numbers (fun x y => decide (x ≥ y))
  else if op == "-gt" then numbers (fun x y => decide (x > y))
  else if op == "-le" then numbers (fun x y => decide (x ≤ y))
  else if op == "-lt" then numbers (fun x y => decide (x < y))
  else if op == "-ef" then
    match fs.lookup a, fs.lookup b with
    | .ok (x, _), .ok (y, _) => .ok (x == y)
    | _, _ => .ok false
  else .ok false

abbrev TestStep := Except Bytes (Bool × Nat)

mutual

def alternatives (fs : Files) (args : List Bytes) : Nat → TestWord → Nat → TestStep
  | 0, _, i => .ok (false, i)
  | fuel + 1, w, i =>
    match conditions fs args fuel w i with
    | .error e => .error e
    | .ok (a, i) =>
      if testWordAt args (i + 1) == .disjunction then
        match alternatives fs args fuel (testWordAt args (i + 2)) (i + 2) with
        | .error e => .error e
        | .ok (b, i) => .ok (a || b, i)
      else .ok (a, i)

def conditions (fs : Files) (args : List Bytes) : Nat → TestWord → Nat → TestStep
  | 0, _, i => .ok (false, i)
  | fuel + 1, w, i =>
    match negated fs args fuel w i with
    | .error e => .error e
    | .ok (a, i) =>
      if testWordAt args (i + 1) == .conjunction then
        match conditions fs args fuel (testWordAt args (i + 2)) (i + 2) with
        | .error e => .error e
        | .ok (b, i) => .ok (a && b, i)
      else .ok (a, i)

def negated (fs : Files) (args : List Bytes) : Nat → TestWord → Nat → TestStep
  | 0, _, i => .ok (false, i)
  | fuel + 1, w, i =>
    if w == .negation then
      match negated fs args fuel (testWordAt args (i + 1)) (i + 1) with
      | .error e => .error e
      | .ok (a, i) => .ok (!a, i)
    else primaryTest fs args fuel w i

def primaryTest (fs : Files) (args : List Bytes) : Nat → TestWord → Nat → TestStep
  | 0, _, i => .ok (false, i)
  | fuel + 1, w, i =>
    match w with
    | .finish => .ok (false, i)
    | .opening =>
      let inner := testWordAt args (i + 1)
      if inner == .closing then .ok (false, i + 1)
      else
        match alternatives fs args fuel inner (i + 1) with
        | .error e => .error e
        | .ok (a, j) =>
          if testWordAt args (j + 1) == .closing then .ok (a, j + 1)
          else .error (Bytes.ofString "closing paren expected")
    | .unary op => .ok (unaryTest fs op (args[i + 1]?.getD []), i + 1)
    | _ =>
      match testWordAt args (i + 1) with
      | .binary op =>
        match args[i + 2]? with
        | none => .error (Bytes.ofString (op ++ ": argument expected"))
        | some b =>
          match binaryTest fs op (args[i]?.getD []) b with
          | .error e => .error e
          | .ok r => .ok (r, i + 2)
      | _ => .ok (!(args[i]?.getD []).isEmpty, i)

end

def wholeTest (fs : Files) (args : List Bytes) (w : TestWord) : Except Bytes Bool :=
  match alternatives fs args (4 * args.length + 8) w 0 with
  | .error e => .error e
  | .ok (a, i) =>
    if args[i + 1]?.isSome then .error ((args[i]?.getD []) ++ Bytes.ofString ": unexpected operator")
    else .ok a

def test (fs : Files) (args : List Bytes) : Except Bytes Bool :=
  let bang := Bytes.ofString "!"
  let rec go : Nat → Bool → List Bytes → Except Bytes Bool
    | 0, _, _ => .ok false
    | fuel + 1, negate, args =>
      let result (r : Except Bytes Bool) := r.map (· != negate)
      if args.isEmpty then .ok negate
      else if args.length == 3 && binaryAt args 1 then result (wholeTest fs args .operand)
      else if (args.length == 3 || args.length == 4) && args.head? == some (Bytes.ofString "(") &&
          args.getLast? == some (Bytes.ofString ")") then
        let inner := (args.drop 1).dropLast
        result (wholeTest fs inner (testWordAt inner 0))
      else if (args.length == 3 || args.length == 4) && args.head? == some bang then go fuel true args.tail
      else result (wholeTest fs args (testWordAt args 0))
  go 3 false args

example : (test Files.fresh [[0x61], [0x3D], [0x61]]).toOption = some true := by decide +kernel
example : (test Files.fresh [[0x21], [0x61], [0x3D], [0x62]]).toOption = some true := by decide +kernel
example : (test Files.fresh [[0x2D, 0x6E]]).toOption = some true := by decide +kernel

end Shell

end SymbolSieve
