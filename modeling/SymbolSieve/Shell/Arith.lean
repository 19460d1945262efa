import SymbolSieve.Shell.State
import SymbolSieve.Shell.Number

namespace SymbolSieve

namespace Shell

inductive BinOp where
  | mul | div | rem | add | sub | shl | shr | lt | le | gt | ge | eq | ne | band | bxor | bor
deriving DecidableEq, Repr

def BinOp.level : BinOp → Nat
  | .mul | .div | .rem => 0
  | .add | .sub => 1
  | .shl | .shr => 2
  | .lt | .le | .gt | .ge => 3
  | .eq | .ne => 4
  | .band => 5
  | .bxor => 6
  | .bor => 7

inductive ArTok where
  | eof
  | assign
  | orElse
  | andAlso
  | bad
  | num (v : Int)
  | var (name : Bytes)
  | lnot
  | binop (op : BinOp)
  | assignOp (op : BinOp)
  | lparen
  | rparen
  | bnot
  | qmark
  | colon
deriving DecidableEq, Repr

def ArTok.binop? : ArTok → Option BinOp
  | .binop o => some o
  | _ => none

def arithTokens : Nat → Bytes → List ArTok
  | 0, _ => [.eof]
  | n + 1, s =>
    let withEq (op : BinOp) (rest : Bytes) : List ArTok :=
      match rest with
      | 0x3D :: r => .assignOp op :: arithTokens n r
      | r => .binop op :: arithTokens n r
    match s with
    | [] => [.eof]
    | c :: rest =>
      if c == 0x20 || c == 0x09 || c == 0x0A then arithTokens n rest
      else if c == 0 then [.eof]
      else if isDigit c then
        let (v, after, _) := toSigned s 0
        .num v :: arithTokens n after
      else if isNameStart c then
        let name := c :: rest.takeWhile isNameChar
        .var name :: arithTokens n (s.drop name.length)
      else
        match c, rest with
        | 0x3D, 0x3D :: r => .binop .eq :: arithTokens n r
        | 0x3D, r => .assign :: arithTokens n r
        | 0x3E, 0x3D :: r => .binop .ge :: arithTokens n r
        | 0x3E, 0x3E :: r => withEq .shr r
        | 0x3E, r => .binop .gt :: arithTokens n r
        | 0x3C, 0x3D :: r => .binop .le :: arithTokens n r
        | 0x3C, 0x3C :: r => withEq .shl r
        | 0x3C, r => .binop .lt :: arithTokens n r
        | 0x7C, 0x7C :: r => .orElse :: arithTokens n r
        | 0x7C, r => withEq .bor r
        | 0x26, 0x26 :: r => .andAlso :: arithTokens n r
        | 0x26, r => withEq .band r
        | 0x21, 0x3D :: r => .binop .ne :: arithTokens n r
        | 0x21, r => .lnot :: arithTokens n r
        | 0x28, r => .lparen :: arithTokens n r
        | 0x29, r => .rparen :: arithTokens n r
        | 0x2A, r => withEq .mul r
        | 0x2F, r => withEq .div r
        | 0x25, r => withEq .rem r
        | 0x2B, r => withEq .add r
        | 0x2D, r => withEq .sub r
        | 0x7E, r => .bnot :: arithTokens n r
        | 0x5E, r => withEq .bxor r
        | 0x3F, r => .qmark :: arithTokens n r
        | 0x3A, r => .colon :: arithTokens n r
        | _, _ => [.bad]

def asWord64 (a : Int) : UInt64 := (a % word64).toNat.toUInt64

def ofWord (u : UInt64) : Int := wrap64 u.toNat

structure ArState where
  rest : List ArTok
  last : ArTok := .eof

abbrev AM := StateT ArState M

def nextTok : AM ArTok := do
  let s ← get
  match s.rest with
  | [t] => return t
  | t :: more => set { s with rest := more }; return t
  | [] => return .eof

def keepToken (t : ArTok) : AM Unit := modify fun s => { s with last := t }

def arithError {α : Type} (text : Bytes) (what : String) : AM α :=
  (shError (Bytes.ofString ("arithmetic expression: " ++ what ++ ": \"") ++ text ++
    Bytes.ofString "\"") : M α)

def varNumber (name : Bytes) : M Int := do
  let v := (← lookupVar name).getD []
  let (n, rest, range) := toSigned v 0
  if range || !(rest.all isSpaceByte) then shError (Bytes.ofString "Illegal number: " ++ v)
  return n

def applyBinop (text : Bytes) (op : BinOp) (a b : Int) : AM Int := do
  let bool (p : Bool) : Int := if p then 1 else 0
  match op with
  | .div | .rem =>
    if b == 0 then arithError text "division by zero"
    if a == int64Min && b == -1 then (throw (.signal 8) : M Unit)
    return if op == .div then a.tdiv b else a.tmod b
  | .mul => return wrap64 (a * b)
  | .add => return wrap64 (a + b)
  | .sub => return wrap64 (a - b)
  | .shl => return wrap64 (a * ((Nat.pow 2 (b % 64).toNat : Nat) : Int))
  | .shr => return a / ((Nat.pow 2 (b % 64).toNat : Nat) : Int)
  | .lt => return bool (a < b)
  | .le => return bool (a ≤ b)
  | .gt => return bool (a > b)
  | .ge => return bool (a ≥ b)
  | .eq => return bool (a == b)
  | .ne => return bool (a != b)
  | .band => return ofWord (asWord64 a &&& asWord64 b)
  | .bxor => return ofWord (asWord64 a ^^^ asWord64 b)
  | .bor => return ofWord (asWord64 a ||| asWord64 b)

mutual

def assignment (text : Bytes) : Nat → ArTok → Bool → AM Int
  | 0, _, _ => arithError text "expression too deep"
  | n + 1, tok, noeval => do
    let op ← nextTok
    match tok, op with
    | .var name, .assign => assignRest text n name none noeval
    | .var name, .assignOp o => assignRest text n name (some o) noeval
    | _, _ => conditional text n tok op noeval

def assignRest (text : Bytes) : Nat → Bytes → Option BinOp → Bool → AM Int
  | 0, _, _, _ => arithError text "expression too deep"
  | n + 1, name, op, noeval => do
    let result ← assignment text n (← nextTok) noeval
    if noeval then return result
    let result ← match op with
      | some o => do applyBinop text o (← (varNumber name : M Int)) result
      | none => pure result
    (setVar name (some (decimal result)) : M Unit)
    return result

def conditional (text : Bytes) : Nat → ArTok → ArTok → Bool → AM Int
  | 0, _, _, _ => arithError text "expression too deep"
  | n + 1, tok, op, noeval => do
    let a ← disjunction text n tok op noeval
    if (← get).last != .qmark then return a
    let b ← assignment text n (← nextTok) (noeval || a == 0)
    if (← get).last != .colon then arithError text "expecting ':'"
    let t ← nextTok
    let c ← conditional text n t (← nextTok) (noeval || a != 0)
    return if a != 0 then b else c

def disjunction (text : Bytes) : Nat → ArTok → ArTok → Bool → AM Int
  | 0, _, _, _ => arithError text "expression too deep"
  | n + 1, tok, op, noeval => do
    let a ← conjunction text n tok op noeval
    if (← get).last != .orElse then return a
    let t ← nextTok
    let b ← disjunction text n t (← nextTok) (noeval || a != 0)
    return if a != 0 || b != 0 then 1 else 0

def conjunction (text : Bytes) : Nat → ArTok → ArTok → Bool → AM Int
  | 0, _, _, _ => arithError text "expression too deep"
  | n + 1, tok, op, noeval => do
    let a ← binary text n tok op noeval
    if (← get).last != .andAlso then return a
    let t ← nextTok
    let b ← conjunction text n t (← nextTok) (noeval || a == 0)
    return if a != 0 && b != 0 then 1 else 0

def binary (text : Bytes) : Nat → ArTok → ArTok → Bool → AM Int
  | 0, _, _, _ => arithError text "expression too deep"
  | n + 1, tok, op, noeval => do
    let a ← primary text n tok op noeval
    match (← get).last.binop? with
    | some o => binaryRest text n a o 8 noeval
    | none => return a

def binaryRest (text : Bytes) : Nat → Int → BinOp → Nat → Bool → AM Int
  | 0, _, _, _, _ => arithError text "expression too deep"
  | n + 1, a, op, prec, noeval => do
    let t ← nextTok
    let b ← primary text n t (← nextTok) noeval
    let (b, op2) ← match (← get).last.binop? with
      | some o2 =>
        if o2.level < op.level then do
          let b ← binaryRest text n b o2 (op.level - 1) noeval
          pure (b, (← get).last.binop?)
        else pure (b, some o2)
      | none => pure (b, none)
    let a ← if noeval then pure b else applyBinop text op a b
    match op2 with
    | some o2 => if o2.level ≥ prec then return a else binaryRest text n a o2 prec noeval
    | none => return a

def primary (text : Bytes) : Nat → ArTok → ArTok → Bool → AM Int
  | 0, _, _, _ => arithError text "expression too deep"
  | n + 1, tok, op, noeval => do
    match tok with
    | .lparen =>
      let r ← assignment text n op noeval
      if (← get).last != .rparen then arithError text "expecting ')'"
      keepToken (← nextTok)
      return r
    | .num v => keepToken op; return v
    | .var name =>
      keepToken op
      if noeval then return 0
      (varNumber name : M Int)
    | .binop .add => primary text n op (← nextTok) noeval
    | .binop .sub => return wrap64 (-(← primary text n op (← nextTok) noeval))
    | .lnot => return if (← primary text n op (← nextTok) noeval) == 0 then 1 else 0
    | .bnot => return -(← primary text n op (← nextTok) noeval) - 1
    | _ => arithError text "expecting primary"

end

def arith (text : Bytes) : M Int := do
  let toks := arithTokens (text.length + 1) text
  let run : AM Int := do
    let t ← nextTok
    let r ← assignment text (4 * text.length + 16) t false
    if (← get).last != .eof then arithError text "expecting EOF"
    return r
  let (r, _) ← run.run { rest := toks }
  return r

end Shell

end SymbolSieve
