import SymbolSieve.Text.Utf8

namespace SymbolSieve

namespace Shell

def int64Max : Int := 9223372036854775807

def int64Min : Int := -9223372036854775808

def word64 : Int := 18446744073709551616

def isSpaceByte (c : UInt8) : Bool := c == 0x20 || (9 ≤ c && c ≤ 13)

def digitValue (c : UInt8) : Option Nat :=
  if 0x30 ≤ c && c ≤ 0x39 then some (c - 0x30).toNat
  else if 0x61 ≤ c && c ≤ 0x7A then some (c - 0x61 + 10).toNat
  else if 0x41 ≤ c && c ≤ 0x5A then some (c - 0x41 + 10).toNat
  else none

def readDigits (base : Nat) : Bytes → Nat → Nat × Bytes
  | [], acc => (acc, [])
  | c :: rest, acc =>
    match digitValue c with
    | some d => if d < base then readDigits base rest (acc * base + d) else (acc, c :: rest)
    | none => (acc, c :: rest)

def scanInteger (s : Bytes) (base : Nat) : Option (Int × Bytes) :=
  let t := s.dropWhile isSpaceByte
  let (neg, t) := match t with
    | 0x2D :: r => (true, r)
    | 0x2B :: r => (false, r)
    | r => (false, r)
  let isHex (c : UInt8) : Bool := match digitValue c with | some d => d < 16 | none => false
  let (base, t) :=
    match base, t with
    | 0, 0x30 :: x :: c :: r => if (x == 0x78 || x == 0x58) && isHex c then (16, c :: r) else (8, 0x30 :: x :: c :: r)
    | 0, 0x30 :: r => (8, 0x30 :: r)
    | 0, r => (10, r)
    | 16, 0x30 :: x :: c :: r => if (x == 0x78 || x == 0x58) && isHex c then (16, c :: r) else (16, 0x30 :: x :: c :: r)
    | b, r => (b, r)
  match t with
  | c :: _ =>
    match digitValue c with
    | some d =>
      if d < base then
        let (v, rest) := readDigits base t 0
        some (if neg then -(v : Int) else v, rest)
      else none
    | none => none
  | [] => none

def toSigned (s : Bytes) (base : Nat) : Int × Bytes × Bool :=
  match scanInteger s base with
  | none => (0, s, false)
  | some (v, rest) =>
    if v > int64Max then (int64Max, rest, true)
    else if v < int64Min then (int64Min, rest, true)
    else (v, rest, false)

def toUnsigned (s : Bytes) (base : Nat) : Int × Bytes × Bool :=
  match scanInteger s base with
  | none => (0, s, false)
  | some (v, rest) =>
    if v.natAbs ≥ word64 then (word64 - 1, rest, true)
    else if v < 0 then (v + word64, rest, false)
    else (v, rest, false)

def wrap64 (v : Int) : Int :=
  let m := v % word64
  if m > int64Max then m - word64 else m

example : toSigned (Bytes.ofString " -0x1fz") 0 = (-31, Bytes.ofString "z", false) ∧
    toSigned (Bytes.ofString "99999999999999999999") 10 = (int64Max, [], true) ∧
    toUnsigned (Bytes.ofString "-1") 0 = (word64 - 1, [], false) ∧
    toSigned (Bytes.ofString "0x") 0 = (0, Bytes.ofString "x", false) := by decide +kernel

end Shell

end SymbolSieve
