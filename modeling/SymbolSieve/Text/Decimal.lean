import SymbolSieve.Text.Utf8

namespace SymbolSieve

namespace Decimal

inductive Binary64 where
  | finite (neg : Bool) (m : Nat) (e : Int)
  | inf (neg : Bool)
  | nan (neg : Bool)
deriving DecidableEq, Repr

def pow2 (n : Nat) : Nat := Nat.pow 2 n

def pow10 (n : Nat) : Nat := Nat.pow 10 n

def bitLength (n : Nat) : Nat := (Nat.toDigits 2 n).length

def roundDiv (num den : Nat) : Nat :=
  let q := num / den
  let r := num % den
  if 2 * r > den || (2 * r == den && q % 2 == 1) then q + 1 else q

def ofFraction (neg : Bool) (num den : Nat) : Binary64 × Bool :=
  if num == 0 then (.finite neg 0 0, false)
  else
    -- the exponent that puts the quotient between 2^52 and 2^53
    let guess : Int := (bitLength num : Int) - (bitLength den : Int) - 53
    let scaled (e : Int) : Nat × Nat :=
      if e ≥ 0 then (num, den * pow2 e.toNat) else (num * pow2 (-e).toNat, den)
    let fits (e : Int) : Bool :=
      let (a, b) := scaled e
      a / b < pow2 53 && a / b ≥ pow2 52
    let e := [guess - 1, guess, guess + 1, guess + 2].find? fits |>.getD guess
    let subnormal := e < -1074
    let e := if subnormal then -1074 else e
    let (a, b) := scaled e
    let m := roundDiv a b
    let (m, e) := if m == pow2 53 then (pow2 52, e + 1) else (m, e)
    if e > 971 then (.inf neg, true)
    else (.finite neg m e, subnormal)

def hexValue (c : UInt8) : Option Nat :=
  if 0x30 ≤ c && c ≤ 0x39 then some (c - 0x30).toNat
  else if 0x61 ≤ c && c ≤ 0x66 then some (c - 0x61 + 10).toNat
  else if 0x41 ≤ c && c ≤ 0x46 then some (c - 0x41 + 10).toNat
  else none

def readDigitsIn (base : Nat) : Bytes → Nat → Nat → Nat × Nat × Bytes
  | [], v, k => (v, k, [])
  | c :: rest, v, k =>
    match hexValue c with
    | some d => if d < base then readDigitsIn base rest (v * base + d) (k + 1) else (v, k, c :: rest)
    | none => (v, k, c :: rest)

def readExponent (s : Bytes) : Option (Int × Bytes) :=
  let (neg, t) := match s with
    | 0x2D :: r => (true, r)
    | 0x2B :: r => (false, r)
    | r => (false, r)
  let (v, k, rest) := readDigitsIn 10 t 0 0
  if k == 0 then none else some (if neg then -(v : Int) else v, rest)

def startsWithWord (s : Bytes) (w : String) : Bool :=
  let lower := s.map fun c => if 0x41 ≤ c && c ≤ 0x5A then c + 32 else c
  (Bytes.ofString w).isPrefixOf lower

def ofDecimal (neg : Bool) (digits : Nat) (count : Nat) (exp : Int) : Binary64 × Bool :=
  if digits == 0 then (.finite neg 0 0, false)
  else if (count : Int) + exp > 311 then (.inf neg, true)
  else if (count : Int) + exp < -330 then (.finite neg 0 0, true)
  else if exp ≥ 0 then ofFraction neg (digits * pow10 exp.toNat) 1
  else ofFraction neg digits (pow10 (-exp).toNat)

def read (s : Bytes) : Binary64 × Bytes × Bool :=
  let t := s.dropWhile fun c => c == 0x20 || (9 ≤ c && c ≤ 13)
  let (neg, t) := match t with
    | 0x2D :: r => (true, r)
    | 0x2B :: r => (false, r)
    | r => (false, r)
  if startsWithWord t "infinity" then (.inf neg, t.drop 8, false)
  else if startsWithWord t "inf" then (.inf neg, t.drop 3, false)
  else if startsWithWord t "nan" then
    let after := t.drop 3
    let rest := match after with
      | 0x28 :: r =>
        let tag := r.takeWhile fun c => (hexValue c).isSome || (0x41 ≤ c && c ≤ 0x5A) ||
          (0x61 ≤ c && c ≤ 0x7A) || c == 0x5F
        match r.drop tag.length with
        | 0x29 :: r' => r'
        | _ => after
      | _ => after
    (.nan neg, rest, false)
  else
    let hex := match t with
      | 0x30 :: x :: r => (x == 0x78 || x == 0x58) &&
          (match r with
           | c :: _ => (hexValue c).isSome
           | [] => false) ||
          (x == 0x78 || x == 0x58) && (match r with
           | 0x2E :: c :: _ => (hexValue c).isSome
           | _ => false)
      | _ => false
    if hex then
      let body := t.drop 2
      let (ip, ik, r) := readDigitsIn 16 body 0 0
      let (fp, fk, r) := match r with
        | 0x2E :: r => readDigitsIn 16 r 0 0
        | r => (0, 0, r)
      let r := if fk == 0 && (match (t.drop (2 + ik)) with | 0x2E :: _ => true | _ => false)
        then t.drop (3 + ik) else r
      let mant := ip * pow2 (4 * fk) + fp
      let (bexp, r) := match r with
        | 0x70 :: more | 0x50 :: more =>
          match readExponent more with
          | some (v, rest) => (v, rest)
          | none => (0, r)
        | _ => (0, r)
      let e : Int := bexp - 4 * (fk : Int)
      let (v, range) := if mant == 0 then (.finite neg 0 0, false)
        else if e ≥ 0 then
          if e > 2000 then (.inf neg, true) else ofFraction neg (mant * pow2 e.toNat) 1
        else if e < -2200 then (.finite neg 0 0, true)
        else ofFraction neg mant (pow2 (-e).toNat)
      (v, r, range)
    else
      let (ip, ik, r) := readDigitsIn 10 t 0 0
      let (fp, fk, r) := match r with
        | 0x2E :: r => readDigitsIn 10 r 0 0
        | r => (0, 0, r)
      if ik + fk == 0 then (.finite false 0 0, s, false)
      else
        let r := if fk == 0 && (match t.drop ik with | 0x2E :: _ => true | _ => false)
          then t.drop (ik + 1) else r
        let (dexp, r) := match r with
          | 0x65 :: more | 0x45 :: more =>
            match readExponent more with
            | some (v, rest) => (v, rest)
            | none => (0, r)
          | _ => (0, r)
        let digits := ip * pow10 fk + fp
        let (v, range) := ofDecimal neg digits (ik + fk) (dexp - fk)
        (v, r, range)

def digitsOf (n : Nat) : Bytes := (Nat.toDigits 10 n).map fun c => c.toNat.toUInt8

def scaledRound (m : Nat) (e : Int) (k : Int) : Nat :=
  let (num, den) := if k ≥ 0 then (m * pow10 k.toNat, 1) else (m, pow10 (-k).toNat)
  if e ≥ 0 then roundDiv (num * pow2 e.toNat) den else roundDiv num (den * pow2 (-e).toNat)

def decimalExponent (m : Nat) (e : Int) : Int :=
  let atLeast (x : Int) : Bool :=
    let (num, den) := if e ≥ 0 then (m * pow2 e.toNat, 1) else (m, pow2 (-e).toNat)
    if x ≥ 0 then num ≥ den * pow10 x.toNat else num * pow10 (-x).toNat ≥ den
  let b : Int := (bitLength m : Int) + e - 1
  let guess : Int := (b * 30103) / 100000
  let rec down : Nat → Int → Int
    | 0, x => x
    | k + 1, x => if atLeast x then x else down k (x - 1)
  let rec up : Nat → Int → Int
    | 0, x => x
    | k + 1, x => if atLeast (x + 1) then up k (x + 1) else x
  up 4 (down 4 (guess + 1))

def withPoint (ds : Bytes) (p : Nat) (alt : Bool) : Bytes :=
  let ds := List.replicate (p + 1 - ds.length) 0x30 ++ ds
  let whole := ds.take (ds.length - p)
  let frac := ds.drop (ds.length - p)
  if p == 0 then whole ++ (if alt then [0x2E] else []) else whole ++ [0x2E] ++ frac

def fixedDigits (m : Nat) (e : Int) (p : Nat) (alt : Bool) : Bytes :=
  withPoint (digitsOf (scaledRound m e p)) p alt

def significant (m : Nat) (e : Int) (p : Nat) : Nat × Int :=
  if m == 0 then (0, 0)
  else
    let x := decimalExponent m e
    let n := scaledRound m e ((p : Int) - x)
    if n ≥ pow10 (p + 1) then (n / 10, x + 1) else (n, x)

def exponentText (upper : Bool) (x : Int) : Bytes :=
  let ds := digitsOf x.natAbs
  let ds := if ds.length < 2 then 0x30 :: ds else ds
  [if upper then 0x45 else 0x65, if x < 0 then 0x2D else 0x2B] ++ ds

def scientificDigits (m : Nat) (e : Int) (p : Nat) (alt upper : Bool) : Bytes :=
  let (n, x) := significant m e p
  withPoint (digitsOf n) p alt ++ exponentText upper x

def dropTrailingZeros (s : Bytes) : Bytes :=
  if !s.contains 0x2E then s
  else
    let r := s.reverse.dropWhile (· == 0x30)
    (match r with
     | 0x2E :: rest => rest
     | _ => r).reverse

def generalDigits (m : Nat) (e : Int) (p : Nat) (alt upper : Bool) : Bytes :=
  let p := if p == 0 then 1 else p
  let (_, x) := significant m e (p - 1)
  let body :=
    if x < -4 || x ≥ (p : Int) then
      let s := scientificDigits m e (p - 1) alt upper
      if alt then s
      else
        let mant := s.takeWhile fun c => c != 0x65 && c != 0x45
        dropTrailingZeros mant ++ s.drop mant.length
    else
      let s := fixedDigits m e ((p : Int) - 1 - x).toNat alt
      if alt then s else dropTrailingZeros s
  body

def hexDigits (n : Nat) (width : Nat) (upper : Bool) : Bytes :=
  let ds := (Nat.toDigits 16 n).map fun c => (if upper then c.toUpper else c).toNat.toUInt8
  List.replicate (width - ds.length) 0x30 ++ ds

def hexNotation (m : Nat) (e : Int) (p : Option Nat) (alt upper : Bool) : Bytes :=
  let pre : Bytes := if upper then Bytes.ofString "0X" else Bytes.ofString "0x"
  let pch : UInt8 := if upper then 0x50 else 0x70
  if m == 0 then
    let frac : Bytes := match p with
      | some k => List.replicate k 0x30
      | none => []
    pre ++ [0x30] ++ (if frac.isEmpty && !alt then [] else [0x2E] ++ frac) ++ [pch, 0x2B, 0x30]
  else
    -- normal numbers have 53 bits; subnormal ones are shown with a leading 0
    let (lead, fracBits, x) :=
      if bitLength m == 53 then (1, m - pow2 52, e + 52)
      else (0, m, (-1022 : Int))
    let frac13 := hexDigits fracBits 13 upper
    let (lead, frac) := match p with
      | none => (lead, (frac13.reverse.dropWhile (· == 0x30)).reverse)
      | some k =>
        if k ≥ 13 then (lead, frac13 ++ List.replicate (k - 13) 0x30)
        else
          let total := lead * pow2 52 + fracBits
          let unit := pow2 (4 * (13 - k))
          let r := roundDiv total unit
          let lead' := r / pow2 (4 * k)
          (lead', hexDigits (r % pow2 (4 * k)) k upper)
    let sign : UInt8 := if x < 0 then 0x2D else 0x2B
    pre ++ digitsOf lead ++ (if frac.isEmpty && !alt then [] else [0x2E] ++ frac) ++
      [pch, sign] ++ digitsOf x.natAbs

example : read (Bytes.ofString "2.345") = (.finite false 5280470563091907 (-51), [], false) := by
  decide +kernel

end Decimal

end SymbolSieve
