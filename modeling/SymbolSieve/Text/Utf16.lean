import SymbolSieve.Text.Utf8

namespace SymbolSieve

inductive ByteOrder where
  | little
  | big
deriving DecidableEq, Repr

namespace Utf16

def unit : ByteOrder → UInt8 → UInt8 → Nat
  | .little, a, b => b.toNat * 256 + a.toNat
  | .big, a, b => a.toNat * 256 + b.toNat

def isSurrogate (u : Nat) : Bool := 0xD800 ≤ u && u ≤ 0xDFFF

def isTrailing (u : Nat) : Bool := 0xDC00 ≤ u && u ≤ 0xDFFF

def replacement : Bytes := [0xEF, 0xBF, 0xBD]

def emit (cp : Nat) : Bytes :=
  if cp < 0xD800 ∨ (0xDFFF < cp ∧ cp < 0x110000) then String.utf8EncodeChar (Char.ofNat cp)
  else replacement

def pair (u v : Nat) : Bytes :=
  if u < 0xDC00 then emit (0x10000 + (u - 0xD800) * 0x400 + (v - 0xDC00)) else replacement

inductive Pending where
  | empty
  | half (a : UInt8)
  | surrogate (u : Nat)
  | surrogateHalf (u : Nat) (c : UInt8)
deriving DecidableEq, Repr

def Pending.ofUnit (u : Nat) : Bytes × Pending :=
  if isSurrogate u then ([], .surrogate u) else (emit u, .empty)

def Pending.feed (order : ByteOrder) : Pending → UInt8 → Bytes × Pending
  | .empty, a => ([], .half a)
  | .half a, b => Pending.ofUnit (unit order a b)
  | .surrogate u, c => ([], .surrogateHalf u c)
  | .surrogateHalf u c, d =>
    let v := unit order c d
    if isTrailing v then (pair u v, .empty)
    else
      let (out, p) := Pending.ofUnit v
      (replacement ++ out, p)

def Pending.close : Pending → Bytes
  | .empty => []
  | .half _ => replacement
  | .surrogate _ => replacement
  | .surrogateHalf _ _ => replacement ++ replacement

def decodeFrom (order : ByteOrder) : Pending → Bytes → Bytes × Pending
  | p, [] => ([], p)
  | p, b :: t =>
    let (out, q) := p.feed order b
    let (rest, r) := decodeFrom order q t
    (out ++ rest, r)

def decode (order : ByteOrder) (bs : Bytes) : Bytes :=
  let (out, p) := decodeFrom order .empty bs
  out ++ p.close

example : decode .little [0x61, 0x00, 0x3D, 0xD8, 0x00, 0xDE] = [0x61, 0xF0, 0x9F, 0x98, 0x80] := by
  decide

example : decodeFrom .little .empty [0x61, 0x00, 0x3D, 0xD8] = ([0x61], .surrogate 0xD83D) := by
  decide

example : decode .big [0xD8, 0x3D, 0x00, 0x61, 0x00] =
    [0xEF, 0xBF, 0xBD, 0x61, 0xEF, 0xBF, 0xBD] := by
  decide

end Utf16

end SymbolSieve
