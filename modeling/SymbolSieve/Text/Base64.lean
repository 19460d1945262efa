import SymbolSieve.Text.Utf8

namespace SymbolSieve

namespace Base64

def value? (c : UInt8) : Option Nat :=
  if 65 ≤ c ∧ c ≤ 90 then some (c.toNat - 65)
  else if 97 ≤ c ∧ c ≤ 122 then some (c.toNat - 97 + 26)
  else if 48 ≤ c ∧ c ≤ 57 then some (c.toNat - 48 + 52)
  else if c == 43 then some 62
  else if c == 47 then some 63
  else none

def quantum (vs : List Nat) : Bytes :=
  let n := vs.foldl (fun acc v => acc * 64 + v) 0 * Nat.pow 64 (4 - vs.length)
  let all := [UInt8.ofNat (n / 65536), UInt8.ofNat (n / 256), UInt8.ofNat n]
  all.take (vs.length - 1)

def decodeQuanta : Bytes → Option Bytes
  | [] => some []
  | [a, b, 61, 61] => do quantum [← value? a, ← value? b]
  | [a, b, c, 61] => do quantum [← value? a, ← value? b, ← value? c]
  | a :: b :: c :: d :: rest => do
    let q := quantum [← value? a, ← value? b, ← value? c, ← value? d]
    return q ++ (← decodeQuanta rest)
  | _ => none

def decode? (text : Bytes) : Option Bytes :=
  decodeQuanta (text.filter (fun c => c != 0x0A && c != 0x0D))

example : decode? [0x61, 0x47, 0x6B, 0x3D] = some [0x68, 0x69] := by decide
example : decode? [0x61, 0x47, 0x6B] = none := by decide
example : decode? [0x2F, 0x77, 0x0A, 0x3D, 0x3D] = some [0xFF] := by decide

end Base64

end SymbolSieve
