import SymbolSieve.Text.Utf8

namespace SymbolSieve

namespace Text

def isBlank (c : Char) : Bool :=
  let n := c.toNat
  (0x09 ≤ n && n ≤ 0x0D) || n == 0x20 || n == 0x85 || n == 0xA0 || n == 0x1680 ||
  (0x2000 ≤ n && n ≤ 0x200A) || n == 0x2028 || n == 0x2029 || n == 0x202F || n == 0x205F ||
  n == 0x3000

end Text

def Utf8.Piece.isBlank : Utf8.Piece → Bool
  | .char c => Text.isBlank c
  | .stray _ => false

namespace Text

def trim (bs : Bytes) : Bytes :=
  Utf8.encode (((Utf8.decode bs).dropWhile (·.isBlank)).reverse.dropWhile (·.isBlank)).reverse

example : trim [0x20, 0x78, 0x20, 0x79, 0xE3, 0x80, 0x80, 0x09] = [0x78, 0x20, 0x79] := by
  decide

example : trim [0x85, 0x41] = [0x85, 0x41] := by decide

end Text

end SymbolSieve
