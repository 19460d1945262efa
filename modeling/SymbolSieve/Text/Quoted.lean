import SymbolSieve.Text.Printable
import SymbolSieve.Text.Utf8

namespace SymbolSieve

namespace Text

def hexDigit (n : Nat) : UInt8 := if n < 10 then (0x30 + n).toUInt8 else (0x57 + n).toUInt8

def hex (width n : Nat) : Bytes :=
  (List.range width).reverse.map fun i => hexDigit (n / Nat.pow 16 i % 16)

def escapeChar (c : Char) : Bytes :=
  let n := c.toNat
  if c = '"' ∨ c = '\\' then [0x5C, n.toUInt8]
  else if isPrintable c then String.utf8EncodeChar c
  else if n = 0x07 then Bytes.ofString "\\a"
  else if n = 0x08 then Bytes.ofString "\\b"
  else if n = 0x0C then Bytes.ofString "\\f"
  else if n = 0x0A then Bytes.ofString "\\n"
  else if n = 0x0D then Bytes.ofString "\\r"
  else if n = 0x09 then Bytes.ofString "\\t"
  else if n = 0x0B then Bytes.ofString "\\v"
  else if n < 0x20 ∨ n = 0x7F then Bytes.ofString "\\x" ++ hex 2 n
  else if n < 0x10000 then Bytes.ofString "\\u" ++ hex 4 n
  else Bytes.ofString "\\U" ++ hex 8 n

def escapePiece : Utf8.Piece → Bytes
  | .char c => escapeChar c
  | .stray b => Bytes.ofString "\\x" ++ hex 2 b.toNat

def quote (bs : Bytes) : Bytes := [0x22] ++ (Utf8.decode bs).flatMap escapePiece ++ [0x22]

end Text

end SymbolSieve
