import SymbolSieve.Text.Utf8

namespace SymbolSieve

structure Record where
  symbol : Bytes
  decoded : Bytes
deriving DecidableEq, Repr

namespace Record

def rule : Bytes := List.replicate 80 0x2D

def render (r : Record) : Bytes :=
  Bytes.ofString "Matched symbol: " ++ r.symbol ++ [0x0A] ++
    Bytes.ofString "Decoded: " ++ r.decoded ++ [0x0A] ++ rule ++ [0x0A]

end Record

end SymbolSieve
