import SymbolSieve.Fault

namespace SymbolSieve

structure Reply where
  result : Except Fault Bytes
  cancels : Bool := false

structure Decoder (σ : Type) where
  decode : σ → Bytes → Reply × σ

namespace Decoder

def recording (answer : Bytes → Reply) : Decoder (List Bytes) where
  decode asked symbol := (answer symbol, asked ++ [symbol])

def ofHistory (answer : List Bytes → Bytes → Reply) : Decoder (List Bytes) where
  decode asked symbol := (answer asked symbol, asked ++ [symbol])

end Decoder

end SymbolSieve
