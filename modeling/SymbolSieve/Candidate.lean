import SymbolSieve.Text.Utf8

namespace SymbolSieve

namespace Candidate

def lead : Bytes := List.replicate 10 0x30

def marker : Bytes := [0x43, 0x32]

def markerBeforeBreak : Bytes → Bool
  | [] => false
  | b :: t => b != 0x0A && (marker.isPrefixOf (b :: t) || markerBeforeBreak t)

def test (line : Bytes) : Bool :=
  lead.isPrefixOf line && markerBeforeBreak (line.drop lead.length)

example : test (Bytes.ofString "0000000000C2") = true := by cbv
example : test (Bytes.ofString "000000000C2") = false := by cbv
example : test (Bytes.ofString "0000000000\nC2") = false := by cbv
example : test (Bytes.ofString "0000000000\rxC2y") = true := by cbv

end Candidate

end SymbolSieve
