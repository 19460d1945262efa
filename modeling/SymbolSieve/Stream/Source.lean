import SymbolSieve.Text.Utf8

namespace SymbolSieve

inductive Ending where
  | clean
  | failure (message : String)
deriving DecidableEq, Repr

def Ending.failure? : Ending → Option String
  | .clean => none
  | .failure m => some m

def Bytes.chunks (n : Nat) (bs : Bytes) : List Bytes :=
  match bs with
  | [] => []
  | b :: t => (b :: t).take (n + 1) :: Bytes.chunks n ((b :: t).drop (n + 1))
termination_by bs.length
decreasing_by simp only [List.length_cons, List.length_drop]; omega

structure Source where
  data : Bytes
  chunk : Nat := 0
  ending : Ending := .clean
deriving DecidableEq, Repr

namespace Source

def reads (s : Source) : List Bytes :=
  if s.chunk = 0 then (if s.data = [] then [] else [s.data]) else Bytes.chunks (s.chunk - 1) s.data

end Source

end SymbolSieve
