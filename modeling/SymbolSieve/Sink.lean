import SymbolSieve.Fault

namespace SymbolSieve

structure Writer (ω : Type) where
  write : ω → Bytes → Option Fault × ω

structure Sink where
  held : Bytes := []
  room : Option Nat := none
deriving DecidableEq, Repr

namespace Sink

def withLimit (limit : Option Nat) : Sink := { room := limit }

def full : Fault := .plain (Bytes.ofString "sink full")

def write (s : Sink) (bs : Bytes) : Option Fault × Sink :=
  match s.room with
  | none => (none, { s with held := s.held ++ bs })
  | some n =>
    if bs.length ≤ n then (none, { held := s.held ++ bs, room := some (n - bs.length) })
    else (some full, { held := s.held ++ bs.take n, room := some 0 })

def writer : Writer Sink := ⟨write⟩

theorem write_of_unlimited {s : Sink} (h : s.room = none) (bs : Bytes) :
    write s bs = (none, ⟨s.held ++ bs, none⟩) := by
  simp [write, h]

end Sink

end SymbolSieve
