import SymbolSieve.Stream.Lines
import SymbolSieve.Text.Blank
import SymbolSieve.Candidate
import SymbolSieve.Record
import SymbolSieve.Decoder
import SymbolSieve.Sink

namespace SymbolSieve

structure Tally where
  lines : Nat := 0
  matched : Nat := 0
  decoded : Nat := 0
  failed : Nat := 0
deriving DecidableEq, Repr

inductive Note where
  | decoded (line : Nat) (symbol decoded : Bytes)
  | failed (line : Nat) (symbol : Bytes) (fault : Fault)
deriving Repr

structure Progress (σ ω : Type) where
  tally : Tally := {}
  decoder : σ
  sink : ω
  cancelled : Bool := false
  notes : List Note := []

namespace Sieve

variable {σ ω : Type}

def emptyReply (symbol : Bytes) : Fault := .decode 3 (Bytes.ofString "decoder") symbol [] none

def visit (d : Decoder σ) (w : Writer ω) (p : Progress σ ω) (line : Nat) (raw : Bytes) :
    Progress σ ω × Option Fault :=
  let tally := { p.tally with lines := p.tally.lines + 1 }
  let symbol := Text.trim raw
  if !Candidate.test symbol then ({ p with tally }, none)
  else
    let tally := { tally with matched := tally.matched + 1 }
    if p.cancelled then ({ p with tally }, some (.sentinel .canceled))
    else
      let (reply, state) := d.decode p.decoder symbol
      let p := { p with tally, decoder := state, cancelled := reply.cancels }
      let result : Except Fault Bytes :=
        match reply.result with
        | .ok text =>
          let t := Text.trim text
          if t = [] then .error (emptyReply symbol) else .ok t
        | .error f => .error f
      match result with
      | .error f =>
        if f.is .decodeFailure then
          ({ p with tally := { p.tally with failed := p.tally.failed + 1 },
                    notes := p.notes ++ [.failed line symbol f] }, none)
        else (p, some f)
      | .ok text =>
        let (fault, sink) := w.write p.sink (Record.render ⟨symbol, text⟩)
        let p := { p with sink }
        match fault with
        | some f => (p, some (.wrapped (Bytes.ofString "filter: write record: ") f))
        | none =>
          ({ p with tally := { p.tally with decoded := p.tally.decoded + 1 },
                    notes := p.notes ++ [.decoded line symbol text] }, none)

def readFailure (message : String) : Fault :=
  .wrapped (Bytes.ofString "filter: read input: ") (.plain (Bytes.ofString message))

def run (d : Decoder σ) (w : Writer ω) (c : LineCursor) (p : Progress σ ω) :
    Progress σ ω × LineCursor × Option Fault :=
  match h : (c.next).1 with
  | .line raw =>
    have := LineCursor.size_next_lt h
    match visit d w p (c.next).2.count raw with
    | (p', none) => run d w (c.next).2 p'
    | (p', some f) => (p', (c.next).2, some f)
  | .finished => (p, (c.next).2, none)
  | .failed m => (p, (c.next).2, some (readFailure m))
termination_by c.size

end Sieve

end SymbolSieve
