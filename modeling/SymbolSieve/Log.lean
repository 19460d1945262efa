import SymbolSieve.Sieve
import SymbolSieve.Job
import SymbolSieve.Text.Quoted
import SymbolSieve.Text.Blank
import SymbolSieve.Text.Printable

namespace SymbolSieve

inductive LogValue where
  | text (bytes : Bytes)
  | number (n : Nat)
deriving DecidableEq, Repr

structure LogLine where
  message : Bytes
  attrs : List (String × LogValue)
deriving DecidableEq, Repr

namespace LogValue

def forcesQuotes : Utf8.Piece → Bool
  | .stray _ => true
  | .char c =>
    if c.toNat < 0x80 then c == ' ' || c == '=' || c == '"' || c.toNat < 0x20
    else c.toNat == 0xFFFD || Text.isBlank c || !Text.isPrintable c

def needsQuotes (b : Bytes) : Bool := b.isEmpty || (Utf8.decode b).any forcesQuotes

def render : LogValue → Bytes
  | .text b => if needsQuotes b then Text.quote b else b
  | .number n => Bytes.ofString (toString n)

end LogValue

def LogLine.render (clock : Bytes) (l : LogLine) : Bytes :=
  Bytes.ofString "time=" ++ clock ++ Bytes.ofString " level=DEBUG msg=" ++ (LogValue.text l.message).render ++
    l.attrs.flatMap (fun (k, v) => Bytes.ofString (" " ++ k ++ "=") ++ v.render) ++ [0x0A]

def Note.logLine : Note → LogLine
  | .decoded line symbol text =>
    { message := Bytes.ofString "decoded",
      attrs := [("line", .number line), ("symbol", .text symbol), ("decoded", .text text)] }
  | .failed line symbol fault =>
    { message := Bytes.ofString "decode failed",
      attrs := [("line", .number line), ("symbol", .text symbol), ("err", .text fault.message)] }

def JobResult.log {σ : Type} (debug : Bool) (clock : Bytes) (r : JobResult σ) : Bytes :=
  if debug then r.notes.flatMap (·.logLine.render clock) else []

end SymbolSieve
