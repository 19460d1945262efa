namespace SymbolSieve

abbrev Bytes := List UInt8

def Bytes.ofString (s : String) : Bytes := s.toUTF8.toList

namespace Utf8

inductive Piece where
  | char (c : Char)
  | stray (b : UInt8)
deriving DecidableEq, Repr

def lead (b : UInt8) : Option (Nat × UInt8 × UInt8) :=
  if 0xC2 ≤ b ∧ b ≤ 0xDF then some (2, 0x80, 0xBF)
  else if b = 0xE0 then some (3, 0xA0, 0xBF)
  else if 0xE1 ≤ b ∧ b ≤ 0xEC then some (3, 0x80, 0xBF)
  else if b = 0xED then some (3, 0x80, 0x9F)
  else if 0xEE ≤ b ∧ b ≤ 0xEF then some (3, 0x80, 0xBF)
  else if b = 0xF0 then some (4, 0x90, 0xBF)
  else if 0xF1 ≤ b ∧ b ≤ 0xF3 then some (4, 0x80, 0xBF)
  else if b = 0xF4 then some (4, 0x80, 0x8F)
  else none

structure Partial where
  bytes : Bytes
  need : Nat
  lo : UInt8
  hi : UInt8
deriving DecidableEq, Repr

def value : Bytes → Nat
  | [] => 0
  | b0 :: t =>
    let first := if b0 < 0xE0 then b0 &&& 0x1F else if b0 < 0xF0 then b0 &&& 0x0F else b0 &&& 0x07
    t.foldl (fun acc b => acc * 64 + (b &&& 0x3F).toNat) first.toNat

def start (b : UInt8) : List Piece × Option Partial :=
  if b < 0x80 then ([.char (Char.ofNat b.toNat)], none)
  else
    match lead b with
    | some (n, lo, hi) => ([], some ⟨[b], n - 1, lo, hi⟩)
    | none => ([.stray b], none)

def step : Option Partial → UInt8 → List Piece × Option Partial
  | none, b => start b
  | some p, b =>
    if p.lo ≤ b ∧ b ≤ p.hi then
      if p.need ≤ 1 then ([.char (Char.ofNat (value (p.bytes ++ [b])))], none)
      else ([], some ⟨p.bytes ++ [b], p.need - 1, 0x80, 0xBF⟩)
    else
      let (out, q) := start b
      (p.bytes.map .stray ++ out, q)

def decodeFrom : Option Partial → Bytes → List Piece
  | none, [] => []
  | some p, [] => p.bytes.map .stray
  | q, b :: t => (step q b).1 ++ decodeFrom (step q b).2 t

def decode (bs : Bytes) : List Piece := decodeFrom none bs

def Piece.bytes : Piece → Bytes
  | .char c => String.utf8EncodeChar c
  | .stray b => [b]

def encode (ps : List Piece) : Bytes := ps.flatMap Piece.bytes

def Piece.char? : Piece → Option Char
  | .char c => some c
  | .stray _ => none

def toString? (bs : Bytes) : Option String :=
  ((decode bs).mapM Piece.char?).map String.ofList

def isValid (bs : Bytes) : Bool := (decode bs).all (·.char?.isSome)

@[simp] theorem decode_nil : decode [] = [] := rfl

example : decode [0x41, 0xC3, 0xA9, 0xE2, 0x82, 0x41, 0xFF] =
    [.char 'A', .char 'é', .stray 0xE2, .stray 0x82, .char 'A', .stray 0xFF] := by decide

@[simp] theorem encode_nil : encode [] = [] := rfl

@[simp] theorem encode_cons (p : Piece) (ps : List Piece) :
    encode (p :: ps) = p.bytes ++ encode ps := rfl

theorem encode_append (ps qs : List Piece) : encode (ps ++ qs) = encode ps ++ encode qs := by
  simp [encode]

end Utf8

end SymbolSieve
