import SymbolSieve.Text.Utf8

namespace SymbolSieve

namespace Yaml

def allowed (n : Nat) : Bool :=
  n == 0x09 || n == 0x0A || n == 0x0D || (0x20 ≤ n && n ≤ 0x7E) || n == 0x85 ||
    (0xA0 ≤ n && n ≤ 0xD7FF) || (0xE000 ≤ n && n ≤ 0xFFFD) || (0x10000 ≤ n && n ≤ 0x10FFFF)

def accept (n : Nat) (rest : Except String (List Char)) : Except String (List Char) :=
  if allowed n then rest.map (Char.ofNat n :: ·) else .error "control characters are not allowed"

def leadWidth (b : UInt8) : Nat :=
  if b &&& 0x80 = 0 then 1
  else if b &&& 0xE0 = 0xC0 then 2
  else if b &&& 0xF0 = 0xE0 then 3
  else if b &&& 0xF8 = 0xF0 then 4
  else 0

def leadBits (width : Nat) (b : UInt8) : Nat :=
  match width with
  | 1 => (b &&& 0x7F).toNat
  | 2 => (b &&& 0x1F).toNat
  | 3 => (b &&& 0x0F).toNat
  | _ => (b &&& 0x07).toNat

def utf8 : Nat → Bytes → Except String (List Char)
  | _, [] => .ok []
  | 0, _ => .ok []
  | fuel + 1, b :: t =>
    let width := leadWidth b
    if width = 0 then .error "invalid leading UTF-8 octet"
    else if t.length < width - 1 then .error "incomplete UTF-8 octet sequence"
    else
      let tail := t.take (width - 1)
      if tail.any (fun c => c &&& 0xC0 != 0x80) then .error "invalid trailing UTF-8 octet"
      else
        let value := tail.foldl (fun acc c => acc * 64 + (c &&& 0x3F).toNat) (leadBits width b)
        if !(width == 1 || (width == 2 && 0x80 ≤ value) || (width == 3 && 0x800 ≤ value) ||
            (width == 4 && 0x10000 ≤ value)) then
          .error "invalid length of a UTF-8 sequence"
        else if (0xD800 ≤ value ∧ value ≤ 0xDFFF) ∨ 0x10FFFF < value then
          .error "invalid Unicode character"
        else accept value (utf8 fuel (t.drop (width - 1)))

def utf16 (little : Bool) : Nat → Bytes → Except String (List Char)
  | _, [] => .ok []
  | 0, _ => .ok []
  | _ + 1, [_] => .error "incomplete UTF-16 character"
  | fuel + 1, a :: b :: t =>
    let unit (x y : UInt8) : Nat := if little then y.toNat * 256 + x.toNat else x.toNat * 256 + y.toNat
    let value := unit a b
    if value &&& 0xFC00 = 0xDC00 then .error "unexpected low surrogate area"
    else if value &&& 0xFC00 = 0xD800 then
      match t with
      | c :: d :: t' =>
        let value2 := unit c d
        if value2 &&& 0xFC00 != 0xDC00 then .error "expected low surrogate area"
        else accept (0x10000 + (value &&& 0x3FF) * 0x400 + (value2 &&& 0x3FF)) (utf16 little fuel t')
      | _ => .error "incomplete UTF-16 surrogate pair"
    else accept value (utf16 little fuel t)

def decodeStream (bs : Bytes) : Except String (List Char) :=
  match bs with
  | 0xFF :: 0xFE :: t => utf16 true t.length t
  | 0xFE :: 0xFF :: t => utf16 false t.length t
  | 0xEF :: 0xBB :: 0xBF :: t => utf8 t.length t
  | _ => utf8 bs.length bs

end Yaml

end SymbolSieve
