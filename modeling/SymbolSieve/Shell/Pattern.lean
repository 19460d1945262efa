import SymbolSieve.Text.Utf8

namespace SymbolSieve

namespace Shell

namespace Pattern

def signed (b : UInt8) : Int := if b < 128 then b.toNat else (b.toNat : Int) - 256

def classes : List (String × (UInt8 → Bool)) :=
  let alpha := fun (c : UInt8) => (0x41 ≤ c && c ≤ 0x5A) || (0x61 ≤ c && c ≤ 0x7A)
  let digit := fun (c : UInt8) => 0x30 ≤ c && c ≤ 0x39
  let graph := fun (c : UInt8) => 0x21 ≤ c && c ≤ 0x7E
  [("alnum", fun c => alpha c || digit c),
   ("cntrl", fun c => c < 0x20 || c == 0x7F),
   ("lower", fun c => 0x61 ≤ c && c ≤ 0x7A),
   ("space", fun c => c == 0x20 || (9 ≤ c && c ≤ 13)),
   ("alpha", alpha),
   ("digit", digit),
   ("print", fun c => 0x20 ≤ c && c ≤ 0x7E),
   ("upper", fun c => 0x41 ≤ c && c ≤ 0x5A),
   ("blank", fun c => c == 0x20 || c == 9),
   ("graph", graph),
   ("punct", fun c => graph c && !(alpha c || digit c)),
   ("xdigit", fun c => digit c || (0x41 ≤ c && c ≤ 0x46) || (0x61 ≤ c && c ≤ 0x66))]

def classAt (p : Bytes) (c : UInt8) : Option (Bool × Bytes) :=
  classes.findSome? fun (name, test) =>
    let spelled := Bytes.ofString (":" ++ name ++ ":]")
    if spelled.isPrefixOf p then some (test c, p.drop spelled.length) else none

def bracket (c : UInt8) : Nat → UInt8 → Bytes → Bool → Option (Bool × Bytes)
  | 0, _, _, _ => none
  | n + 1, m, p, found =>
    let next (found : Bool) (p : Bytes) : Option (Bool × Bytes) :=
      match p with
      | [] => none
      | 0x5D :: rest => some (found, rest)
      | m' :: rest => bracket c n m' rest found
    if m == 0x5B then
      match classAt p c with
      | some (hit, rest) => next (found || hit) rest
      | none => single c n m p found
    else if m == 0x5C then
      match p with
      | m' :: rest => single c n m' rest found
      | [] => none
    else single c n m p found
where
  single (c : UInt8) : Nat → UInt8 → Bytes → Bool → Option (Bool × Bytes)
    | n, m, p, found =>
      let next (found : Bool) (p : Bytes) : Option (Bool × Bytes) :=
        match n, p with
        | _, [] => none
        | _, 0x5D :: rest => some (found, rest)
        | 0, _ :: _ => none
        | n + 1, m' :: rest => bracket c n m' rest found
      match p with
      | 0x2D :: hi :: rest =>
        if hi == 0x5D then next (found || c == m) p
        else
          let (hi, rest) := if hi == 0x5C then (rest.headD 0, rest.drop 1) else (hi, rest)
          next (found || (signed m ≤ signed c && signed c ≤ signed hi)) rest
      | _ => next (found || c == m) p

def accepts : Nat → Bytes → Bytes → Bool
  | 0, _, _ => false
  | n + 1, p, s =>
    match p with
    | [] => s.isEmpty
    | 0x5C :: rest =>
      match rest with
      | d :: rest' => literal n d rest' s
      | [] => literal n 0x5C [] s
    | 0x3F :: rest =>
      match s with
      | _ :: s' => accepts n rest s'
      | [] => false
    | 0x2A :: rest =>
      let rest := rest.dropWhile (· == 0x2A)
      let rec tryFrom : Nat → Bytes → Bool
        | 0, _ => false
        | k + 1, t => accepts n rest t || (match t with | _ :: t' => tryFrom k t' | [] => false)
      tryFrom (s.length + 1) s
    | 0x5B :: rest =>
      match s with
      | [] => false
      | c :: s' =>
        let (invert, body) := match rest with
          | 0x21 :: b => (true, b)
          | b => (false, b)
        match body with
        | m :: more =>
          match bracket c (body.length + 1) m more false with
          | some (found, after) => found != invert && accepts n after s'
          | none => literal n 0x5B rest s
        | [] => literal n 0x5B rest s
    | c :: rest => literal n c rest s
where
  literal : Nat → UInt8 → Bytes → Bytes → Bool
    | n, c, rest, s =>
      match s with
      | d :: s' => d == c && accepts n rest s'
      | [] => false

end Pattern

def patternMatches (pattern text : Bytes) : Bool :=
  Pattern.accepts (pattern.length + text.length + 2) pattern text

end Shell

end SymbolSieve
