namespace SymbolSieve

namespace Yaml

namespace Numeral

def digit (c : Char) : Nat :=
  if '0' ≤ c ∧ c ≤ '9' then c.toNat - '0'.toNat
  else if 'a' ≤ c ∧ c ≤ 'z' then c.toNat - 'a'.toNat + 10
  else if 'A' ≤ c ∧ c ≤ 'Z' then c.toNat - 'A'.toNat + 10
  else 36

def ofDigits (base : Nat) (cs : List Char) : Option Nat :=
  cs.foldlM (fun acc c => if digit c < base then some (acc * base + digit c) else none) 0

def isLetter (c : Char) (lower : Char) : Bool := c == lower || c == lower.toUpper

def unsignedPrefixed (cs : List Char) : Option Nat :=
  match cs with
  | [] => none
  | '0' :: rest =>
    match rest with
    | c :: more@(_ :: _) =>
      if isLetter c 'b' then ofDigits 2 more
      else if isLetter c 'o' then ofDigits 8 more
      else if isLetter c 'x' then ofDigits 16 more
      else ofDigits 8 rest
    | _ => ofDigits 8 rest
  | _ => ofDigits 10 cs

def unsignedIn (base : Nat) (cs : List Char) : Option Nat :=
  if cs.isEmpty then none else ofDigits base cs

def sign (cs : List Char) : Bool × List Char :=
  match cs with
  | '+' :: rest => (false, rest)
  | '-' :: rest => (true, rest)
  | _ => (false, cs)

def fitsSigned (negative : Bool) (n : Nat) : Bool :=
  if negative then n ≤ Nat.pow 2 63 else n < Nat.pow 2 63

def isSigned (cs : List Char) : Bool :=
  let (negative, rest) := sign cs
  match unsignedPrefixed rest with
  | some n => fitsSigned negative n
  | none => false

def isUnsigned (cs : List Char) : Bool :=
  match unsignedPrefixed cs with
  | some n => n < Nat.pow 2 64
  | none => false

def isSignedIn (base : Nat) (cs : List Char) : Bool :=
  let (negative, rest) := sign cs
  match unsignedIn base rest with
  | some n => fitsSigned negative n
  | none => false

def isUnsignedIn (base : Nat) (cs : List Char) : Bool :=
  match unsignedIn base cs with
  | some n => n < Nat.pow 2 64
  | none => false

def underscoresBetweenDigits (cs : List Char) : Bool :=
  let body := (sign cs).2
  -- the state is the class of the last character: start, digit, underscore or other
  let step : Char → Char → Option Char := fun saw c =>
    if c.isDigit then some '0'
    else if c == '_' then if saw == '0' then some '_' else none
    else if saw == '_' then none
    else some '!'
  match body.foldlM step '^' with
  | some last => last != '_'
  | none => false

structure Mantissa where
  digits : List Char := []
  after : Nat := 0
  point : Bool := false
  underscore : Bool := false

def mantissa (m : Mantissa) : List Char → Mantissa × List Char
  | [] => (m, [])
  | c :: rest =>
    if c == '_' then mantissa { m with underscore := true } rest
    else if c == '.' then
      if m.point then (m, c :: rest) else mantissa { m with point := true } rest
    else if c.isDigit then
      mantissa { m with digits := m.digits ++ [c], after := if m.point then m.after + 1 else m.after } rest
    else (m, c :: rest)

def exponent (cs : List Char) : Option (Int × Bool × List Char) :=
  match cs with
  | [] => some (0, false, [])
  | e :: rest =>
    if !(isLetter e 'e') then some (0, false, cs)
    else
      let (negative, rest) := sign rest
      match rest with
      | d :: _ =>
        if !d.isDigit then none
        else
          let body := rest.takeWhile (fun c => c.isDigit || c == '_')
          let digits := body.filter Char.isDigit
          let n := (ofDigits 10 digits).getD 0
          some (if negative then -(n : Int) else n, body.any (· == '_'), rest.drop body.length)
      | [] => none

def overflowBound : Nat := Nat.pow 2 1024 - Nat.pow 2 970

def overflows (m : Nat) (e : Int) : Bool :=
  if m = 0 then false
  else
    let width : Int := (Nat.toDigits 10 m).length
    if width + e ≥ 310 then true
    else if width + e ≤ 308 then false
    else if e ≥ 0 then m * Nat.pow 10 e.toNat ≥ overflowBound
    else m ≥ overflowBound * Nat.pow 10 (-e).toNat

def isDecimalFraction (cs : List Char) : Bool :=
  let (_, body) := sign cs
  let (m, rest) := mantissa {} body
  if m.digits.isEmpty then false
  else
    match exponent rest with
    | some (e, underscore, []) =>
      if (m.underscore || underscore) && !underscoresBetweenDigits cs then false
      else
        let value := (ofDigits 10 m.digits).getD 0
        !overflows value (e - m.after)
    | _ => false

def isFloatShaped (cs : List Char) : Bool :=
  let body := (sign cs).2
  let (whole, rest) := (body.takeWhile Char.isDigit, body.dropWhile Char.isDigit)
  let afterMantissa : Option (List Char) :=
    if whole.isEmpty then
      match rest with
      | '.' :: more =>
        let frac := more.takeWhile Char.isDigit
        if frac.isEmpty then none else some (more.dropWhile Char.isDigit)
      | _ => none
    else
      match rest with
      | '.' :: more => some (more.dropWhile Char.isDigit)
      | _ => some rest
  match afterMantissa with
  | none => false
  | some [] => true
  | some (e :: more) =>
    if !(isLetter e 'e') then false
    else
      let digits := (sign more).2
      !digits.isEmpty && digits.all Char.isDigit

example : isSigned "0x1F".toList ∧ isSigned "-0b101".toList ∧ !isSigned "08".toList := by decide
example : isFloatShaped "08".toList ∧ isFloatShaped "-.5e3".toList ∧ !isFloatShaped "1e".toList := by
  decide
example : isDecimalFraction ".5".toList ∧ !isDecimalFraction "1e400".toList := by decide

end Numeral

end Yaml

end SymbolSieve
