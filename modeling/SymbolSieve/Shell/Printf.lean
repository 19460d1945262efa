import SymbolSieve.Shell.State
import SymbolSieve.Shell.Number
import SymbolSieve.Text.Decimal

namespace SymbolSieve

namespace Shell

def isOctal (c : UInt8) : Bool := 0x30 ≤ c && c ≤ 0x37

def escapeAt (s : Bytes) : UInt8 × Bytes :=
  match s with
  | c :: rest =>
    match c with
    | 0x5C => (0x5C, rest)
    | 0x61 => (0x07, rest)
    | 0x62 => (0x08, rest)
    | 0x66 => (0x0C, rest)
    | 0x6E => (0x0A, rest)
    | 0x72 => (0x0D, rest)
    | 0x74 => (0x09, rest)
    | 0x76 => (0x0B, rest)
    | _ =>
      if isOctal c then
        let ds := (s.take 3).takeWhile isOctal
        let v := ds.foldl (fun v d => v * 8 + (d - 0x30).toNat) 0
        (v.toUInt8, s.drop ds.length)
      else (0x5C, s)
  | [] => (0x5C, [])

def escapeText : Nat → Bytes → Bytes × Bool
  | 0, _ => ([], false)
  | _ + 1, [] => ([], false)
  | n + 1, c :: rest =>
    if c != 0x5C then
      let (more, stop) := escapeText n rest
      (c :: more, stop)
    else
      match rest with
      | 0x63 :: _ => ([], true)
      | d :: more =>
        let s := if d == 0x30 && (more.head?.map isOctal).getD false then more else rest
        let (b, after) := escapeAt s
        let (tail, stop) := escapeText n after
        (b :: tail, stop)
      | [] => ([0x5C], false)

structure Spec where
  left : Bool := false
  plus : Bool := false
  space : Bool := false
  alt : Bool := false
  zero : Bool := false
  width : Nat := 0
  precision : Option Nat := none

def Spec.pad (s : Spec) (body : Bytes) (lead : Nat) (zeroOk : Bool) : Bytes :=
  if body.length ≥ s.width then body
  else
    let fill := s.width - body.length
    if s.left then body ++ List.replicate fill 0x20
    else if s.zero && zeroOk then body.take lead ++ List.replicate fill 0x30 ++ body.drop lead
    else List.replicate fill 0x20 ++ body

def Spec.sign (s : Spec) (neg : Bool) : Bytes :=
  if neg then [0x2D] else if s.plus then [0x2B] else if s.space then [0x20] else []

def digitsBase (base : Nat) (n : Nat) (upper : Bool) : Bytes :=
  (Nat.toDigits base n).map fun c => (if upper then c.toUpper else c).toNat.toUInt8

def formatInteger (s : Spec) (conv : UInt8) (v : Int) : Bytes :=
  let signed := conv == 0x64 || conv == 0x69
  let mag := v.natAbs
  let base := if conv == 0x6F then 8 else if conv == 0x78 || conv == 0x58 then 16 else 10
  let ds := if s.precision == some 0 && mag == 0 then [] else digitsBase base mag (conv == 0x58)
  let ds := match s.precision with
    | some p => List.replicate (p - ds.length) 0x30 ++ ds
    | none => ds
  let ds := if s.alt && base == 8 && ds.head? != some 0x30 then 0x30 :: ds else ds
  let pre : Bytes :=
    if s.alt && base == 16 && mag != 0 then (if conv == 0x58 then [0x30, 0x58] else [0x30, 0x78])
    else if signed then s.sign (v < 0) else []
  s.pad (pre ++ ds) pre.length s.precision.isNone

def formatFloat (s : Spec) (conv : UInt8) (v : Decimal.Binary64) : Bytes :=
  let upper := conv == 0x45 || conv == 0x46 || conv == 0x47 || conv == 0x41
  let word (lower : String) : Bytes :=
    Bytes.ofString (if upper then lower.toUpper else lower)
  match v with
  | .inf neg => let b := s.sign neg ++ word "inf"; s.pad b 0 false
  | .nan neg => let b := s.sign neg ++ word "nan"; s.pad b 0 false
  | .finite neg m e =>
    let body :=
      if conv == 0x66 || conv == 0x46 then Decimal.fixedDigits m e (s.precision.getD 6) s.alt
      else if conv == 0x65 || conv == 0x45 then
        Decimal.scientificDigits m e (s.precision.getD 6) s.alt upper
      else if conv == 0x67 || conv == 0x47 then
        Decimal.generalDigits m e (s.precision.getD 6) s.alt upper
      else Decimal.hexNotation m e s.precision s.alt upper
    let sign := s.sign neg
    let lead := if conv == 0x61 || conv == 0x41 then sign.length + 2 else sign.length
    s.pad (sign ++ body) lead true

def checkConversion (arg rest : Bytes) (range : Bool) : M Bool := do
  if !rest.isEmpty then
    warn (arg ++ Bytes.ofString (if rest.length == arg.length then ": expected numeric value"
      else ": not completely converted"))
    return true
  else if range then
    warn (arg ++ Bytes.ofString ": Numerical result out of range")
    return true
  return false

structure PrintfArgs where
  args : List Bytes
  failed : Bool := false

def PrintfArgs.text (p : PrintfArgs) : Bytes × PrintfArgs :=
  match p.args with
  | a :: rest => (a, { p with args := rest })
  | [] => ([], p)

def PrintfArgs.integer (p : PrintfArgs) (signed : Bool) : M (Int × PrintfArgs) := do
  match p.args with
  | [] => return (0, p)
  | a :: rest =>
    let p := { p with args := rest }
    match a with
    | 0x27 :: more | 0x22 :: more => return ((more.headD 0).toNat, p)
    | _ =>
      let (v, after, range) := if signed then toSigned a 0 else toUnsigned a 0
      let bad ← checkConversion a after range
      return (v, if bad then { p with failed := true } else p)

def PrintfArgs.float (p : PrintfArgs) : M (Decimal.Binary64 × PrintfArgs) := do
  match p.args with
  | [] => return (.finite false 0 0, p)
  | a :: rest =>
    let p := { p with args := rest }
    match a with
    | 0x27 :: more | 0x22 :: more => return (.finite false (more.headD 0).toNat 0, p)
    | _ =>
      let (v, after, range) := Decimal.read a
      let bad ← checkConversion a after range
      return (v, if bad then { p with failed := true } else p)

def PrintfArgs.amount (p : PrintfArgs) : M (Int × PrintfArgs) := do
  let (v, p) ← p.integer true
  let w := v % 4294967296
  return (if w ≥ 2147483648 then w - 4294967296 else w, p)

def readCount (s : Bytes) : Nat × Bytes :=
  let ds := s.takeWhile isDigit
  (ds.foldl (fun n c => n * 10 + (c - 0x30).toNat) 0, s.drop ds.length)

def conversion (fmt : Bytes) (p : PrintfArgs) : M (Bytes × PrintfArgs × Bool) := do
  let start := fmt
  let flagBytes := fmt.takeWhile fun c => (Bytes.ofString "#-+ 0").contains c
  let fmt := fmt.drop flagBytes.length
  let spec : Spec := { left := flagBytes.contains 0x2D, plus := flagBytes.contains 0x2B,
                       space := flagBytes.contains 0x20, alt := flagBytes.contains 0x23,
                       zero := flagBytes.contains 0x30 }
  let (spec, fmt, p) ← match fmt with
    | 0x2A :: rest =>
      let (w, p) ← p.amount
      pure ({ spec with width := w.natAbs, left := spec.left || w < 0 }, rest, p)
    | _ =>
      let (w, rest) := readCount fmt
      let rest := rest.dropWhile fun c => c == 0x2A || isDigit c
      pure ({ spec with width := w }, rest, p)
  let (spec, fmt, p) ← match fmt with
    | 0x2E :: 0x2A :: rest =>
      let (v, p) ← p.amount
      pure ({ spec with precision := if v < 0 then none else some v.toNat }, rest, p)
    | 0x2E :: rest =>
      let (v, rest) := readCount rest
      let rest := rest.dropWhile fun c => c == 0x2A || isDigit c
      pure ({ spec with precision := some v }, rest, p)
    | _ => pure (spec, fmt, p)
  match fmt with
  | [] => shError (Bytes.ofString "missing format character")
  | conv :: rest =>
    let directive := 0x25 :: start.take (start.length - rest.length)
    match conv with
    | 0x62 =>
      let (a, p) := p.text
      let (b, stop) := escapeText (a.length + 1) a
      let b := match spec.precision with
        | some n => b.take n
        | none => b
      out1 (spec.pad b 0 false)
      return (rest, p, stop)
    | 0x63 =>
      let (a, p) := p.text
      out1 (spec.pad [a.headD 0] 0 false)
      return (rest, p, false)
    | 0x73 =>
      let (a, p) := p.text
      let a := match spec.precision with
        | some n => a.take n
        | none => a
      out1 (spec.pad a 0 false)
      return (rest, p, false)
    | 0x64 | 0x69 =>
      let (v, p) ← p.integer true
      out1 (formatInteger spec conv v)
      return (rest, p, false)
    | 0x6F | 0x75 | 0x78 | 0x58 =>
      let (v, p) ← p.integer false
      out1 (formatInteger spec conv v)
      return (rest, p, false)
    | 0x61 | 0x41 | 0x65 | 0x45 | 0x66 | 0x46 | 0x67 | 0x47 =>
      let (v, p) ← p.float
      out1 (formatFloat spec conv v)
      return (rest, p, false)
    | _ => shError (directive ++ Bytes.ofString ": invalid directive")

def formatPass : Nat → Bytes → PrintfArgs → M (PrintfArgs × Bool)
  | 0, _, p => return (p, false)
  | _ + 1, [], p => return (p, false)
  | n + 1, c :: rest, p => do
    if c == 0x5C then
      let (b, after) := escapeAt rest
      out1 [b]
      formatPass n after p
    else if c != 0x25 then
      out1 [c]
      formatPass n rest p
    else
      match rest with
      | 0x25 :: after =>
        out1 [0x25]
        formatPass n after p
      | _ =>
        let (after, p, stop) ← conversion rest p
        if stop then return (p, true)
        formatPass n after p

def noOptions (args : List Bytes) : M (List Bytes) :=
  match args with
  | [0x2D, 0x2D] :: rest => return rest
  | (0x2D :: c :: _) :: _ => shError (Bytes.ofString "Illegal option -" ++ [c])
  | _ => return args

def printfBuiltin (argv : List Bytes) : M Nat := do
  let args ← noOptions argv.tail
  match args with
  | [] => shError (Bytes.ofString "usage: printf format [arg ...]")
  | format :: rest =>
    let rec passes : Nat → PrintfArgs → M Nat
      | 0, p => return if p.failed then 1 else 0
      | k + 1, p => do
        let before := p.args.length
        let (p, stop) ← formatPass (format.length + 1) format p
        if stop || p.args.isEmpty || p.args.length == before then
          return if p.failed then 1 else 0
        passes k p
    passes (rest.length + 1) { args := rest }

def echoBuiltin (argv : List Bytes) : M Nat := do
  let (newline, args) := match argv.tail with
    | a :: rest => if a == Bytes.ofString "-n" then (false, rest) else (true, a :: rest)
    | [] => (true, [])
  let rec go : List Bytes → M Unit
    | [] => if newline then out1 [0x0A] else pure ()
    | a :: rest => do
      let (b, stop) := escapeText (a.length + 1) a
      out1 b
      if stop then return
      if rest.isEmpty then (if newline then out1 [0x0A] else pure ())
      else
        out1 [0x20]
        go rest
  go args
  return 0

end Shell

end SymbolSieve
