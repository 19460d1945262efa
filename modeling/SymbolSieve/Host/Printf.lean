import SymbolSieve.Shell.Printf
import SymbolSieve.Host.Kernel

namespace SymbolSieve

namespace Host

structure PrintfRun where
  world : World
  proc : Proc
  name : Bytes
  out : Bytes := []
  status : Nat := 0
  failed : Option Errno := none

abbrev PM := EStateM Nat PrintfRun

def PM.put (b : Bytes) : PM Unit := modify fun r => { r with out := r.out ++ b }

def PM.flush : PM Unit := modify fun r =>
  if r.out.isEmpty then r
  else
    match r.world.writeFd r.proc.fds 1 r.out with
    | .ok w => { r with world := w, out := [] }
    | .error e => { r with out := [], failed := some e }

def PM.complain (msg : Bytes) : PM Unit := do
  PM.flush
  modify fun r =>
    match r.world.writeFd r.proc.fds 2 (r.name ++ Bytes.ofString ": " ++ msg ++ [0x0A]) with
    | .ok w => { r with world := w }
    | .error _ => r

def quoted (s : Bytes) : Bytes := [0x27] ++ s ++ [0x27]

def isHexDigit (c : UInt8) : Bool :=
  (0x30 ≤ c && c ≤ 0x39) || (0x61 ≤ c && c ≤ 0x66) || (0x41 ≤ c && c ≤ 0x46)

def hexValue (c : UInt8) : Nat :=
  if c ≤ 0x39 then (c - 0x30).toNat else if c ≤ 0x46 then (c - 0x37).toNat else (c - 0x57).toNat

def utf8Of (n : Nat) : Bytes :=
  if n < 0x80 then [n.toUInt8]
  else if n < 0x800 then [(0xC0 + n / 64).toUInt8, (0x80 + n % 64).toUInt8]
  else if n < 0x10000 then
    [(0xE0 + n / 4096).toUInt8, (0x80 + n / 64 % 64).toUInt8, (0x80 + n % 64).toUInt8]
  else
    [(0xF0 + n / 262144).toUInt8, (0x80 + n / 4096 % 64).toUInt8, (0x80 + n / 64 % 64).toUInt8,
     (0x80 + n % 64).toUInt8]

def printEscape (s : Bytes) (octalZero : Bool) : PM Bytes := do
  match s with
  | 0x78 :: rest =>
    let ds := (rest.take 2).takeWhile isHexDigit
    if ds.isEmpty then
      PM.complain (Bytes.ofString "missing hexadecimal number in escape")
      PM.flush
      throw 1
    PM.put [(ds.foldl (fun v d => v * 16 + hexValue d) 0).toUInt8]
    return rest.drop ds.length
  | c :: rest =>
    if Shell.isOctal c then
      let body := if octalZero && c == 0x30 then rest else s
      let ds := (body.take 3).takeWhile Shell.isOctal
      PM.put [(ds.foldl (fun (v : Nat) (d : UInt8) => v * 8 + (d - 0x30).toNat) 0).toUInt8]
      return body.drop ds.length
    else if (Bytes.ofString "\"\\abcefnrtv").contains c then
      match c with
      | 0x61 => PM.put [0x07]
      | 0x62 => PM.put [0x08]
      | 0x63 => PM.flush; throw 0
      | 0x65 => PM.put [0x1B]
      | 0x66 => PM.put [0x0C]
      | 0x6E => PM.put [0x0A]
      | 0x72 => PM.put [0x0D]
      | 0x74 => PM.put [0x09]
      | 0x76 => PM.put [0x0B]
      | _ => PM.put [c]
      return rest
    else if c == 0x75 || c == 0x55 then
      let count := if c == 0x75 then 4 else 8
      let ds := (rest.take count).takeWhile isHexDigit
      if ds.length < count then
        PM.complain (Bytes.ofString "missing hexadecimal number in escape")
        PM.flush
        throw 1
      PM.put (utf8Of (ds.foldl (fun v d => v * 16 + hexValue d) 0))
      return rest.drop count
    else
      PM.put [0x5C, c]
      return rest
  | [] =>
    PM.put [0x5C]
    return []

def printEscapes : Nat → Bytes → PM Unit
  | 0, _ => pure ()
  | _ + 1, [] => pure ()
  | n + 1, c :: rest => do
    if c == 0x5C then
      let after ← printEscape rest true
      printEscapes n after
    else
      PM.put [c]
      printEscapes n rest

def checkNumber (arg rest : Bytes) (range : Bool) : PM Unit := do
  if range then
    PM.complain (quoted arg ++ Bytes.ofString ": Numerical result out of range")
    modify fun r => { r with status := 1 }
  else if !rest.isEmpty then
    PM.complain (quoted arg ++ Bytes.ofString (if rest.length == arg.length then ": expected a numeric value"
      else ": value not completely converted"))
    modify fun r => { r with status := 1 }

def characterValue (arg : Bytes) : PM (Option Nat) := do
  match arg with
  | q :: c :: rest =>
    if q == 0x27 || q == 0x22 then
      if !rest.isEmpty then
        PM.complain (Bytes.ofString "warning: " ++ rest ++
          Bytes.ofString ": character(s) following character constant have been ignored")
      return some c.toNat
    return none
  | _ => return none

def integerArg (arg : Bytes) (signed : Bool) : PM Int := do
  match ← characterValue arg with
  | some v => return v
  | none =>
    let (v, rest, range) := if signed then Shell.toSigned arg 0 else Shell.toUnsigned arg 0
    checkNumber arg rest range
    return v

def floatArg (arg : Bytes) : PM Decimal.Binary64 := do
  match ← characterValue arg with
  | some v => return .finite false v 0
  | none =>
    let (v, rest, range) := Decimal.read arg
    checkNumber arg rest range
    return v

structure Supply where
  args : List Bytes
  taken : Nat := 0

def Supply.next (s : Supply) : Bytes × Supply :=
  match s.args with
  | a :: rest => (a, { args := rest, taken := s.taken + 1 })
  | [] => ([], s)

def directive (fmt : Bytes) (sup : Supply) : PM (Bytes × Supply) := do
  match fmt with
  | 0x25 :: rest => PM.put [0x25]; return (rest, sup)
  | 0x62 :: rest =>
    if sup.args.isEmpty then return (rest, sup)
    let (a, sup) := sup.next
    printEscapes (a.length + 1) a
    return (rest, sup)
  | _ =>
    let flags := fmt.takeWhile fun c => (Bytes.ofString "'-+ #0I").contains c
    let disallowed : Bytes :=
      (if flags.contains 0x27 || flags.contains 0x49 then Bytes.ofString "aAceEosxX" else []) ++
      (if flags.contains 0x23 then Bytes.ofString "cdisu" else []) ++
      (if flags.contains 0x30 then Bytes.ofString "cs" else [])
    let rest := fmt.drop flags.length
    let spec : Shell.Spec :=
      { left := flags.contains 0x2D, plus := flags.contains 0x2B, space := flags.contains 0x20,
        alt := flags.contains 0x23, zero := flags.contains 0x30 }
    let (spec, rest, sup) ← match rest with
      | 0x2A :: more =>
        if sup.args.isEmpty then pure ({ spec with width := 0 }, more, sup) else
        let (a, sup) := sup.next
        let w ← integerArg a true
        if w < -2147483648 || w > 2147483647 then
          PM.complain (Bytes.ofString "invalid field width: " ++ quoted a)
          PM.flush
          throw 1
        pure ({ spec with width := w.natAbs, left := spec.left || w < 0 }, more, sup)
      | _ =>
        let ds := rest.takeWhile Shell.isDigit
        pure ({ spec with width := ds.foldl (fun n c => n * 10 + (c - 0x30).toNat) 0 },
          rest.drop ds.length, sup)
    let (spec, rest, sup, dotted) ← match rest with
      | 0x2E :: 0x2A :: more =>
        if sup.args.isEmpty then pure ({ spec with precision := some 0 }, more, sup, true) else
        let (a, sup) := sup.next
        let p ← integerArg a true
        if p > 2147483647 then
          PM.complain (Bytes.ofString "invalid precision: " ++ quoted a)
          PM.flush
          throw 1
        pure ({ spec with precision := if p < 0 then none else some p.toNat }, more, sup, true)
      | 0x2E :: more =>
        let ds := more.takeWhile Shell.isDigit
        pure ({ spec with precision := some (ds.foldl (fun n c => n * 10 + (c - 0x30).toNat) 0) },
          more.drop ds.length, sup, true)
      | _ => pure (spec, rest, sup, false)
    let rest := rest.dropWhile fun c => (Bytes.ofString "lLhjtz").contains c
    let allowed := Bytes.ofString "aAcdeEfFgGiosuxX"
    let conv := rest.headD 0
    let ok := allowed.contains conv && !disallowed.contains conv && !(dotted && conv == 0x63)
    if !ok then
      let spec := 0x25 :: (fmt.take (fmt.length - rest.length + (if rest.isEmpty then 0 else 1)))
      PM.complain (spec ++ Bytes.ofString ": invalid conversion specification")
      PM.flush
      throw 1
    let after := rest.drop 1
    let (a, sup) := sup.next
    match conv with
    | 0x63 => PM.put (spec.pad [a.headD 0] 0 false)
    | 0x73 =>
      let a := match spec.precision with
        | some n => a.take n
        | none => a
      PM.put (spec.pad a 0 false)
    | 0x64 | 0x69 => PM.put (Shell.formatInteger spec conv (← integerArg a true))
    | 0x6F | 0x75 | 0x78 | 0x58 => PM.put (Shell.formatInteger spec conv (← integerArg a false))
    | _ => PM.put (Shell.formatFloat spec conv (← floatArg a))
    return (after, sup)

def formatOnce : Nat → Bytes → Supply → PM Supply
  | 0, _, s => return s
  | _ + 1, [], s => return s
  | n + 1, c :: rest, s => do
    if c == 0x25 then
      let (after, s) ← directive rest s
      formatOnce n after s
    else if c == 0x5C then
      let after ← printEscape rest false
      formatOnce n after s
    else
      PM.put [c]
      formatOnce n rest s

def printfMain (format : Bytes) : Nat → List Bytes → PM Unit
  | 0, _ => pure ()
  | n + 1, args => do
    let s ← formatOnce (format.length + 1) format { args }
    if s.taken > 0 && !s.args.isEmpty then printfMain format n s.args
    else if !s.args.isEmpty then
      PM.complain (Bytes.ofString "warning: ignoring excess arguments, starting with " ++
        quoted (s.args.headD []))

def printfProgram (w : World) (p : Proc) (argv : List Bytes) : World × Termination :=
  let name := argv.headD (Bytes.ofString "printf")
  let args := match argv.drop 1 with
    | [0x2D, 0x2D] :: rest => rest
    | rest => rest
  let body : PM Unit := do
    match args with
    | [] =>
      PM.complain (Bytes.ofString "missing operand")
      modify fun r =>
        match r.world.writeFd r.proc.fds 2 (Bytes.ofString "Try '" ++ name ++
            Bytes.ofString " --help' for more information.\n") with
        | .ok w => { r with world := w }
        | .error _ => r
      throw 1
    | format :: rest => printfMain format (rest.length + 1) rest
  let finish := fun (r : PrintfRun) (status : Nat) =>
    let r := match (PM.flush).run r with
      | .ok _ r => r
      | .error _ r => r
    match r.failed with
    | some e =>
      let r := match (PM.complain (Bytes.ofString ("write error: " ++ e.describe))).run r with
        | .ok _ r => r
        | .error _ r => r
      (r.world, Termination.exited 1)
    | none => (r.world, Termination.exited status)
  match body.run { world := w, proc := p, name } with
  | .ok _ r => finish r r.status
  | .error s r => finish r s

end Host

end SymbolSieve
