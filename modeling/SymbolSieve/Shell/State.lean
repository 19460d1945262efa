import SymbolSieve.Host.Kernel
import SymbolSieve.Shell.Syntax

namespace SymbolSieve

namespace Shell

structure Var where
  value : Option Bytes := none
  exported : Bool := false
  readonly : Bool := false
  dynamic : Bool := false
deriving DecidableEq, Repr

inductive Kept where
  | var (name : Bytes) (old : Option Var)
  | options (opts : List Bool)

def Kept.keeps (name : Bytes) : Kept → Bool
  | .var n _ => n == name
  | .options _ => false

inductive Saved where
  | closed
  | untouched
  | moved (fd : Nat)
deriving DecidableEq, Repr

inductive Skip where
  | none
  | breakLoop
  | continueLoop
  | function
  | functionKeep
deriving DecidableEq, Repr

inductive Stop where
  | error
  | exit
  | signal (n : Nat)
  | replaced (t : Termination)

def optionTable : List (Option UInt8 × String) :=
  [(some 0x65, "errexit"), (some 0x66, "noglob"), (some 0x49, "ignoreeof"),
   (some 0x69, "interactive"), (some 0x6D, "monitor"), (some 0x6E, "noexec"),
   (some 0x73, "stdin"), (some 0x78, "xtrace"), (some 0x76, "verbose"), (some 0x56, "vi"),
   (some 0x45, "emacs"), (some 0x43, "noclobber"), (some 0x61, "allexport"),
   (some 0x62, "notify"), (some 0x75, "nounset"), (some 0x70, "privileged"), (none, "nolog"),
   (none, "debug")]

def optErrexit : Nat := 0
def optNoglob : Nat := 1
def optIgnoreeof : Nat := 2
def optInteractive : Nat := 3
def optMonitor : Nat := 4
def optNoexec : Nat := 5
def optStdin : Nat := 6
def optXtrace : Nat := 7
def optVerbose : Nat := 8
def optNoclobber : Nat := 11
def optAllexport : Nat := 12
def optNounset : Nat := 14

structure Job where
  pid : Nat
  ending : Termination

structure Sh where
  world : World
  pid : Nat
  rootPid : Nat
  parentPid : Nat
  ancestors : List Nat := []
  fds : Descriptors
  cwd : List Bytes
  curdir : Bytes
  vars : List (Bytes × Var) := []
  frames : List (List Kept) := []
  params : List Bytes := []
  arg0 : Bytes
  opts : List Bool := List.replicate 18 false
  funcs : List (Bytes × Node) := []
  traps : List (Nat × Bytes) := []
  ignoredAtStart : List Nat := []
  status : Nat := 0
  backStatus : Nat := 0
  saveStatus : Option Nat := none
  skip : Skip := .none
  skipCount : Nat := 0
  loopNest : Nat := 0
  funcLine : Nat := 0
  lineno : Nat := 0
  errLine : Nat := 0
  cmdName : Option Bytes := none
  out : Bytes := []
  outError : Bool := false
  redirs : List (List (Nat × Saved)) := []
  docs : List (Nat × List Sym) := []
  nextDoc : Nat := 0
  jobs : List Job := []
  lastBg : Option Nat := none
  optInd : Nat := 1
  optOff : Option Nat := none
  pending : List Nat := []
  root : Bool := true
  hashed : List (Bytes × Bytes) := []
  mask : Nat := 18
  aliases : List (Bytes × Bytes) := []
  traceFd : Nat := 2
  launch : Launch

abbrev M := EStateM Stop Sh

namespace Sh

def opt (sh : Sh) (i : Nat) : Bool := sh.opts.getD i false

def var? (sh : Sh) (name : Bytes) : Option Var := sh.vars.lookup name

def value? (sh : Sh) (name : Bytes) : Option Bytes :=
  match sh.var? name with
  | some v => if v.dynamic then some (Bytes.ofString (toString sh.lineno)) else v.value
  | none => none

def ifs (sh : Sh) : Bytes := (sh.value? (Bytes.ofString "IFS")).getD (Bytes.ofString " \t\n")

def ifsSet (sh : Sh) : Bool := (sh.value? (Bytes.ofString "IFS")).isSome

def path (sh : Sh) : Bytes := (sh.value? (Bytes.ofString "PATH")).getD []

def files (sh : Sh) : Files := { sh.world.files with home := sh.cwd }

def bucket (name : Bytes) : Nat :=
  ((name.headD 0).toNat * 16 + name.foldl (fun a c => a + c.toNat) 0) % 39

def environment (sh : Sh) : List Bytes :=
  (List.range 39).flatMap fun b =>
    ((sh.vars.filter fun (n, _) => bucket n == b).reverse).filterMap fun (n, v) =>
      if v.exported then (sh.value? n).map fun val => n ++ [0x3D] ++ val else none

def proc (sh : Sh) : Proc :=
  { pid := sh.pid, parent := sh.parentPid, fds := sh.fds, cwd := sh.cwd, env := sh.environment,
    ancestors := sh.ancestors, ignored := sh.traps.filterMap fun (s, a) => if a.isEmpty then some s else none }

end Sh

def decimal (n : Int) : Bytes := Bytes.ofString (toString n)

def writeFd (fd : Nat) (b : Bytes) : M (Option Errno) := do
  let sh ← get
  match sh.world.writeFd sh.fds fd b with
  | .ok w => set { sh with world := w }; return none
  | .error e => return some e

def out2 (b : Bytes) : M Unit := do let _ ← writeFd 2 b

def flushOut : M Unit := do
  let sh ← get
  if sh.out.isEmpty then return
  set { sh with out := [] }
  if (← writeFd 1 sh.out).isSome then modify fun sh => { sh with outError := true }

def outCapacity : Nat := 8192

def out1 (b : Bytes) : M Unit := do
  let sh ← get
  if sh.out.length + b.length ≤ outCapacity then
    set { sh with out := sh.out ++ b }
  else
    flushOut
    if b.length < outCapacity then modify fun sh => { sh with out := b }
    else if (← writeFd 1 b).isSome then modify fun sh => { sh with outError := true }

def warn (msg : Bytes) : M Unit := do
  let sh ← get
  let lead := sh.arg0 ++ Bytes.ofString ": " ++ decimal sh.errLine ++ Bytes.ofString ": "
  let lead := match sh.cmdName with
    | some c => lead ++ c ++ Bytes.ofString ": "
    | none => lead
  out2 (lead ++ msg ++ [0x0A])

def shError {α : Type} (msg : Bytes) : M α := do
  modify fun sh => { sh with status := 2 }
  warn msg
  flushOut
  throw .error

def endWith {α : Type} (msg : Bytes) : M α := do
  warn msg
  flushOut
  throw .exit

def lookupVar (name : Bytes) : M (Option Bytes) := do return (← get).value? name

def setVarWith (name : Bytes) (value : Option Bytes) (exported readonly : Bool) : M Unit := do
  if name.isEmpty || !isName name then shError (name ++ Bytes.ofString ": bad variable name")
  let sh ← get
  let exported := exported || sh.opt optAllexport
  match sh.var? name with
  | some v =>
    if v.readonly then shError (name ++ Bytes.ofString ": is read only")
    let v' : Var := { value, exported := v.exported || exported, readonly := v.readonly || readonly }
    if value.isNone && !v'.exported && !v'.readonly then
      set { sh with vars := sh.vars.filter (·.1 != name) }
    else
      set { sh with vars := sh.vars.map fun (n, old) => (n, if n == name then v' else old) }
  | none =>
    if value.isNone && !exported && !readonly then return
    set { sh with vars := sh.vars ++ [(name, ({ value, exported, readonly } : Var))] }
  if name == Bytes.ofString "PATH" then modify fun sh => { sh with hashed := [] }

def number (s : Bytes) : M Nat := do
  let t := s.dropWhile fun c => c == 0x20 || (9 ≤ c && c ≤ 13)
  let (neg, t) := match t with
    | 0x2D :: r => (true, r)
    | 0x2B :: r => (false, r)
    | r => (false, r)
  let digits := t.takeWhile isDigit
  let rest := (t.drop digits.length).dropWhile fun c => c == 0x20 || (9 ≤ c && c ≤ 13)
  let v := digits.foldl (fun n c => n * 10 + (c - 0x30).toNat) 0
  if digits.isEmpty || !rest.isEmpty || (neg && v != 0) || v > 2147483647 then
    shError (Bytes.ofString "Illegal number: " ++ s)
  return v

def setVar (name : Bytes) (value : Option Bytes) : M Unit := do
  setVarWith name value false false
  if name == Bytes.ofString "OPTIND" then
    let n ← number (value.getD [])
    modify fun sh => { sh with optInd := if n == 0 then 1 else n, optOff := none }

def setAssignment (text : Bytes) (exported readonly : Bool) : M Unit := do
  let name := text.takeWhile (· != 0x3D)
  let value := text.drop (name.length + 1)
  if exported || readonly then setVarWith name (some value) exported readonly
  else setVar name (some value)

def unsetVar (name : Bytes) : M Unit := do
  if name.isEmpty || !isName name then shError (name ++ Bytes.ofString ": bad variable name")
  let sh ← get
  match sh.var? name with
  | some v =>
    if v.readonly then shError (name ++ Bytes.ofString ": is read only")
    set { sh with vars := sh.vars.filter (·.1 != name) }
  | none => pure ()

def makeLocal (text : Bytes) (exported : Bool) : M Unit := do
  let sh ← get
  let name := text.takeWhile (· != 0x3D)
  let hasValue := name.length < text.length
  let old := sh.var? name
  match sh.frames with
  | frame :: rest =>
    if !(frame.any (·.keeps name)) then
      set { sh with frames := (.var name old :: frame) :: rest }
  | [] => pure ()
  if hasValue then
    setVarWith name (some (text.drop (name.length + 1))) exported false
  else if old.isNone then
    modify fun sh => { sh with vars := sh.vars ++ [(name, ({ exported } : Var))] }

def pushFrame : M Unit := modify fun sh => { sh with frames := [] :: sh.frames }

def popFrame (keep : Bool) : M Unit := do
  let sh ← get
  match sh.frames with
  | frame :: rest =>
    set { sh with frames := rest }
    if !keep then
      for k in frame do
        modify fun sh =>
          match k with
          | .options opts => { sh with opts }
          | .var name (some v) =>
            if sh.vars.any (·.1 == name) then
              { sh with vars := sh.vars.map fun (n, cur) => (n, if n == name then v else cur) }
            else { sh with vars := sh.vars ++ [(name, v)] }
          | .var name none => { sh with vars := sh.vars.filter (·.1 != name) }
  | [] => pure ()

def optionLetters (sh : Sh) : Bytes :=
  ((optionTable.zip sh.opts).reverse.filterMap fun ((l, _), on) => if on then l else none)

def singleQuote (s : Bytes) : Bytes :=
  let rec go : Nat → Bytes → Bytes
    | 0, _ => []
    | n + 1, s =>
      let plain := s.takeWhile (· != 0x27)
      let rest := s.drop plain.length
      let head := [0x27] ++ plain ++ [0x27]
      if rest.isEmpty then head
      else
        let quotes := rest.takeWhile (· == 0x27)
        let after := rest.drop quotes.length
        let mid := [0x22] ++ quotes ++ [0x22]
        if after.isEmpty then head ++ mid else head ++ mid ++ go n after
  go (s.length + 1) s

example : singleQuote (Bytes.ofString "it's") = Bytes.ofString "'it'\"'\"'s'" := by decide +kernel

end Shell

end SymbolSieve
