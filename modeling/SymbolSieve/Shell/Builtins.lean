import SymbolSieve.Shell.Expand
import SymbolSieve.Shell.Printf
import SymbolSieve.Shell.Test
import SymbolSieve.Host.Signal

namespace SymbolSieve

namespace Shell

def builtin? (name : Bytes) : Option Bool :=
  (builtinTable.find? fun (n, _) => Bytes.ofString n == name).map (·.2)

def keywords : List String :=
  ["!", "case", "do", "done", "elif", "else", "esac", "fi", "for", "if", "in", "then", "until",
   "while", "\x7b", "\x7d"]

def readOptions (spec : String) (args : List Bytes) : M (List (UInt8 × Bytes) × List Bytes) := do
  let letters := Bytes.ofString spec
  let takesArg (c : UInt8) : Bool :=
    match letters.dropWhile (· != c) with
    | _ :: 0x3A :: _ => true
    | _ => false
  let rec word : Nat → Bytes → List Bytes → List (UInt8 × Bytes) →
      M (List (UInt8 × Bytes) × List Bytes)
    | 0, _, rest, acc => return (acc, rest)
    | _ + 1, [], rest, acc => return (acc, rest)
    | n + 1, c :: more, rest, acc => do
      if c == 0x3A || !letters.contains c then
        shError (Bytes.ofString "Illegal option -" ++ [c])
      if takesArg c then
        if !more.isEmpty then return (acc ++ [(c, more)], rest)
        match rest with
        | a :: rest' => return (acc ++ [(c, a)], rest')
        | [] => shError (Bytes.ofString "No arg for -" ++ [c] ++ Bytes.ofString " option")
      word n more rest (acc ++ [(c, [])])
  let rec go : Nat → List Bytes → List (UInt8 × Bytes) → M (List (UInt8 × Bytes) × List Bytes)
    | 0, args, acc => return (acc, args)
    | n + 1, args, acc =>
      match args with
      | [0x2D, 0x2D] :: rest => return (acc, rest)
      | (0x2D :: c :: more) :: rest => do
        let (acc, rest) ← word (more.length + 2) (c :: more) rest acc
        go n rest acc
      | _ => return (acc, args)
  go (args.length + 1) args []

def hasOption (opts : List (UInt8 × Bytes)) (c : Char) : Bool := opts.any (·.1 == c.toNat.toUInt8)

def trueBuiltin (_ : List Bytes) : M Nat := return 0

def falseBuiltin (_ : List Bytes) : M Nat := return 1

def exitBuiltin (argv : List Bytes) : M Nat := do
  match argv with
  | _ :: n :: _ =>
    let v ← number n
    modify fun sh => { sh with saveStatus := some v }
  | _ => pure ()
  throw .exit

def returnBuiltin (argv : List Bytes) : M Nat := do
  match argv with
  | _ :: n :: _ =>
    let v ← number n
    modify fun sh => { sh with skip := .function }
    return v
  | _ =>
    modify fun sh => { sh with skip := .functionKeep }
    return (← get).status

def loopBuiltin (argv : List Bytes) : M Nat := do
  let n ← match argv with
    | _ :: a :: _ => number a
    | _ => pure 1
  if n == 0 then shError (Bytes.ofString "Illegal number: " ++ (argv.getD 1 []))
  let sh ← get
  let n := min n sh.loopNest
  if n > 0 then
    let kind := if argv.head? == some (Bytes.ofString "continue") then Skip.continueLoop
      else Skip.breakLoop
    set { sh with skip := kind, skipCount := n }
  return 0

def setParams (ps : List Bytes) : M Unit :=
  modify fun sh => { sh with params := ps, optInd := 1, optOff := none }

def shiftBuiltin (argv : List Bytes) : M Nat := do
  let n ← match argv with
    | _ :: a :: _ => number a
    | _ => pure 1
  let sh ← get
  if n > sh.params.length then shError (Bytes.ofString "can't shift that many")
  setParams (sh.params.drop n)
  return 0

def setOptionLetter (c : UInt8) (on : Bool) : M Unit := do
  match optionTable.findIdx? (·.1 == some c) with
  | some i =>
    modify fun sh =>
      let opts := sh.opts.set i on
      -- turning on one line editing mode turns the other off
      let opts := if on && c == 0x56 then opts.set 10 false
        else if on && c == 0x45 then opts.set 9 false else opts
      { sh with opts }
  | none => shError (Bytes.ofString "Illegal option -" ++ [c])

def setOptionName (name : Option Bytes) (on : Bool) : M Unit := do
  match name with
  | none =>
    let sh ← get
    if on then
      out1 (Bytes.ofString "Current option settings\n")
      for ((_, n), v) in optionTable.zip sh.opts do
        let pad := List.replicate (16 - n.length) (0x20 : UInt8)
        out1 (Bytes.ofString n ++ pad ++ Bytes.ofString (if v then "on\n" else "off\n"))
    else
      for ((_, n), v) in optionTable.zip sh.opts do
        out1 (Bytes.ofString ("set " ++ (if v then "-o " else "+o ") ++ n ++ "\n"))
  | some n =>
    match optionTable.findIdx? (fun (_, s) => Bytes.ofString s == n) with
    | some i => modify fun sh => { sh with opts := sh.opts.set i on }
    | none => shError (Bytes.ofString "Illegal option -o " ++ n)

def settleMonitor : M Unit := do
  let sh ← get
  if sh.opt optMonitor && sh.root then
    warn (Bytes.ofString "can't access tty; job control turned off")
    modify fun sh => { sh with opts := sh.opts.set optMonitor false }

def setOptions : Nat → List Bytes → M (List Bytes × Bool)
  | 0, args => return (args, false)
  | n + 1, args =>
    match args with
    | [] => return ([], false)
    | a :: rest =>
      match a with
      | [0x2D] => do
        modify fun sh => { sh with opts := (sh.opts.set optXtrace false).set optVerbose false }
        return (rest, false)
      | [0x2D, 0x2D] =>
        if rest.isEmpty then do setParams []; return ([], true)
        else return (rest, false)
      | sign :: letters =>
        if sign != 0x2D && sign != 0x2B then return (args, false)
        else do
          let on := sign == 0x2D
          let mut rest := rest
          for c in letters do
            if c == 0x6F then
              setOptionName rest.head? on
              rest := rest.drop 1
            else setOptionLetter c on
          setOptions n rest
      | [] => return (args, false)

def listVariables (prefix_ : Option String) (wanted : Var → Bool) : M Unit := do
  let sh ← get
  let vs := (sh.vars.filter fun (_, v) => wanted v).mergeSort fun (a, _) (b, _) => bytesLe a b
  for (n, _) in vs do
    let lead := match prefix_ with
      | some p => Bytes.ofString (p ++ " ")
      | none => []
    match sh.value? n with
    | some v => out1 (lead ++ n ++ [0x3D] ++ singleQuote v ++ [0x0A])
    | none => out1 (lead ++ n ++ [0x0A])

def setBuiltin (argv : List Bytes) : M Nat := do
  match argv.tail with
  | [] =>
    listVariables none fun v => v.value.isSome || v.dynamic
    return 0
  | args =>
    let (rest, cleared) ← setOptions (args.length + 1) args
    settleMonitor
    if !cleared && !rest.isEmpty then setParams rest
    return 0

def exportBuiltin (argv : List Bytes) : M Nat := do
  let readonly := argv.head? == some (Bytes.ofString "readonly")
  let (opts, names) ← readOptions "p" argv.tail
  if hasOption opts 'p' || names.isEmpty then
    listVariables (some (if readonly then "readonly" else "export"))
      fun v => if readonly then v.readonly else v.exported
    return 0
  for n in names do
    let name := n.takeWhile (· != 0x3D)
    if name.length < n.length then
      setVarWith name (some (n.drop (name.length + 1))) (!readonly) readonly
    else
      let sh ← get
      match sh.var? name with
      | some v =>
        let v := if readonly then { v with readonly := true } else { v with exported := true }
        set { sh with vars := sh.vars.map fun (k, old) => (k, if k == name then v else old) }
      | none => setVarWith name none (!readonly) readonly
  return 0

def unsetBuiltin (argv : List Bytes) : M Nat := do
  let (opts, names) ← readOptions "vf" argv.tail
  let mode := (opts.getLast?.map (·.1)).getD 0
  for n in names do
    if mode != 0x66 then unsetVar n
    else modify fun sh => { sh with funcs := sh.funcs.filter (·.1 != n) }
  return 0

def localBuiltin (argv : List Bytes) : M Nat := do
  let sh ← get
  if sh.frames.isEmpty then shError (Bytes.ofString "not in a function")
  for n in argv.tail do
    if n == [0x2D] then
      -- the options come back when the function ends
      modify fun sh => { sh with frames := match sh.frames with
        | f :: rest => (.options sh.opts :: f) :: rest
        | [] => [] }
    else makeLocal n false
  return 0

def logicalPath (cur : Bytes) (dir : Bytes) : Bytes :=
  let (start, lead) :=
    if dir.head? == some 0x2F then
      if dir.take 2 == [0x2F, 0x2F] && dir.getD 2 0 != 0x2F then ([], Bytes.ofString "//")
      else ([], [0x2F])
    else
      let parts := (cur.splitOn 0x2F).filter (!·.isEmpty)
      let lead : Bytes := if cur.take 2 == [0x2F, 0x2F] && cur.getD 2 0 != 0x2F then
        Bytes.ofString "//" else [0x2F]
      (parts, lead)
  let parts := (dir.splitOn 0x2F).filter (!·.isEmpty)
  let kept := parts.foldl (fun acc p =>
    if p == [0x2E] then acc else if p == [0x2E, 0x2E] then acc.dropLast else acc ++ [p]) start
  lead ++ (kept.intersperse [0x2F]).flatten

def changeDirectory (path : Bytes) : M Bool := do
  let sh ← get
  let logical := logicalPath sh.curdir path
  match sh.files.lookup logical with
  | .ok (loc, .directory) =>
    setVarWith (Bytes.ofString "OLDPWD") (some sh.curdir) true false
    modify fun sh => { sh with cwd := loc, curdir := logical }
    setVarWith (Bytes.ofString "PWD") (some logical) true false
    return true
  | _ => return false

def cdBuiltin (argv : List Bytes) : M Nat := do
  let (_, args) ← readOptions "LP" argv.tail
  let sh ← get
  let (dest, print) := match args with
    | [] => (sh.value? (Bytes.ofString "HOME"), false)
    | d :: _ => if d == [0x2D] then (sh.value? (Bytes.ofString "OLDPWD"), true) else (some d, false)
  let dest := dest.getD []
  let dotted := match dest with
    | 0x2E :: 0x2E :: r => r.isEmpty || r.head? == some 0x2F
    | 0x2E :: r => r.isEmpty || r.head? == some 0x2F
    | _ => false
  let candidates : List (Bytes × Bool) :=
    if dest.head? == some 0x2F || dotted then [(dest, false)]
    else
      let d := if dest.isEmpty then [0x2E] else dest
      match sh.value? (Bytes.ofString "CDPATH") with
      | none => [(d, false)]
      | some cdpath =>
        ((cdpath.splitOn 0x3A).map fun p =>
          if p.isEmpty then (d, false) else (p ++ [0x2F] ++ d, true))
        ++ [(d, false)]
  let found := candidates.find? fun (c, _) =>
    match sh.files.lookup (logicalPath sh.curdir c) with
    | .ok (_, .directory) => true
    | _ => false
  match found with
  | some (c, viaPath) =>
    if ← changeDirectory c then
      if print || viaPath then out1 ((← get).curdir ++ [0x0A])
      return 0
    shError (Bytes.ofString "can't cd to " ++ dest)
  | none =>
    if ← changeDirectory (candidates.getLast?.map (·.1) |>.getD dest) then
      if print then out1 ((← get).curdir ++ [0x0A])
      return 0
    shError (Bytes.ofString "can't cd to " ++ dest)

def pwdBuiltin (argv : List Bytes) : M Nat := do
  let _ ← readOptions "LP" argv.tail
  out1 ((← get).curdir ++ [0x0A])
  return 0

def readByte : M (Option UInt8) := do
  let sh ← get
  match sh.world.readFd sh.fds 0 1 with
  | .ok (b :: _, w) => set { sh with world := w }; return some b
  | .ok ([], w) => set { sh with world := w }; return none
  | .error _ => return none

def readLine (raw : Bool) : Nat → Array XChar → List Region → Nat → Bool → M (Array XChar × List Region × Bool)
  | 0, chars, regions, start, _ => return (chars, regions ++ [⟨start, chars.size, false⟩], true)
  | n + 1, chars, regions, start, escaped => do
    match ← readByte with
    | none => return (chars, regions ++ [⟨start, chars.size, false⟩], true)
    | some c =>
      if c == 0 then readLine raw n chars regions start escaped
      else if escaped then
        if c == 0x0A then readLine raw n chars regions start false
        else
          let regions := regions ++ [⟨start, chars.size, false⟩]
          let chars := chars.push (.esc c)
          readLine raw n chars regions chars.size false
      else if !raw && c == 0x5C then readLine raw n chars regions start true
      else if c == 0x0A then return (chars, regions ++ [⟨start, chars.size, false⟩], false)
      else readLine raw n (chars.push (.lit c)) regions start false

def readBuiltin (argv : List Bytes) : M Nat := do
  let (opts, names) ← readOptions "p:r" argv.tail
  if names.isEmpty then shError (Bytes.ofString "arg count")
  let raw := hasOption opts 'r'
  let (chars, regions, ended) ← readLine raw 1000000 #[] [] 0 false
  let sh ← get
  let ifs := sh.ifs
  let fields := splitFields chars regions ifs
  -- where each field starts, to give the last name the rest of the line
  let starts := (splitStarts chars regions ifs)
  let count := names.length
  let mut i := 0
  for name in names do
    let value : Bytes :=
      if i + 1 < count then unquote (fields.getD i [])
      else if i < fields.length then
        if fields.length == i + 1 then unquote (fields.getD i [])
        else
          let from_ := starts.getD i chars.size
          let rest := (chars.toList.drop from_)
          let trimmed := (rest.reverse.dropWhile fun x => match x with
            | .lit c => isSeparator ifs c && isBlankSeparator c
            | _ => false).reverse
          unquote trimmed
      else []
    setVar name (some value)
    i := i + 1
  return if ended then 1 else 0
where
  splitStarts (chars : Array XChar) (regions : List Region) (ifs : Bytes) : List Nat :=
    let size := chars.size
    let st := regions.foldl (fun st r =>
      let stop := min r.stop size
      splitRegion chars ifs r.nulOnly stop (stop + 1) r.start false st) ({} : Split)
    st.fields.toList.map (·.1) ++ [st.start]

def getoptsBuiltin (argv : List Bytes) : M Nat := do
  match argv.tail with
  | optstr :: var :: given =>
    let sh ← get
    let list := if given.isEmpty then sh.params else given
    let ind := if sh.optInd > list.length + 1 then 1 else sh.optInd
    let off := if sh.optInd > list.length + 1 then none else sh.optOff
    let prev := list.getD (ind - 2) []
    let cur : Option Bytes :=
      match off with
      | some o => if ind ≤ 1 || prev.length < o then none else some (prev.drop o)
      | none => none
    -- the option text being read, and the index of the next word
    let (word, next) : Option Bytes × Nat :=
      match cur with
      | some p => if p.isEmpty then (none, ind) else (some p, ind)
      | none => (none, ind)
    let (word, next, done) :=
      match word with
      | some p => (p, next, false)
      | none =>
        match list[next - 1]? with
        | some (0x2D :: rest@(_ :: _)) =>
          if rest == [0x2D] then ([], next + 1, true) else (rest, next + 1, false)
        | _ => ([], next, true)
    let setOptind (n : Nat) : M Unit := setVarWith (Bytes.ofString "OPTIND") (some (decimal n)) false false
    if done then
      setOptind next
      setVar var (some [0x3F])
      modify fun sh => { sh with optInd := next, optOff := none }
      return 1
    let c := word.headD 0
    let rest := word.drop 1
    let silent := optstr.head? == some 0x3A
    let letters := optstr
    let pos := letters.findIdx? (· == c)
    let known := c != 0x3A && pos.isSome
    let mut result : UInt8 := c
    let mut next := next
    let mut restWord : Option Bytes := some rest
    if !known then
      if silent then setVar (Bytes.ofString "OPTARG") (some [c])
      else
        let _ ← writeFd 2 (Bytes.ofString "Illegal option -" ++ [c, 0x0A])
        unsetVar (Bytes.ofString "OPTARG")
      result := 0x3F
    else
      let needsArg := letters.getD ((pos.getD 0) + 1) 0 == 0x3A
      if needsArg then
        if !rest.isEmpty then
          setVar (Bytes.ofString "OPTARG") (some rest)
          restWord := none
        else
          match list[next - 1]? with
          | some a =>
            setVar (Bytes.ofString "OPTARG") (some a)
            next := next + 1
            restWord := none
          | none =>
            if silent then
              setVar (Bytes.ofString "OPTARG") (some [c])
              result := 0x3A
            else
              let _ ← writeFd 2 (Bytes.ofString "No arg for -" ++ [c] ++ Bytes.ofString " option\n")
              unsetVar (Bytes.ofString "OPTARG")
              result := 0x3F
      else setVar (Bytes.ofString "OPTARG") (some [])
    setOptind next
    setVar var (some [result])
    let prevWord := list.getD (next - 2) []
    let off := restWord.map fun r => prevWord.length - r.length
    modify fun sh => { sh with optInd := next, optOff := off }
    return 0
  | _ => shError (Bytes.ofString "Usage: getopts optstring var [arg...]")

def signalOf (s : Bytes) (least : Nat) : Option Nat :=
  if !s.isEmpty && s.all isDigit then
    let n := s.foldl (fun n c => n * 10 + (c - 0x30).toNat) 0
    if n < Signal.count then some n else none
  else
    ((List.range Signal.count).drop least).find? fun n =>
      let name := Bytes.ofString (Signal.name n)
      name.length == s.length && (name.zip s).all fun (a, b) =>
        a == b || (0x61 ≤ b && b ≤ 0x7A && a == b - 32)

def ignoresSignal (sh : Sh) (s : Nat) : Bool :=
  sh.ignoredAtStart.contains s || sh.traps.any fun (n, a) => n == s && a.isEmpty

def deliverSelf (s : Nat) : M Unit := do
  let sh ← get
  if s == 0 || ignoresSignal sh s then return
  if sh.traps.any (·.1 == s) then
    modify fun sh => { sh with pending := sh.pending ++ [s] }
  else if Signal.action s == .terminate then throw (.signal s)

def sendSignal (pid : Int) (s : Nat) : M Bool := do
  let sh ← get
  if pid == (sh.pid : Int) then deliverSelf s; return true
  if pid > 0 && sh.ancestors.contains pid.toNat then
    if s != 0 then
      modify fun sh => { sh with world := { sh.world with pending := sh.world.pending ++ [(pid.toNat, s)] } }
    return true
  if pid == 1 then return true
  if pid > 0 && sh.jobs.any (·.pid == pid.toNat) then return true
  return false

def killBuiltin (argv : List Bytes) : M Nat := do
  let usage : M Nat := shError (Bytes.ofString
    "Usage: kill [-s sigspec | -signum | -sigspec] [pid | job]... or\nkill -l [exitstatus]")
  let args := argv.tail
  if args.isEmpty then return (← usage)
  let (signo, list, args) ← match args with
    | (0x2D :: spec) :: rest =>
      match signalOf spec 1 with
      | some s => pure (some s, false, rest)
      | none => do
        let (opts, rest) ← readOptions "ls:" args
        let mut signo : Option Nat := none
        let mut list := false
        for (c, a) in opts do
          if c == 0x6C then list := true
          else
            match signalOf a 1 with
            | some s => signo := some s
            | none => shError (Bytes.ofString "invalid signal number or name: " ++ a)
        pure (signo, list, rest)
    | _ => pure (none, false, args)
  let signo := if !list && signo.isNone then some 15 else signo
  if (signo.isNone || args.isEmpty) != list then return (← usage)
  if list then
    match args with
    | [] =>
      out1 (Bytes.ofString "0\n")
      for i in List.range (Signal.count - 1) do
        out1 (Bytes.ofString (Signal.name (i + 1) ++ "\n"))
      return 0
    | a :: _ =>
      let n ← number a
      let n := if n > 128 then n - 128 else n
      if 0 < n && n < Signal.count then
        out1 (Bytes.ofString (Signal.name n ++ "\n"))
        return 0
      shError (Bytes.ofString "invalid signal number or exit status: " ++ a)
  let mut status := 0
  for a in args do
    let pid : Int ← match a with
      | 0x2D :: rest => do pure (-((← number rest : Nat) : Int))
      | _ => do pure ((← number a : Nat) : Int)
    if !(← sendSignal pid (signo.getD 15)) then
      warn (Bytes.ofString "No such process\n")
      status := 1
  return status

def trapBuiltin (argv : List Bytes) : M Nat := do
  let (_, args) ← readOptions "" argv.tail
  match args with
  | [] =>
    let sh ← get
    for i in List.range Signal.count do
      match sh.traps.lookup i with
      | some a => out1 (Bytes.ofString "trap -- " ++ singleQuote a ++ [0x20] ++
          Bytes.ofString (Signal.name i) ++ [0x0A])
      | none => pure ()
    return 0
  | first :: rest =>
    let isNum := !first.isEmpty && first.all isDigit &&
      (signalOf first 0).isSome
    let (action, sigs) := if rest.isEmpty || isNum then (none, args) else (some first, rest)
    let action := if action == some [0x2D] then none else action
    for s in sigs do
      match signalOf s 0 with
      | none =>
        let _ ← writeFd 2 (Bytes.ofString "trap: " ++ s ++ Bytes.ofString ": bad trap\n")
        return 1
      | some n =>
        modify fun sh =>
          let others := sh.traps.filter (·.1 != n)
          { sh with traps := match action with
            | some a => others ++ [(n, a)]
            | none => others }
    return 0

def waitBuiltin (argv : List Bytes) : M Nat := do
  let (_, args) ← readOptions "" argv.tail
  let sh ← get
  if args.isEmpty then
    set { sh with jobs := [] }
    return 0
  let mut status := 127
  for a in args do
    let pid ← number a
    let sh ← get
    match sh.jobs.find? (·.pid == pid) with
    | some j =>
      status := match j.ending with
        | .exited n => n
        | .signaled s => 128 + s
      set { sh with jobs := sh.jobs.filter (·.pid != pid) }
    | none => status := 127
  return status

def permissionBits (allowed : Nat) (c : UInt8) : Nat :=
  match c with
  | 0x72 => 4
  | 0x77 => 2
  | 0x78 => 1
  | 0x75 => allowed / 64 % 8
  | 0x67 => allowed / 8 % 8
  | 0x6F => allowed % 8
  | 0x58 => if allowed &&& 0x49 != 0 then 1 else 0
  | _ => 0

def permissionClasses (c : UInt8) : Nat :=
  match c with
  | 0x75 => 0x40
  | 0x67 => 0x08
  | 0x6F => 0x01
  | _ => 0x49

def symbolicMask : Nat → Bytes → Nat → Nat → Option Nat
  | 0, _, _, allowed => some allowed
  | n + 1, text, classes, allowed =>
    if text.isEmpty then some allowed
    else
      let who := text.takeWhile ("augo".toList.map (·.toNat.toUInt8)).contains
      let classes := who.foldl (fun acc c => acc ||| permissionClasses c) classes
      let classes := if classes == 0 then 0x49 else classes
      match text.drop who.length with
      | op :: rest =>
        if !(op == 0x3D || op == 0x2B || op == 0x2D) then none
        else
          let perms := rest.takeWhile ("rwxugoXs".toList.map (·.toNat.toUInt8)).contains
          let bits := (perms.foldl (fun acc c => acc ||| permissionBits allowed c) 0) % 8 * classes
          let allowed :=
            if op == 0x2D then allowed - (allowed &&& bits)
            else if op == 0x3D then bits ||| (allowed &&& (511 - classes * 7))
            else allowed ||| bits
          match rest.drop perms.length with
          | [] => some allowed
          | 0x2C :: more => symbolicMask n more 0 allowed
          | more@(c :: _) =>
            if c == 0x3D || c == 0x2B || c == 0x2D then symbolicMask n more classes allowed
            else none
      | [] => some allowed

def umaskBuiltin (argv : List Bytes) : M Nat := do
  let (opts, args) ← readOptions "S" argv.tail
  let sh ← get
  match args with
  | [] =>
    if hasOption opts 'S' then
      let allowed := 511 - sh.mask
      let part (i : Nat) : Bytes :=
        [("ugo".toList.getD i 'u').toNat.toUInt8, 0x3D] ++
          ((List.range 3).filterMap fun j =>
            if (allowed / Nat.pow 2 (8 - (3 * i + j))) % 2 == 1 then
              some ("rwx".toList.getD j 'r').toNat.toUInt8 else none)
      out1 ((List.intersperse [0x2C] [part 0, part 1, part 2]).flatten ++ [0x0A])
    else
      let ds := Nat.toDigits 8 sh.mask
      out1 (Bytes.ofString (String.ofList (List.replicate (4 - ds.length) '0' ++ ds)) ++ [0x0A])
    return 0
  | m :: _ =>
    if m.head?.any isDigit then
      if !m.all isOctal then shError (Bytes.ofString "Illegal number: " ++ m)
      let v := m.foldl (fun n c => n * 8 + (c - 0x30).toNat) 0
      set { sh with mask := v % 512 }
      return 0
    match symbolicMask (m.length + 1) m 0 (511 - sh.mask) with
    | some allowed =>
      set { sh with mask := 511 - allowed % 512 }
      return 0
    | none => shError (Bytes.ofString "Illegal mode: " ++ m)

def timesBuiltin (_ : List Bytes) : M Nat := do
  out1 (Bytes.ofString "0m0.000000s 0m0.000000s\n0m0.000000s 0m0.000000s\n")
  return 0

def testBuiltin (argv : List Bytes) : M Nat := do
  let args := argv.tail
  let args ← if argv.head? == some [0x5B] then
      match args.getLast? with
      | some (0x5D :: _) => pure args.dropLast
      | _ => shError (Bytes.ofString "missing ]")
    else pure args
  match test (← get).files args with
  | .ok b => return if b then 0 else 1
  | .error e => shError e

inductive Found where
  | function (body : Node)
  | builtin (special : Bool)
  | program (path : Bytes) (hashed : Bool)
  | unknown (errno : Errno)

def pathCandidates (path : Bytes) (name : Bytes) : List Bytes :=
  (path.splitOn 0x3A).map fun dir =>
    if dir.isEmpty then name else dir ++ (if dir.getLast? == some 0x2F then [] else [0x2F]) ++ name

def searchPath (fs : Files) (path name : Bytes) : Except Errno Bytes :=
  let step := fun (acc : Except Errno Bytes ⊕ Errno) (p : Bytes) =>
    match acc with
    | .inl r => .inl r
    | .inr e =>
      match fs.lookup p with
      | .ok (_, .file _ _) | .ok (_, .program _) => .inl (.ok p)
      | .ok _ => .inr .accessDenied
      | .error .noEntry | .error .notDirectory => .inr e
      | .error e' => .inr e'
  match (pathCandidates path name).foldl step (.inr .noEntry) with
  | .inl r => r
  | .inr e => .error e

def findCommand (name : Bytes) (functions : Bool) : M Found := do
  let sh ← get
  if name.contains 0x2F then return .program name false
  if functions then
    match sh.funcs.lookup name with
    | some body => return .function body
    | none => pure ()
  match builtin? name with
  | some special => return .builtin special
  | none =>
    match searchPath sh.files sh.path name with
    | .ok p =>
      let hashed := sh.hashed.any (·.1 == name)
      if !hashed then modify fun sh => { sh with hashed := sh.hashed ++ [(name, p)] }
      return .program p hashed
    | .error e => return .unknown e

def notFoundText (e : Errno) : String :=
  match e with
  | .noEntry | .notDirectory => "not found"
  | e => e.describe

def describeCommand (name : Bytes) (verbose : Bool) : M Nat := do
  if verbose then out1 name
  if keywords.any (Bytes.ofString · == name) then
    out1 (if verbose then Bytes.ofString " is a shell keyword\n" else name ++ [0x0A])
    return 0
  let sh ← get
  match sh.aliases.lookup name with
  | some v =>
    if verbose then out1 (Bytes.ofString " is an alias for " ++ v ++ [0x0A])
    else out1 (Bytes.ofString "alias " ++ name ++ [0x3D] ++ singleQuote v ++ [0x0A])
    return 0
  | none => pure ()
  let wasHashed := sh.hashed.lookup name
  let found ← if name.contains 0x2F then
      match sh.files.lookup name with
      | .ok _ => pure (Found.program name false)
      | .error e => pure (Found.unknown e)
    else
      match wasHashed with
      | some p => pure (Found.program p true)
      | none => findCommand name true
  match found with
  | .program p tracked =>
    if verbose then
      out1 (Bytes.ofString (if tracked then " is a tracked alias for " else " is ") ++ p ++ [0x0A])
    else out1 (p ++ [0x0A])
    return 0
  | .function _ =>
    out1 (if verbose then Bytes.ofString " is a shell function\n" else name ++ [0x0A])
    return 0
  | .builtin special =>
    if verbose then
      out1 (Bytes.ofString (if special then " is a special shell builtin\n" else " is a shell builtin\n"))
    else out1 (name ++ [0x0A])
    return 0
  | .unknown _ =>
    if verbose then out1 (Bytes.ofString ": not found\n")
    return 127

def typeBuiltin (argv : List Bytes) : M Nat := do
  let mut status := 0
  for n in argv.tail do
    let s ← describeCommand n true
    if s != 0 then status := s
  return status

def aliasBuiltin (argv : List Bytes) : M Nat := do
  let sh ← get
  if argv.tail.isEmpty then
    for (n, v) in sh.aliases.mergeSort (fun a b => bytesLe a.1 b.1) do
      out1 (n ++ [0x3D] ++ singleQuote v ++ [0x0A])
    return 0
  let mut status := 0
  for a in argv.tail do
    let name := a.takeWhile (· != 0x3D)
    if name.length < a.length then
      let v := a.drop (name.length + 1)
      modify fun sh => { sh with aliases := (sh.aliases.filter (·.1 != name)) ++ [(name, v)] }
    else
      match (← get).aliases.lookup name with
      | some v => out1 (name ++ [0x3D] ++ singleQuote v ++ [0x0A])
      | none =>
        let _ ← writeFd 2 (Bytes.ofString "alias: " ++ name ++ Bytes.ofString " not found\n")
        status := 1
  return status

def unaliasBuiltin (argv : List Bytes) : M Nat := do
  let (opts, names) ← readOptions "a" argv.tail
  if hasOption opts 'a' then
    modify fun sh => { sh with aliases := [] }
    return 0
  let mut status := 0
  for n in names do
    if ((← get).aliases.lookup n).isSome then
      modify fun sh => { sh with aliases := sh.aliases.filter (·.1 != n) }
    else
      let _ ← writeFd 2 (Bytes.ofString "unalias: " ++ n ++ Bytes.ofString " not found\n")
      status := 1
  return status

def hashBuiltin (argv : List Bytes) : M Nat := do
  let (opts, _) ← readOptions "rv" argv.tail
  if hasOption opts 'r' then
    modify fun sh => { sh with hashed := [] }
    return 0
  for (_, p) in (← get).hashed do
    out1 (p ++ [0x0A])
  return 0

def quietBuiltin (_ : List Bytes) : M Nat := return 0

end Shell

end SymbolSieve
