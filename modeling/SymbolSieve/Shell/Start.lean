import SymbolSieve.Shell.Eval

namespace SymbolSieve

namespace Shell

def startVars : List (Bytes × Var) :=
  [("IFS", " \t\n"), ("PATH", "/usr/local/sbin:/usr/local/bin:/usr/sbin:/usr/bin:/sbin:/bin"),
   ("PS1", "# "), ("PS2", "> "), ("PS4", "+ "), ("OPTIND", "1")].map
    (fun (n, v) => (Bytes.ofString n, ({ value := some (Bytes.ofString v) } : Var)))

def initVar (vars : List (Bytes × Var)) (name value : Bytes) (exported : Bool) : List (Bytes × Var) :=
  if vars.any (·.1 == name) then
    vars.map fun (n, v) =>
      let v' : Var := { v with value := some value, exported := v.exported || exported, dynamic := false }
      (n, if n == name then v' else v)
  else vars ++ [(name, { value := some value, exported })]

def importEntry (vars : List (Bytes × Var)) (entry : Bytes) : List (Bytes × Var) :=
  let len := nameLength entry
  if len > 0 && entry.getD len 0 == 0x3D then
    initVar vars (entry.take len) (entry.drop (len + 1)) true
  else vars

def pathOf (loc : List Bytes) : Bytes :=
  if loc.isEmpty then [0x2F] else loc.flatMap fun n => 0x2F :: n

def initialVars (fs : Files) (proc : Proc) : List (Bytes × Var) × Bytes :=
  let vars := proc.env.foldl importEntry startVars
  let vars := initVar vars (Bytes.ofString "IFS") (Bytes.ofString " \t\n") false
  let vars := initVar vars (Bytes.ofString "OPTIND") (Bytes.ofString "1") false
  let vars := initVar vars (Bytes.ofString "PPID") (decimal proc.parent) false
  let inherited := (vars.lookup (Bytes.ofString "PWD")).bind (·.value)
  let physical := pathOf proc.cwd
  let curdir := match inherited with
    | some p =>
      if p.head? == some 0x2F then
        match ({ fs with home := proc.cwd } : Files).lookup p with
        | .ok (loc, .directory) => if loc == proc.cwd then p else physical
        | _ => physical
      else physical
    | none => physical
  (initVar vars (Bytes.ofString "PWD") curdir true, curdir)

def lettersOptions (l : UInt8) (on : Bool) : List Nat :=
  let own := (optionTable.findIdx? (·.1 == some l)).toList
  if on && l == 0x56 then own ++ [10]
  else if on && l == 0x45 then own ++ [9]
  else own

def commandLineOptions : Nat → List Bytes → Bool → List Nat → M (Bool × List Bytes × List Nat)
  | 0, args, c, given => return (c, args, given)
  | n + 1, args, c, given =>
    match args with
    | [] => return (c, [], given)
    | a :: rest =>
      match a with
      | [0x2D] => return (c, rest, given)
      | [0x2D, 0x2D] => return (c, rest, given)
      | sign :: letters =>
        if sign != 0x2D && sign != 0x2B then return (c, args, given)
        else do
          let on := sign == 0x2D
          let mut rest := rest
          let mut c := c
          let mut given := given
          for l in letters do
            if l == 0x63 then c := true
            else if l == 0x6C then pure ()
            else if l == 0x6F then
              setOptionName rest.head? on
              given := given ++ (rest.head?.bind fun name =>
                optionTable.findIdx? fun (_, s) => Bytes.ofString s == name).toList
              rest := rest.drop 1
            else
              setOptionLetter l on
              given := given ++ lettersOptions l on
          commandLineOptions n rest c given
      | [] => return (c, args, given)

def readInput : M Bytes := do
  let sh ← get
  match sh.world.readAllFd sh.fds 0 with
  | .ok (b, w) => set { sh with world := w }; return b
  | .error _ => return []

def shellBody (fuel : Nat) (args : List Bytes) : M Unit := do
  -- an option the command line has not set yet lists as on
  modify fun sh => { sh with opts := sh.opts.map fun _ => true }
  let (command, operands, given) ← commandLineOptions (args.length + 1) args false []
  if command && operands.isEmpty then shError (Bytes.ofString "-c requires an argument")
  -- the others are off, except that monitor follows interactive
  modify fun sh =>
    let opts := (List.range sh.opts.length).map fun i => given.contains i && sh.opt i
    let opts := if given.contains optMonitor then opts
      else opts.set optMonitor (opts.getD optInteractive false)
    { sh with opts }
  let fromInput := (← get).opt optStdin || (!command && operands.isEmpty)
  modify fun sh => { sh with opts := sh.opts.set optStdin fromInput }
  let mut text : Bytes := []
  if command then
    text := operands.headD []
    match operands.drop 1 with
    | a0 :: ps => modify fun sh => { sh with arg0 := a0, params := ps }
    | [] => pure ()
  else if !fromInput then
    let script := operands.headD []
    let body ← readScript script
    modify fun sh => { sh with arg0 := script, params := operands.drop 1 }
    settleMonitor
    evalInput fuel body
    return
  else modify fun sh => { sh with params := operands }
  settleMonitor
  if command then
    let r ← tryCatch (do let _ ← evalString fuel text { exit := !fromInput }; pure none)
      fun e => pure (some e)
    match r with
    | some .error =>
      -- an interactive shell goes on with its standard input
      if !(← recoversFromError) then throw .error
      resetAfterError
      evalInput fuel (← readInput)
      return
    | some e => throw e
    | none => pure ()
  if fromInput then evalInput fuel (← readInput)

def runShell (fuel : Nat) (launch : Launch) (w : World) (proc : Proc) (argv : List Bytes) :
    World × Termination :=
  let (vars, curdir) := initialVars w.files proc
  let start : Sh :=
    { world := w, pid := proc.pid, rootPid := proc.pid, parentPid := proc.parent,
      ancestors := proc.ancestors, fds := proc.fds, cwd := proc.cwd, curdir,
      arg0 := argv.headD (Bytes.ofString "sh"), ignoredAtStart := proc.ignored, launch, vars }
  let run : M Termination := do
    let r ← tryCatch (do shellBody fuel (argv.drop 1); pure none) fun e => pure (some e)
    match r with
    | some (.signal s) => return .signaled s
    | some (.replaced t) => return t
    | _ => exitShell fuel
  match run.run start with
  | .ok t sh => (sh.world, t)
  | .error _ sh => (sh.world, .exited 2)

end Shell

end SymbolSieve
