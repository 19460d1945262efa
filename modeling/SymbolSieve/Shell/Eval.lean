import SymbolSieve.Shell.Redirect
import SymbolSieve.Shell.Builtins
import SymbolSieve.Shell.Reader

namespace SymbolSieve

namespace Shell

structure Mode where
  tested : Bool := false
  exit : Bool := false

def statusOf : Termination → Nat
  | .exited n => n
  | .signaled s => 128 + s

def atLine (line : Nat) : M Unit :=
  modify fun sh =>
    { sh with
      errLine := line
      lineno := if sh.funcLine > 0 then line + 1 - sh.funcLine else line }

def setStatus (s : Nat) : M Unit := modify fun sh => { sh with status := s }

def hasTraps (sh : Sh) : Bool := sh.traps.any fun (_, a) => !a.isEmpty

def skipLoop : M Skip := do
  let sh ← get
  match sh.skip with
  | .breakLoop | .continueLoop =>
    if sh.skipCount ≤ 1 then
      set { sh with skip := .none, skipCount := 0 }
      return sh.skip
    set { sh with skipCount := sh.skipCount - 1 }
    return .breakLoop
  | s => return s

def unwindRedirs (stop : Nat) : M Unit := do
  for _ in [0:(← get).redirs.length] do
    if (← get).redirs.length ≤ stop then break
    popRedirLevel false

def unwindFrames (stop : Nat) : M Unit := do
  for _ in [0:(← get).frames.length] do
    if (← get).frames.length ≤ stop then break
    popFrame false

def forkedState (parent : Sh) (pid : Nat) (world : World) : Sh :=
  { parent with
    world, pid, parentPid := parent.pid, ancestors := parent.pid :: parent.ancestors,
    traps := parent.traps.filter fun (_, a) => a.isEmpty, jobs := [], pending := [],
    root := false }

def backgroundStart (first : Bool) : M Unit := do
  modify fun sh => { sh with ignoredAtStart := sh.ignoredAtStart ++ [2, 3] }
  if first then
    let sh ← get
    match sh.world.openPath sh.cwd (Bytes.ofString "/dev/null") .read with
    | .ok (.inl d, w) => set { sh with world := w, fds := sh.fds.set 0 { description := d } }
    | _ => pure ()

def reportEnding (t : Termination) : M Unit :=
  match t with
  | .signaled s => if s == 2 || s == 13 then pure () else out2 (Bytes.ofString (Signal.description s ++ "\n"))
  | .exited _ => pure ()

def takeSignals : M Unit := do
  let sh ← get
  let mine := sh.world.pending.filter (·.1 == sh.pid)
  if mine.isEmpty then return
  set { sh with world := { sh.world with pending := sh.world.pending.filter (·.1 != sh.pid) } }
  for (_, s) in mine do deliverSelf s

def waitFor (t : Termination) : M Nat := do
  takeSignals
  reportEnding t
  return statusOf t

def parseCommandArgs (argv : List Bytes) : Option (List Bytes) :=
  let rec go : Nat → List Bytes → Option (List Bytes)
    | 0, _ => none
    | _ + 1, [] => none
    | n + 1, a :: rest =>
      match a with
      | [0x2D] => some (a :: rest)
      | [0x2D, 0x2D] => if rest.isEmpty then none else some rest
      | 0x2D :: opts => if opts.all (· == 0x70) then go n rest else none
      | _ => some (a :: rest)
  go argv.length (argv.drop 1)

def redirectSafe (sub : Substituter) (ready : List Ready) (push : Bool) : M Nat :=
  tryCatch (do applyRedirs sub ready push; pure 0) fun e =>
    match e with
    | .error => pure 2
    | e => throw e

def trace (words : List Bytes) : M Unit := do
  let sh ← get
  let lead := (sh.value? (Bytes.ofString "PS4")).getD []
  let _ ← writeFd sh.traceFd (lead ++ (words.intersperse [0x20]).flatten ++ [0x0A])

def prehash (stage : Node) : M Unit := do
  match stage with
  | .simple _ _ (w :: _) _ =>
    match Sym.plainWord? w with
    | some name => if !name.isEmpty && isName name then let _ ← findCommand name true
    | none => pure ()
  | _ => pure ()

def tryExec (path : Bytes) (argv : List Bytes) : M Errno := do
  let sh ← get
  let proc := { sh.proc with fds := sh.fds.afterExec }
  match sh.launch sh.world proc path argv with
  | .ok (w, t) => set { sh with world := w }; throw (.replaced t)
  | .error .execFormat =>
    let bshell := Bytes.ofString "/bin/sh"
    match sh.launch sh.world proc bshell (bshell :: path :: argv.drop 1) with
    | .ok (w, t) => set { sh with world := w }; throw (.replaced t)
    | .error e => return e
  | .error e => return e

def shellExec (argv : List Bytes) (found : Option Bytes) : M Unit := do
  let sh ← get
  let name := argv.headD []
  let mut err := Errno.noEntry
  if name.contains 0x2F then
    err ← tryExec name argv
  else
    let all := pathCandidates sh.path name
    let places := match found with
      | some p => all.dropWhile (· != p)
      | none => all
    for p in places do
      let e ← tryExec p argv
      if e != .noEntry && e != .notDirectory then err := e
  let status := match err with
    | .accessDenied => 126
    | .noEntry => 127
    | _ => 2
  setStatus status
  endWith (name ++ Bytes.ofString (": " ++ notFoundText err))

def showPrompt (sub : Substituter) (name : String) : M Unit := do
  let sh ← get
  let text := (sh.value? (Bytes.ofString name)).getD []
  let shown ← match readPrompt.run (Reader.ofText text 1 sh.nextDoc) with
    | .ok w _ => tryCatch (expandDocument sub w) fun _ => pure text
    | .error _ _ => pure text
  out2 shown

def readNext (r : Reader) (continued : M Unit) : M (Except Reader (Parsed × Reader)) := do
  let first := (← get).nextDoc
  let res := readCommand.run { r with docs := [], nextDoc := first, aliases := (← get).aliases }
  let after := match res with
    | .ok _ r' => r'
    | .error _ r' => r'
  for _ in [0:continuationLines r after] do continued
  match res with
  | .ok p r' =>
    modify fun sh => { sh with docs := sh.docs ++ r'.docs, nextDoc := r'.nextDoc }
    return .ok (p, r')
  | .error e r' =>
    modify fun sh => { sh with errLine := e.line, nextDoc := r'.nextDoc, status := 2 }
    warn e.message
    flushOut
    return .error r'

def parseNext (r : Reader) : M (Parsed × Reader) := do
  match ← readNext r (pure ()) with
  | .ok x => return x
  | .error _ => throw .error

def findDotFile (name : Bytes) : M Bytes := do
  if name.contains 0x2F then return name
  let sh ← get
  for p in pathCandidates sh.path name do
    match sh.files.lookup p with
    | .ok (_, .file _ _) => return p
    | _ => pure ()
  shError (name ++ Bytes.ofString ": not found")

def readScript (path : Bytes) : M Bytes := do
  let sh ← get
  match sh.world.openPath sh.cwd path .read with
  | .ok (.inl d, w) =>
    match w.readAll d with
    | .ok (b, w') => set { sh with world := w' }; return b
    | .error _ => set { sh with world := w }; return []
  | .ok (.inr fd, w) =>
    match w.readAllFd sh.fds fd with
    | .ok (b, w') => set { sh with world := w' }; return b
    | .error _ => set { sh with world := w }; return []
  | .error e =>
    shError (Bytes.ofString "cannot open " ++ path ++ Bytes.ofString (": " ++ openError false e))

def ulimitBuiltin (argv : List Bytes) : M Nat := do
  let (_, rest) ← readOptions "HSatfdsrmlpnvwc" argv.tail
  if rest.isEmpty then out1 (Bytes.ofString "unlimited\n")
  return 0

def commandBuiltin (argv : List Bytes) : M Nat := do
  let (opts, rest) ← readOptions "pvV" argv.tail
  let brief := hasOption opts 'v'
  let verbose := hasOption opts 'V'
  match rest with
  | name :: _ => if brief || verbose then describeCommand name verbose else return 0
  | [] => return 0

def plainBuiltins : List (String × (List Bytes → M Nat)) :=
  [(":", trueBuiltin), ("true", trueBuiltin), ("false", falseBuiltin), ("[", testBuiltin),
   ("test", testBuiltin), ("alias", aliasBuiltin), ("unalias", unaliasBuiltin),
   ("bg", quietBuiltin), ("fg", quietBuiltin), ("jobs", quietBuiltin), ("ulimit", ulimitBuiltin),
   ("break", loopBuiltin), ("continue", loopBuiltin), ("cd", cdBuiltin), ("chdir", cdBuiltin),
   ("echo", echoBuiltin), ("printf", printfBuiltin), ("exit", exitBuiltin),
   ("export", exportBuiltin), ("readonly", exportBuiltin), ("getopts", getoptsBuiltin),
   ("hash", hashBuiltin), ("kill", killBuiltin), ("local", localBuiltin), ("pwd", pwdBuiltin),
   ("read", readBuiltin), ("return", returnBuiltin), ("set", setBuiltin), ("shift", shiftBuiltin),
   ("times", timesBuiltin), ("trap", trapBuiltin), ("type", typeBuiltin), ("umask", umaskBuiltin),
   ("unset", unsetBuiltin), ("wait", waitBuiltin), ("command", commandBuiltin)]

def loopRounds : Nat := 1000000

mutual

def runTraps : Nat → M Unit
  | 0 => pure ()
  | n + 1 => do
    let sh ← get
    if sh.pending.isEmpty then return
    let lastSave := sh.saveStatus
    let status := sh.saveStatus.getD sh.status
    let sigs := (List.range Signal.count).filter sh.pending.contains
    set { sh with saveStatus := some status, pending := [] }
    let mut i := 0
    for s in sigs do
      if (← get).skip != .none then
        modify fun sh => { sh with pending := sigs.drop i ++ sh.pending }
        break
      i := i + 1
      match (← get).traps.lookup s with
      | some action =>
        let _ ← evalString n action {}
        if (← get).skip != .function then setStatus status
      | none => pure ()
    modify fun sh => { sh with saveStatus := lastSave }

def evalString : Nat → Bytes → Mode → M Nat
  | 0, _, _ => return 0
  | n + 1, text, mode => do
    let mut reader := Reader.ofText text 1 (← get).nextDoc
    let mut status := 0
    for _ in [0:text.length + 2] do
      let (parsed, r) ← parseNext reader
      reader := r
      match parsed with
      | .eof => break
      | .command node =>
        let i ← evalNode n node { mode with exit := mode.exit && r.atEnd }
        if node.isSome then status := i
        if (← get).skip != .none then break
    return status

def evalFile : Nat → Bytes → M Nat
  | 0, _ => return 0
  | n + 1, text => do
    let mut reader := Reader.ofText text 1 (← get).nextDoc
    let mut status := 0
    for _ in [0:text.length + 2] do
      let (parsed, r) ← parseNext reader
      reader := r
      match parsed with
      | .eof => break
      | .command node =>
        if !(← get).opt optNoexec then
          let i ← evalNode n node {}
          if node.isSome then status := i
      let sh ← get
      if sh.skip != .none then
        if sh.skip == .function || sh.skip == .functionKeep then set { sh with skip := .none }
        break
    return status

def evalNode : Nat → Option Node → Mode → M Nat
  | 0, _, _ => return 0
  | n + 1, some node, mode => evalTree n node mode
  | n + 1, none, mode => do
    runTraps n
    if mode.exit then throw .exit
    return (← get).status

def evalTree : Nat → Node → Mode → M Nat
  | 0, _, _ => return 0
  | n + 1, node, mode => do
    if (← get).opt optNoexec then
      runTraps n
      if mode.exit then throw .exit
      return (← get).status
    runTraps n
    let tested : Mode := { tested := true }
    let (status, checkExit) ← match node with
      | .negate body => do
        let s ← evalTree n body tested
        let s := if s == 0 then 1 else 0
        setStatus s
        pure (s, false)
      | .redirected line body redirs => do
        atLine line
        let ready ← expandRedirs (commandOutput n) redirs
        pushRedirLevel
        let mut s ← redirectSafe (commandOutput n) ready true
        if s == 0 then s ← evalTree n body { tested := mode.tested }
        popRedirLevel false
        setStatus s
        pure (s, false)
      | .simple line assigns args redirs => do
        let s ← evalCommand n line assigns args redirs mode
        setStatus s
        pure (s, !mode.tested)
      | .pipeline bg stages => do
        let s ← evalPipe n bg stages mode
        setStatus s
        pure (s, !mode.tested)
      | .subshell line body redirs => do
        let s ← evalSubshell n line body redirs false mode
        setStatus s
        pure (s, !mode.tested)
      | .background line body redirs => do
        let s ← evalSubshell n line body redirs true mode
        setStatus s
        pure (s, !mode.tested)
      | .and first second => do
        let s ← evalTree n first tested
        if s != 0 || (← get).skip != .none then pure (s, false)
        else
          let s ← evalTree n second mode
          setStatus s
          pure (s, false)
      | .or first second => do
        let s ← evalTree n first tested
        if s == 0 || (← get).skip != .none then pure (s, false)
        else
          let s ← evalTree n second mode
          setStatus s
          pure (s, false)
      | .seq first second => do
        let s ← evalTree n first { tested := mode.tested }
        if (← get).skip != .none then pure (s, false)
        else
          let s ← evalTree n second mode
          setStatus s
          pure (s, false)
      | .cond test yes no => do
        let s ← evalTree n test tested
        if (← get).skip != .none then pure (s, false)
        else if s == 0 then
          let s ← evalTree n yes mode
          setStatus s
          pure (s, false)
        else
          match no with
          | some other =>
            let s ← evalTree n other mode
            setStatus s
            pure (s, false)
          | none =>
            setStatus 0
            pure (0, false)
      | .whileLoop test body => do
        let s ← evalLoop n test body true mode
        setStatus s
        pure (s, false)
      | .untilLoop test body => do
        let s ← evalLoop n test body false mode
        setStatus s
        pure (s, false)
      | .forLoop line name words body => do
        let s ← evalFor n line name words body mode
        setStatus s
        pure (s, false)
      | .caseOf line subject arms => do
        let s ← evalCase n line subject arms mode
        setStatus s
        pure (s, false)
      | .function _ name _ => do
        modify fun sh => { sh with funcs := (name, node) :: sh.funcs.filter (·.1 != name) }
        setStatus 0
        pure (0, false)
    runTraps n
    let sh ← get
    if sh.opt optErrexit && checkExit && status != 0 then throw .exit
    if mode.exit then throw .exit
    return sh.status

def evalLoop : Nat → Node → Node → Bool → Mode → M Nat
  | 0, _, _, _, _ => return 0
  | n + 1, test, body, isWhile, mode => do
    modify fun sh => { sh with loopNest := sh.loopNest + 1 }
    let mut status := 0
    for _ in [0:loopRounds] do
      let i ← evalTree n test { tested := true }
      let skip ← skipLoop
      if skip == .function || skip == .functionKeep then status := i
      if skip == .continueLoop then continue
      if skip != .none then break
      let go := if isWhile then i == 0 else i != 0
      if !go then break
      status ← evalTree n body { tested := mode.tested }
      let skip ← skipLoop
      if skip != .none && skip != .continueLoop then break
    modify fun sh => { sh with loopNest := sh.loopNest - 1 }
    return status

def evalFor : Nat → Nat → Bytes → List (List Sym) → Node → Mode → M Nat
  | 0, _, _, _, _, _ => return 0
  | n + 1, line, name, words, body, mode => do
    atLine line
    let items ← expandArgs (commandOutput n) words
    modify fun sh => { sh with loopNest := sh.loopNest + 1 }
    let mut status := 0
    for item in items do
      setVar name (some item)
      status ← evalTree n body { tested := mode.tested }
      let skip ← skipLoop
      if skip != .none && skip != .continueLoop then break
    modify fun sh => { sh with loopNest := sh.loopNest - 1 }
    return status

def evalCase : Nat → Nat → List Sym → List (List (List Sym) × Option Node) → Mode → M Nat
  | 0, _, _, _, _ => return 0
  | n + 1, line, subject, arms, mode => do
    atLine line
    let text ← expandName (commandOutput n) subject
    for (patterns, body) in arms do
      if (← get).skip != .none then break
      for p in patterns do
        if ← caseMatches (commandOutput n) p text then
          match body with
          | some b => if (← get).skip == .none then return (← evalTree n b mode)
          | none => pure ()
          return 0
    return 0

def evalSubshell : Nat → Nat → Node → List Redir → Bool → Mode → M Nat
  | 0, _, _, _, _, _ => return 0
  | n + 1, line, body, redirs, bg, mode => do
    atLine line
    let ready ← expandRedirs (commandOutput n) redirs
    if !bg && mode.exit && !hasTraps (← get) then
      modify fun sh => { sh with redirs := [], root := false }
      applyRedirs (commandOutput n) ready false
      let _ ← evalTree n body mode
      throw .exit
    let (pid, t) ← runProcess n (do
      if bg then backgroundStart true
      applyRedirs (commandOutput n) ready false
      let _ ← evalTree n body { tested := mode.tested && !bg, exit := true }
      throw .exit)
    if bg then
      modify fun sh => { sh with jobs := sh.jobs ++ [{ pid, ending := t }], lastBg := some pid }
      return 0
    waitFor t

def evalPipe : Nat → Bool → List Node → Mode → M Nat
  | 0, _, _, _ => return 0
  | n + 1, bg, stages, mode => do
    let count := stages.length
    let mut prev : Option Nat := none
    let mut ends : List (Nat × Termination) := []
    let mut i := 0
    for stage in stages do
      prehash stage
      let pipe ← if i + 1 == count then pure none else do
        let sh ← get
        let (r, w, world) := sh.world.newPipe
        set { sh with world }
        pure (some (r, w))
      let input := prev
      let first := i == 0
      let (pid, t) ← runProcess n (do
        if bg then backgroundStart first
        match input with
        | some r => setFd 0 { description := r }
        | none => pure ()
        match pipe with
        | some (_, w) => setFd 1 { description := w }
        | none => pure ()
        let _ ← evalTree n stage { mode with exit := true }
        throw .exit)
      ends := ends ++ [(pid, t)]
      prev := pipe.map (·.1)
      i := i + 1
    if bg then
      modify fun sh =>
        { sh with
          jobs := sh.jobs ++ ends.map (fun (pid, t) => { pid, ending := t }),
          lastBg := ends.getLast?.map (·.1) }
      return 0
    takeSignals
    for (_, t) in ends do reportEnding t
    return (ends.getLast?.map fun (_, t) => statusOf t).getD 0

def commandOutput : Nat → Option Node → M Bytes
  | 0, _ => return []
  | _ + 1, none => return []
  | n + 1, some body => do
    let sh ← get
    let (r, w, world) := sh.world.newPipe
    set { sh with world }
    let (_, t) ← runProcess n (do
      setFd 1 { description := w }
      let _ ← evalTree n body { exit := true }
      throw .exit)
    let sh ← get
    let out ← match sh.world.readAll r with
      | .ok (b, w') => do set { sh with world := w' }; pure b
      | .error _ => pure []
    let s ← waitFor t
    modify fun sh => { sh with backStatus := s }
    return out

def runProcess : Nat → M Unit → M (Nat × Termination)
  | 0, _ => return (0, .exited 2)
  | n + 1, body => do
    let parent ← get
    let (pid, world) := parent.world.freshPid
    match (finishProcess n body).run (forkedState parent pid world) with
    | .ok t final =>
      set { parent with world := final.world }
      return (pid, t)
    | .error _ final =>
      set { parent with world := final.world }
      return (pid, .exited 2)

def finishProcess : Nat → M Unit → M Termination
  | 0, _ => return .exited 2
  | n + 1, body => do
    let r ← tryCatch (do body; pure none) fun e => pure (some e)
    match r with
    | some (.signal s) => return .signaled s
    | some (.replaced t) => return t
    | _ => exitShell n

def exitShell : Nat → M Termination
  | 0 => return .exited 2
  | n + 1 => do
    let sh ← get
    let status := sh.saveStatus.getD sh.status
    set { sh with status, saveStatus := none }
    let mut final := status
    match sh.traps.lookup 0 with
    | some action =>
      modify fun sh => { sh with traps := sh.traps.filter (·.1 != 0), skip := .none }
      let r ← tryCatch (do let _ ← evalString n action {}; pure none) fun e => pure (some e)
      match r with
      | some (.signal s) => return .signaled s
      | some (.replaced t) => return t
      | some .exit =>
        let sh ← get
        final := sh.saveStatus.getD sh.status
      | _ => pure ()
    | none => pure ()
    flushOut
    return .exited (final % 256)

def evalCommand : Nat → Nat → List (List Sym) → List (List Sym) → List Redir → Mode → M Nat
  | 0, _, _, _, _, _ => return 0
  | n + 1, line, assigns, args, redirs, mode => do
    atLine line
    modify fun sh => { sh with backStatus := 0 }
    let sub := commandOutput n
    let words ← expandCommandArgs sub args
    let ready ← expandRedirs sub redirs
    let sh ← get
    let frameStop := sh.frames.length
    let redirStop := sh.redirs.length
    pushFrame
    modify fun sh => { sh with traceFd := 2 }
    if !redirs.isEmpty then pushRedirLevel
    let mut status ← redirectSafe sub ready true
    if !redirs.isEmpty then
      match ((← get).redirs.headD []).lookup 2 with
      | some (.moved c) => modify fun sh => { sh with traceFd := c }
      | _ => pure ()
    let mut texts : List Bytes := []
    for a in assigns do
      let t ← expandAssignment sub a
      makeLocal t true
      texts := texts ++ [t]
    if (← get).opt optXtrace then trace (texts ++ words)
    let mut argv := words
    let mut found : Found := .builtin false
    let mut special : Option Bool := none
    let mut execs := 0
    let mut functions := true
    if !argv.isEmpty then
      for _ in [0:words.length + 1] do
        let name := argv.headD []
        let f ← findCommand name functions
        match f with
        | .unknown e =>
          warn (name ++ Bytes.ofString (": " ++ notFoundText e))
          status := 127
          break
        | .builtin sp =>
          if special.isNone then special := some sp
          if name == Bytes.ofString "exec" then execs := execs + 1
          found := f
          if name != Bytes.ofString "command" then break
          match parseCommandArgs argv with
          | some rest =>
            argv := rest
            functions := false
          | none => break
        | _ =>
          found := f
          break
    let isSpecial := special == some true
    let result ← if status != 0 then do
        setStatus status
        if isSpecial then throw .error
        pure status
      else
        match found with
        | .program path _ =>
          if !mode.exit || hasTraps (← get) then
            let (_, t) ← runProcess n (shellExec argv (some path))
            waitFor t
          else
            shellExec argv (some path)
            pure 0
        | .unknown _ => pure 127
        | .builtin _ =>
          if isSpecial || argv.isEmpty then
            popFrame true
            if execs > 0 && argv.length > 1 then
              for t in texts do setAssignment t true false
          let r ← tryCatch (do let s ← evalBuiltin n argv mode; pure (Except.ok s))
            fun e => pure (Except.error e)
          match r with
          | .ok s => pure s
          | .error .error => if isSpecial then throw .error else pure (← get).status
          | .error e => throw e
        | .function fn => evalFun n fn argv mode
    if !redirs.isEmpty then popRedirLevel (execs > 0)
    unwindRedirs redirStop
    unwindFrames frameStop
    return result

def evalBuiltin : Nat → List Bytes → Mode → M Nat
  | 0, _, _ => return 0
  | n + 1, argv, mode => do
    let saved := (← get).cmdName
    modify fun sh => { sh with cmdName := argv.head? }
    let r ← tryCatch (do
        let s ← runBuiltin n argv mode
        flushOut
        let mut s := s
        if (← get).outError then
          warn (argv.headD [] ++ Bytes.ofString ": I/O error")
          s := s ||| 1
        setStatus s
        pure (Except.ok s))
      fun e => pure (Except.error e)
    modify fun sh => { sh with cmdName := saved, out := [], outError := false }
    match r with
    | .ok s => return s
    | .error e => throw e

def runBuiltin : Nat → List Bytes → Mode → M Nat
  | 0, _, _ => return 0
  | n + 1, argv, mode => do
    match argv with
    | [] => return (← get).backStatus
    | name :: args =>
      if name == Bytes.ofString "eval" then
        if args.isEmpty then return 0
        evalString n ((args.intersperse [0x20]).flatten) { tested := mode.tested }
      else if name == Bytes.ofString "." then
        let (_, rest) ← readOptions "" args
        match rest with
        | [] => return 0
        | file :: _ =>
          let path ← findDotFile file
          let text ← readScript path
          modify fun sh => { sh with cmdName := some path }
          evalFile n text
      else if name == Bytes.ofString "exec" then
        if args.isEmpty then return 0
        shellExec args none
        return 0
      else
        match plainBuiltins.find? fun (b, _) => Bytes.ofString b == name with
        | some (_, run) => run argv
        | none => return 0

def evalFun : Nat → Node → List Bytes → Mode → M Nat
  | 0, _, _, _ => return 0
  | n + 1, fn, argv, mode => do
    let (fline, body) := match fn with
      | .function l _ b => (l, b)
      | b => (0, b)
    let saved ← get
    set { saved with
      params := argv.drop 1, optInd := 1, optOff := none, funcLine := fline, loopNest := 0 }
    let r ← tryCatch (do
        let _ ← evalTree n body { tested := mode.tested }
        pure none)
      fun e => pure (some e)
    modify fun sh =>
      { sh with
        params := saved.params, optInd := saved.optInd, optOff := saved.optOff,
        funcLine := saved.funcLine, loopNest := saved.loopNest,
        skip := if sh.skip == .function || sh.skip == .functionKeep then .none else sh.skip }
    match r with
    | some e => throw e
    | none => return (← get).status

end

def inputBlock : Nat := 8192

def discardBlock (r : Reader) : Reader :=
  let main := r.main
  let next := (main.pos + inputBlock - 1) / inputBlock * inputBlock
  { source := { main with pos := min next main.text.size, alias? := none }, nextDoc := r.nextDoc }

def resetAfterError : M Unit := do
  unwindRedirs 0
  unwindFrames 0
  modify fun sh => { sh with skip := .none, loopNest := 0 }

def recoversFromError : M Bool := do
  let sh ← get
  return sh.opt optInteractive && sh.root

def evalInput : Nat → Bytes → M Unit
  | 0, _ => pure ()
  | n + 1, text => do
    let mut reader := Reader.ofText text 1 (← get).nextDoc
    let mut ends := 0
    for _ in [0:text.length + 52] do
      let interactive := (← get).opt optInteractive
      if interactive then showPrompt (commandOutput n) "PS1"
      let continued := if interactive then showPrompt (commandOutput n) "PS2" else pure ()
      match ← readNext reader continued with
      | .error r =>
        if !(← recoversFromError) then throw .error
        reader := discardBlock r
        resetAfterError
      | .ok (.eof, r) =>
        reader := r
        if ends ≥ 50 then break
        if !(← get).opt optIgnoreeof then
          if interactive then out2 [0x0A]
          break
        out2 (Bytes.ofString "\nUse \"exit\" to leave shell.\n")
        ends := ends + 1
      | .ok (.command node, r) =>
        reader := r
        ends := 0
        if !(← get).opt optNoexec then
          let res ← tryCatch (do let _ ← evalNode n node {}; pure none) fun e => pure (some e)
          match res with
          | some .error =>
            if !(← recoversFromError) then throw .error
            reader := discardBlock reader
            resetAfterError
          | some e => throw e
          | none => pure ()
        let sh ← get
        if sh.skip != .none then
          if sh.skip == .function || sh.skip == .functionKeep then set { sh with skip := .none }
          break

end Shell

end SymbolSieve
