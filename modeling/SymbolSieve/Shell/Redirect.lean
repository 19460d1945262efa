import SymbolSieve.Shell.Expand

namespace SymbolSieve

namespace Shell

inductive Ready where
  | file (op : FileOp) (fd : Nat) (path : Bytes)
  | dup (fd : Nat) (source : Option Nat)
  | here (fd : Nat) (doc : Nat) (expand : Bool)

def Ready.fd : Ready → Nat
  | .file _ fd _ => fd
  | .dup fd _ => fd
  | .here fd _ _ => fd

def expandRedirs (sub : Substituter) (rs : List Redir) : M (List Ready) := do
  let mut out := []
  for r in rs do
    match r with
    | .file op fd word => out := out ++ [.file op fd (← expandName sub word)]
    | .dup _ fd (.inl source) => out := out ++ [.dup fd source]
    | .dup _ fd (.inr word) =>
      let text ← expandName sub word
      match text with
      | [c] =>
        if isDigit c then out := out ++ [.dup fd (some (c - 0x30).toNat)]
        else if c == 0x2D then out := out ++ [.dup fd none]
        else shError (Bytes.ofString "Syntax error: Bad fd number")
      | _ => shError (Bytes.ofString "Syntax error: Bad fd number")
    | .here fd doc expand => out := out ++ [.here fd doc expand]
  return out

def setFd (fd : Nat) (slot : Slot) : M Unit :=
  modify fun sh => { sh with fds := sh.fds.set fd slot }

def closeFd (fd : Nat) : M Unit := modify fun sh => { sh with fds := sh.fds.close fd }

def dupFd (source target : Nat) : M Bool := do
  let sh ← get
  match sh.fds.get? source with
  | some slot =>
    if source != target then setFd target { slot with closeOnExec := false }
    return true
  | none => return false

def saveFd (fd : Nat) : M (Option Nat) := do
  let sh ← get
  match sh.fds.get? fd with
  | some slot =>
    let copy := sh.fds.lowestFree 10
    setFd copy { slot with closeOnExec := true }
    return some copy
  | none => return none

def openError (creating : Bool) (e : Errno) : String :=
  match e with
  | .noEntry | .notDirectory => if creating then "Directory nonexistent" else "No such file"
  | e => e.describe

def openAt (path : Bytes) (mode : OpenMode) (creating : Bool) : M Nat := do
  let sh ← get
  let fail (e : Errno) : M Nat :=
    shError (Bytes.ofString (if creating then "cannot create " else "cannot open ") ++ path ++
      Bytes.ofString (": " ++ openError creating e))
  match sh.world.openPath sh.cwd path mode with
  | .error e => fail e
  | .ok (.inl d, w) =>
    let fd := sh.fds.lowestFree 0
    set { sh with world := w, fds := sh.fds.set fd { description := d } }
    return fd
  | .ok (.inr own, w) =>
    match sh.fds.get? own with
    | some slot =>
      let fd := sh.fds.lowestFree 0
      set { sh with world := w, fds := sh.fds.set fd { slot with closeOnExec := false } }
      return fd
    | none => fail .noEntry

def openRedirect (sub : Substituter) (r : Ready) : M (Option (Option Nat)) := do
  match r with
  | .file op _ path =>
    let sh ← get
    let fd ← match op with
      | .input => openAt path .read false
      | .both => openAt path .readWrite true
      | .append => openAt path (.write false true false) true
      | .clobber => openAt path (.write true false false) true
      | .output =>
        if sh.opt optNoclobber then
          match sh.files.lookup path with
          | .ok (_, .file _ _) => shError (Bytes.ofString "cannot create " ++ path ++ Bytes.ofString ": File exists")
          | .ok _ => openAt path (.write false false false) true
          | .error _ => openAt path (.write true false true) true
        else openAt path (.write true false false) true
    return some (some fd)
  | .dup fd source =>
    if source == some fd then return none
    return some source
  | .here _ doc expand =>
    let sh ← get
    let body := (sh.docs.lookup doc).getD []
    let text ← if expand then expandDocument sub body
      else pure (body.filterMap fun s => match s with
        | .char c => some c
        | .esc c => some c
        | _ => none)
    let sh ← get
    let (r, w, world) := sh.world.newPipe
    let world := match world.write w text with
      | .ok w' => w'
      | .error _ => world
    let fd := sh.fds.lowestFree 0
    set { sh with world, fds := sh.fds.set fd { description := r } }
    return some (some fd)

def applyRedirs (sub : Substituter) (rs : List Ready) (push : Bool) : M Unit := do
  for r in rs do
    let fd := r.fd
    match ← openRedirect sub r with
    | none => pure ()
    | some newfd =>
      -- save what the descriptor held, the first time this level changes it
      let sh ← get
      let level := sh.redirs.headD []
      let mut moved := false
      if push && !(level.any (·.1 == fd)) then
        let saved ← if newfd == some fd then pure Saved.closed
          else do
            moved := true
            match ← saveFd fd with
            | some copy => closeFd fd; pure (Saved.moved copy)
            | none => pure (if newfd.isNone then Saved.untouched else Saved.closed)
        modify fun sh => { sh with redirs := match sh.redirs with
          | l :: rest => ((fd, saved) :: l) :: rest
          | [] => [] }
      if newfd == some fd then continue
      match newfd with
      | none => if !moved then closeFd fd
      | some src =>
        match r with
        | .dup _ _ =>
          if !(← dupFd src fd) then
            shError (decimal src ++ Bytes.ofString ": Bad file descriptor")
        | _ =>
          let _ ← dupFd src fd
          closeFd src

def pushRedirLevel : M Unit := modify fun sh => { sh with redirs := [] :: sh.redirs }

def popRedirLevel (keep : Bool) : M Unit := do
  let sh ← get
  match sh.redirs with
  | level :: rest =>
    set { sh with redirs := rest }
    for (fd, saved) in level do
      match saved with
      | .closed => if !keep then closeFd fd
      | .untouched => pure ()
      | .moved copy =>
        if !keep then let _ ← dupFd copy fd
        closeFd copy
  | [] => pure ()

end Shell

end SymbolSieve
