import SymbolSieve.Shell.Start
import SymbolSieve.Host.Printf

namespace SymbolSieve

namespace Host

def interpreterLine (content : Bytes) : Option (Bytes × Option Bytes) :=
  let buf := (content.take 256 ++ List.replicate (256 - content.length) 0).toArray
  let at_ := fun (i : Nat) => buf.getD i 0
  let spaceTab := fun (c : UInt8) => c == 0x20 || c == 0x09
  let terminator := fun (c : UInt8) => spaceTab c || c == 0
  let nonSpaceFrom := fun (first last : Nat) =>
    (List.range' first (last + 1 - first)).find? fun i => !spaceTab (at_ i)
  let terminatorFrom := fun (first last : Nat) =>
    (List.range' first (last + 1 - first)).find? fun i => terminator (at_ i)
  if at_ 0 != 0x23 || at_ 1 != 0x21 then none
  else
    let lineEnd : Option Nat := match (List.range 256).find? (fun i => at_ i == 0x0A) with
      | some i => some i
      | none =>
        match nonSpaceFrom 2 255 with
        | none => none
        | some i => (terminatorFrom i 255).map fun _ => 255
    match lineEnd with
    | none => none
    | some e =>
      let e := (List.range e).reverse.foldl (fun e _ => if e > 2 && spaceTab (at_ (e - 1)) then e - 1 else e) e
      match nonSpaceFrom 2 e with
      | none => none
      | some nameStart =>
        if nameStart == e then none
        else
          let cstr := fun (first last : Nat) =>
            ((List.range' first (last - first)).map at_).takeWhile (· != 0)
          match terminatorFrom nameStart e with
          | some sep =>
            if at_ sep != 0 && sep < e then
              match nonSpaceFrom sep e with
              | some a => if a < e then some (cstr nameStart sep, some (cstr a e))
                else some (cstr nameStart sep, none)
              | none => some (cstr nameStart sep, none)
            else some (cstr nameStart e, none)
          | none => some (cstr nameStart e, none)

example : interpreterLine (Bytes.ofString "#!/bin/sh -e -u\necho\n") =
    some (Bytes.ofString "/bin/sh", some (Bytes.ofString "-e -u")) := by decide +kernel

def quoteName (s : Bytes) : Bytes :=
  let special := Bytes.ofString " \t\n!\"$&'()*;<>?[\\]^`|"
  let needs := s.isEmpty || s.any special.contains ||
    s.head? == some 0x23 || s.head? == some 0x7E || s == [0x7B] || s == [0x7D]
  if !needs then s
  else [0x27] ++ s.flatMap (fun c => if c == 0x27 then Bytes.ofString "'\\''" else [c]) ++ [0x27]

def emit (w : World) (p : Proc) (fd : Nat) (b : Bytes) : World × Option Errno :=
  if b.isEmpty && (p.fds.get? fd).isSome then (w, none)
  else
    match w.writeFd p.fds fd b with
    | .ok w' => (w', none)
    | .error e => (w, some e)

def finishOutput (w : World) (p : Proc) (name : Bytes) (out : Bytes) (status : Nat) : World × Termination :=
  let (w, err) := emit w p 1 out
  match err with
  | some e =>
    let (w, _) := emit w p 2 (name ++ Bytes.ofString (": write error: " ++ e.describe ++ "\n"))
    (w, .exited 1)
  | none => (w, .exited status)

def echoEscapes : Nat → Bytes → Bytes × Bool
  | 0, _ => ([], false)
  | _ + 1, [] => ([], false)
  | n + 1, 0x5C :: c :: rest =>
    let isHex := fun (d : UInt8) => (0x30 ≤ d && d ≤ 0x39) || (0x61 ≤ d && d ≤ 0x66) || (0x41 ≤ d && d ≤ 0x46)
    let hexVal := fun (d : UInt8) => if d ≤ 0x39 then d - 0x30 else if d ≤ 0x46 then d - 0x37 else d - 0x57
    let cont := fun (b : Bytes) (r : Bytes) => let (t, stop) := echoEscapes n r; (b ++ t, stop)
    match c with
    | 0x61 => cont [0x07] rest
    | 0x62 => cont [0x08] rest
    | 0x63 => ([], true)
    | 0x65 => cont [0x1B] rest
    | 0x66 => cont [0x0C] rest
    | 0x6E => cont [0x0A] rest
    | 0x72 => cont [0x0D] rest
    | 0x74 => cont [0x09] rest
    | 0x76 => cont [0x0B] rest
    | 0x5C => cont [0x5C] rest
    | 0x78 =>
      match rest with
      | d :: more =>
        if isHex d then
          match more with
          | e :: more' => if isHex e then cont [hexVal d * 16 + hexVal e] more' else cont [hexVal d] more
          | [] => cont [hexVal d] more
        else cont [0x5C, c] rest
      | [] => cont [0x5C, c] rest
    | 0x30 =>
      let ds := (rest.take 3).takeWhile Shell.isOctal
      let v := ds.foldl (fun a d => a * 8 + (d - 0x30).toNat) 0
      cont [v.toUInt8] (rest.drop ds.length)
    | _ => cont [0x5C, c] rest
  | n + 1, c :: rest => let (t, stop) := echoEscapes n rest; (c :: t, stop)

def echoProgram (w : World) (p : Proc) (argv : List Bytes) : World × Termination :=
  let args := argv.drop 1
  let isOption := fun (a : Bytes) =>
    a.length ≥ 2 && a.head? == some 0x2D && a.tail.all (fun c => c == 0x6E || c == 0x65 || c == 0x45)
  let opts := args.takeWhile isOption
  let letters := opts.flatMap List.tail
  let escapes := letters.foldl (fun e c => if c == 0x65 then true else if c == 0x45 then false else e) false
  let newline := !letters.contains 0x6E
  let text := ((args.drop opts.length).intersperse [0x20]).flatten
  let out := if escapes then
      let (b, stop) := echoEscapes (text.length + 1) text
      if stop then b else b ++ (if newline then [0x0A] else [])
    else text ++ (if newline then [0x0A] else [])
  finishOutput w p (argv.headD (Bytes.ofString "echo")) out 0

def catProgram (w : World) (p : Proc) (argv : List Bytes) : World × Termination :=
  let name := argv.headD (Bytes.ofString "cat")
  let names := match argv.drop 1 with
    | [] => [Bytes.ofString "-"]
    | ns => ns
  let step := fun (acc : World × Bytes × Nat) (n : Bytes) =>
    let (w, out, status) := acc
    let complain := fun (w : World) (e : Errno) =>
      let (w, _) := emit w p 2 (name ++ Bytes.ofString ": " ++ quoteName n ++
        Bytes.ofString (": " ++ e.describe ++ "\n"))
      (w, out, 1)
    if n == Bytes.ofString "-" then
      match w.readAllFd p.fds 0 with
      | .ok (b, w) => (w, out ++ b, status)
      | .error e => complain w e
    else
      match w.openPath p.cwd n .read with
      | .error e => complain w e
      | .ok (.inl d, w') =>
        match w'.readAll d with
        | .ok (b, w'') => (w'', out ++ b, status)
        | .error e => complain w' e
      | .ok (.inr fd, w') =>
        match w'.readAllFd p.fds fd with
        | .ok (b, w'') => (w'', out ++ b, status)
        | .error e => complain w' e
  let (w, out, status) := names.foldl step (w, [], 0)
  finishOutput w p name out status

def splitArguments (s : Bytes) : List Bytes :=
  let rec go : Nat → Bytes → Option Bytes → Option UInt8 → List Bytes → List Bytes
    | 0, _, cur, _, acc => acc ++ cur.toList
    | _ + 1, [], cur, _, acc => acc ++ cur.toList
    | n + 1, c :: rest, cur, quote, acc =>
      match quote with
      | some q =>
        if c == q then go n rest (some (cur.getD [])) none acc
        else if q == 0x22 && c == 0x5C then
          match rest with
          | d :: more => go n more (some (cur.getD [] ++ [d])) quote acc
          | [] => go n rest cur quote acc
        else go n rest (some (cur.getD [] ++ [c])) quote acc
      | none =>
        if c == 0x20 || c == 0x09 || c == 0x0A then
          go n rest none none (acc ++ cur.toList)
        else if c == 0x27 || c == 0x22 then go n rest (some (cur.getD [])) (some c) acc
        else if c == 0x5C then
          match rest with
          | d :: more => go n more (some (cur.getD [] ++ [d])) none acc
          | [] => go n rest cur none acc
        else go n rest (some (cur.getD [] ++ [c])) none acc
  go (s.length + 1) s none none []

def envSearch (env : List Bytes) : Bytes :=
  match env.find? (fun e => e.take 5 == Bytes.ofString "PATH=") with
  | some e => e.drop 5
  | none => Bytes.ofString "/bin:/usr/bin"

def envCandidates (env : List Bytes) (cmd : Bytes) : List Bytes :=
  if cmd.contains 0x2F then [cmd] else Shell.pathCandidates (envSearch env) cmd

def envArguments : Nat → List Bytes → List Bytes → Except String (List Bytes × List Bytes)
  | 0, env, args => .ok (env, args)
  | n + 1, env, args =>
    match args with
    | [] => .ok (env, [])
    | a :: rest =>
      if a == Bytes.ofString "-" || a == Bytes.ofString "-i" then envArguments n [] rest
      else if a == Bytes.ofString "--" then
        envArguments n env rest |>.map fun (e, r) => (e, r)
      else if a.take 2 == Bytes.ofString "-S" then
        let text := if a.length > 2 then some (a.drop 2) else rest.head?
        let rest := if a.length > 2 then rest else rest.drop 1
        match text with
        | some t => envArguments n env (splitArguments t ++ rest)
        | none => .error "option requires an argument -- 'S'"
      else if a.take 2 == Bytes.ofString "-u" then
        let name := if a.length > 2 then some (a.drop 2) else rest.head?
        let rest := if a.length > 2 then rest else rest.drop 1
        match name with
        | some v => envArguments n (env.filter fun e => e.takeWhile (· != 0x3D) != v) rest
        | none => .error "option requires an argument -- 'u'"
      else if a.contains 0x3D && a.head? != some 0x3D then
        let name := a.takeWhile (· != 0x3D)
        envArguments n ((env.filter fun e => e.takeWhile (· != 0x3D) != name) ++ [a]) rest
      else .ok (env, args)

structure Outcome where
  stdout : Bytes := []
  stderr : Bytes := []
  ending : Termination := .exited 0
  files : Files

def searchPath : Bytes := Bytes.ofString "/usr/local/sbin:/usr/local/bin:/usr/sbin:/usr/bin:/sbin:/bin"

def baseEnvironment : List Bytes :=
  [Bytes.ofString "PATH=/usr/local/sbin:/usr/local/bin:/usr/sbin:/usr/bin:/sbin:/bin",
   Bytes.ofString "HOME=/root"]

def launch : Nat → Launch
  | 0, _, _, _, _ => .error .noEntry
  | n + 1, w, p, path, argv =>
    let fs : Files := { w.files with home := p.cwd }
    match fs.lookup path with
    | .error e => .error e
    | .ok (_, .program name) =>
      let progName := argv.headD (Bytes.ofString name)
      if name == "sh" || name == "dash" then
        .ok (Shell.runShell 100000 (launch n) w p argv)
      else if name == "echo" then .ok (echoProgram w p argv)
      else if name == "cat" then .ok (catProgram w p argv)
      else if name == "true" then .ok (w, .exited 0)
      else if name == "false" then .ok (w, .exited 1)
      else if name == "printf" then .ok (printfProgram w p argv)
      else if name == "env" then
        match envArguments (argv.length + 1) p.env (argv.drop 1) with
        | .error msg =>
          let (w, _) := emit w p 2 (progName ++ Bytes.ofString (": " ++ msg ++ "\nTry '") ++ progName ++
            Bytes.ofString " --help' for more information.\n")
          .ok (w, .exited 125)
        | .ok (env, []) => .ok (finishOutput w p progName (env.flatMap (· ++ [0x0A])) 0)
        | .ok (env, cmd :: rest) =>
          let p' := { p with env }
          let tryOne := fun (acc : Option (World × Termination) × Errno) (place : Bytes) =>
            match acc with
            | (some r, e) => (some r, e)
            | (none, e) =>
              match launch n w p' place (cmd :: rest) with
              | .ok r => (some r, e)
              | .error .execFormat =>
                match launch n w p' (Bytes.ofString "/bin/sh") (Bytes.ofString "/bin/sh" :: place :: rest) with
                | .ok r => (some r, e)
                | .error e' => (none, e')
              | .error e' => (none, if e' == .noEntry || e' == .notDirectory then e else e')
          match (envCandidates env cmd).foldl tryOne (none, .noEntry) with
          | (some r, _) => .ok r
          | (none, e) =>
            let (w, _) := emit w p 2 (progName ++ Bytes.ofString ": " ++ [0x27] ++ cmd ++ [0x27] ++
              Bytes.ofString (": " ++ e.describe ++ "\n"))
            .ok (w, .exited (if e == .noEntry then 127 else 126))
      else .ok (w, .exited 0)
    | .ok (_, .file content true) =>
      match interpreterLine content with
      | none => .error .execFormat
      | some (interp, arg) => launch n w p interp (interp :: arg.toList ++ path :: argv.drop 1)
    | .ok _ => .error .accessDenied

def runnable : Entry → Bool
  | .file _ x => x
  | .program _ => true
  | _ => false

def resolve (fs : Files) (name : Bytes) : Except Fault Bytes :=
  if name.contains 0x2F && name != [0x2F] then .ok name
  else if name.contains 0x2F then
    match fs.lookup name with
    | .error e => .error (.launch name (.refused e))
    | .ok (_, .directory) => .error (.launch name (.refused .isDirectory))
    | .ok (_, e) => if runnable e then .ok name else .error (.launch name (.refused .accessDenied))
  else
    let found := (Shell.pathCandidates searchPath name).find? fun p =>
      match fs.lookup p with
      | .ok (_, e) => runnable e
      | .error _ => false
    match found with
    | some p => .ok p
    | none => .error (.launch name .notOnPath)

def depth : Nat := 64

def command (fs : Files) (name : Bytes) (args : List Bytes) : Except Fault Outcome := do
  let path ← resolve fs name
  let w : World := { files := fs }
  let (pid, w) := w.freshPid
  let (null, w) := w.describe { target := .device .null, readable := true, writable := false }
  let (outR, outW, w) := w.newPipe
  let (errR, errW, w) := w.newPipe
  let proc : Proc :=
    { pid, parent := pid - 1, fds := [(0, { description := null }), (1, { description := outW }),
        (2, { description := errW })], cwd := fs.home, env := baseEnvironment }
  match launch depth w proc path (name :: args) with
  | .error e => .error (.system "fork/exec" path e)
  | .ok (w, ending) =>
    let stdout := match w.readAll outR with
      | .ok (b, _) => b
      | .error _ => []
    let stderr := match w.readAll errR with
      | .ok (b, _) => b
      | .error _ => []
    .ok { stdout, stderr, ending, files := w.files }

end Host

end SymbolSieve
