import SymbolSieve.Fault

namespace SymbolSieve

inductive Device where
  | null
  | full
  | zero
  | standard (fd : Nat)
deriving DecidableEq, Repr

inductive Entry where
  | file (content : Bytes) (executable : Bool)
  | directory
  | device (d : Device)
  | program (name : String)
deriving DecidableEq, Repr

structure Files where
  entries : List (List Bytes × Entry)
  home : List Bytes

namespace Files

def programNames : List String := ["sh", "dash", "echo", "printf", "cat", "true", "false", "env"]

def systemDirectories : List (List Bytes) :=
  [[], ["bin"], ["dev"], ["etc"], ["home"], ["root"], ["tmp"], ["usr"], ["usr", "bin"],
   ["usr", "local"], ["usr", "local", "bin"]].map (·.map Bytes.ofString)

def scratch : List Bytes := ["tmp", "work"].map Bytes.ofString

def fresh : Files :=
  let dirs := (systemDirectories ++ [scratch]).map (·, Entry.directory)
  let devices := [("null", Device.null), ("full", .full), ("zero", .zero), ("stdin", .standard 0),
                  ("stdout", .standard 1), ("stderr", .standard 2)].map fun (n, d) =>
    (["dev", n].map Bytes.ofString, Entry.device d)
  let programs := programNames.flatMap fun n =>
    [(["bin", n].map Bytes.ofString, Entry.program n),
     (["usr", "bin", n].map Bytes.ofString, Entry.program n)]
  let passwd := (["etc", "passwd"].map Bytes.ofString,
    Entry.file (Bytes.ofString "root:x:0:0:root:/root:/bin/bash\n") false)
  { entries := dirs ++ devices ++ [passwd] ++ programs, home := scratch }

def get? (fs : Files) (loc : List Bytes) : Option Entry := fs.entries.lookup loc

def children (fs : Files) (dir : List Bytes) : List Bytes :=
  fs.entries.filterMap fun (loc, _) =>
    if loc.length == dir.length + 1 && loc.take dir.length == dir then loc.getLast? else none

def remove (fs : Files) (loc : List Bytes) : Files :=
  { fs with entries := fs.entries.filter (·.1 != loc) }

def put (fs : Files) (loc : List Bytes) (e : Entry) : Files :=
  if fs.entries.any (·.1 == loc) then
    { fs with entries := fs.entries.map fun (l, old) => (l, if l == loc then e else old) }
  else { fs with entries := fs.entries ++ [(loc, e)] }

def names (path : Bytes) : List Bytes :=
  (path.splitOn 0x2F).filter fun n => n != [] && n != [0x2E]

def locate (fs : Files) (path : Bytes) : Except Errno (List Bytes × Bool) :=
  if path = [] then .error .noEntry
  else
    let start := if path.head? == some 0x2F then [] else fs.home
    let trailing := path.getLast? == some 0x2F
    let rec walk (here : List Bytes) : List Bytes → Except Errno (List Bytes)
      | [] => .ok here
      | n :: rest =>
        let next := if n == [0x2E, 0x2E] then here.dropLast else here ++ [n]
        if rest.isEmpty || n == [0x2E, 0x2E] then walk next rest
        else
          match fs.get? next with
          | some .directory => walk next rest
          | some _ => .error .notDirectory
          | none => .error .noEntry
    (walk start (names path)).map (·, trailing)

def lookup (fs : Files) (path : Bytes) : Except Errno (List Bytes × Entry) := do
  let (loc, trailing) ← fs.locate path
  match fs.get? loc with
  | none => throw .noEntry
  | some e =>
    if trailing && e != .directory then throw .notDirectory
    pure (loc, e)

def readAll (fs : Files) (path : Bytes) : Except Fault Bytes :=
  match fs.lookup path with
  | .error e => .error (.system "open" path e)
  | .ok (_, .directory) => .error (.system "read" path .isDirectory)
  | .ok (_, .file content _) => .ok content
  | .ok _ => .ok []

def create (fs : Files) (path : Bytes) : Except Errno (List Bytes × Files) := do
  let (loc, trailing) ← fs.locate path
  match fs.get? loc with
  | none => if trailing then throw .isDirectory else pure (loc, fs.put loc (.file [] false))
  | some .directory => throw .isDirectory
  | some (.file _ x) =>
    if trailing then throw .notDirectory else pure (loc, fs.put loc (.file [] x))
  | some (.device _) => pure (loc, fs)
  | some (.program _) => throw .textBusy

def append (fs : Files) (loc : List Bytes) (bytes : Bytes) : Except Errno Files :=
  match fs.get? loc with
  | some (.file content x) => .ok (fs.put loc (.file (content ++ bytes) x))
  | some (.device .full) => .error .noSpace
  | _ => .ok fs

def close (_ : Files) (_ : List Bytes) : Option Errno := none

def makeDirectories (fs : Files) (path : Bytes) : Files :=
  let start := if path.head? == some 0x2F then [] else fs.home
  let step := fun (acc : Files × List Bytes) (n : Bytes) =>
    let (fs, here) := acc
    let next := if n == [0x2E, 0x2E] then here.dropLast else here ++ [n]
    match fs.get? next with
    | none => (fs.put next .directory, next)
    | some _ => (fs, next)
  ((names path).foldl step (fs, start)).1

def write (fs : Files) (path : Bytes) (content : Bytes) (executable : Bool) : Files :=
  let parent := (path.reverse.dropWhile (· != 0x2F)).reverse
  let fs := if parent.isEmpty then fs else fs.makeDirectories parent
  match fs.locate path with
  | .ok (loc, _) => fs.put loc (.file content executable)
  | .error _ => fs

def regular? (fs : Files) (path : Bytes) : Option Bytes :=
  match fs.lookup path with
  | .ok (_, .file content _) => some content
  | _ => none

end Files

end SymbolSieve
