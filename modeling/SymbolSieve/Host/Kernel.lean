import SymbolSieve.Host.Files

namespace SymbolSieve

inductive Target where
  | file (loc : List Bytes)
  | pipe (id : Nat)
  | device (d : Device)
  | directory (loc : List Bytes)
deriving DecidableEq, Repr

structure Description where
  target : Target
  readable : Bool
  writable : Bool
  append : Bool := false
  offset : Nat := 0
deriving DecidableEq, Repr

structure Slot where
  description : Nat
  closeOnExec : Bool := false
deriving DecidableEq, Repr

abbrev Descriptors := List (Nat × Slot)

namespace Descriptors

def get? (ds : Descriptors) (fd : Nat) : Option Slot := ds.lookup fd

def close (ds : Descriptors) (fd : Nat) : Descriptors := ds.filter (·.1 != fd)

def set (ds : Descriptors) (fd : Nat) (s : Slot) : Descriptors := (fd, s) :: ds.close fd

def lowestFree (ds : Descriptors) (least : Nat) : Nat :=
  let used := ds.map (·.1)
  let rec go : Nat → Nat → Nat
    | 0, n => n
    | fuel + 1, n => if used.contains n then go fuel (n + 1) else n
  go (used.length + 1) least

def afterExec (ds : Descriptors) : Descriptors := ds.filter (!·.2.closeOnExec)

end Descriptors

inductive OpenMode where
  | read
  | write (truncate append exclusive : Bool)
  | readWrite
deriving DecidableEq, Repr

structure World where
  files : Files
  descriptions : Array Description := #[]
  pipes : Array Bytes := #[]
  nextPid : Nat := 4243
  pending : List (Nat × Nat) := []

namespace World

def describe (w : World) (d : Description) : Nat × World :=
  (w.descriptions.size, { w with descriptions := w.descriptions.push d })

def newPipe (w : World) : Nat × Nat × World :=
  let id := w.pipes.size
  let w := { w with pipes := w.pipes.push [] }
  let (r, w) := w.describe { target := .pipe id, readable := true, writable := false }
  let (x, w) := w.describe { target := .pipe id, readable := false, writable := true }
  (r, x, w)

def freshPid (w : World) : Nat × World := (w.nextPid, { w with nextPid := w.nextPid + 1 })

def overwrite (content : Bytes) (pos : Nat) (bytes : Bytes) : Bytes :=
  content.take pos ++ List.replicate (pos - content.length) 0 ++ bytes ++ content.drop (pos + bytes.length)

def write (w : World) (d : Nat) (bytes : Bytes) : Except Errno World :=
  match w.descriptions[d]? with
  | none => .error .badDescriptor
  | some desc =>
    if !desc.writable then .error .badDescriptor
    else
      match desc.target with
      | .pipe id => .ok { w with pipes := w.pipes.modify id (· ++ bytes) }
      | .device .full => .error .noSpace
      | .device _ => .ok w
      | .directory _ => .error .badDescriptor
      | .file loc =>
        match w.files.get? loc with
        | some (.file content x) =>
          let pos := if desc.append then content.length else desc.offset
          .ok { w with files := w.files.put loc (.file (overwrite content pos bytes) x),
                       descriptions := w.descriptions.set! d { desc with offset := pos + bytes.length } }
        | _ => .ok w

def read (w : World) (d : Nat) (limit : Nat) : Except Errno (Bytes × World) :=
  match w.descriptions[d]? with
  | none => .error .badDescriptor
  | some desc =>
    if !desc.readable then .error .badDescriptor
    else
      match desc.target with
      | .pipe id =>
        let waiting := w.pipes[id]?.getD []
        .ok (waiting.take limit, { w with pipes := w.pipes.set! id (waiting.drop limit) })
      | .device .zero => .ok (List.replicate limit 0, w)
      | .device _ => .ok ([], w)
      | .directory _ => .error .isDirectory
      | .file loc =>
        match w.files.get? loc with
        | some (.file content _) =>
          let got := (content.drop desc.offset).take limit
          .ok (got, { w with descriptions := w.descriptions.set! d { desc with offset := desc.offset + got.length } })
        | _ => .ok ([], w)

def readAll (w : World) (d : Nat) : Except Errno (Bytes × World) :=
  let size := match w.descriptions[d]? with
    | some { target := .pipe id, .. } => (w.pipes[id]?.getD []).length
    | some { target := .file loc, .. } =>
      match w.files.get? loc with
      | some (.file content _) => content.length
      | _ => 0
    | _ => 0
  w.read d size

def openPath (w : World) (cwd : List Bytes) (path : Bytes) (mode : OpenMode) :
    Except Errno (Sum Nat Nat × World) := do
  let fs := { w.files with home := cwd }
  let (loc, trailing) ← fs.locate path
  let readable := match mode with
    | .write .. => false
    | _ => true
  let writable := mode != .read
  match fs.get? loc, mode with
  | none, .read => throw .noEntry
  | none, _ =>
    if trailing then throw .isDirectory
    else
      let (d, w) := { w with files := w.files.put loc (.file [] false) }.describe
        { target := .file loc, readable, writable, append := (match mode with | .write _ a _ => a | _ => false) }
      pure (.inl d, w)
  | some .directory, .read => let (d, w) := w.describe { target := .directory loc, readable := true, writable := false }
                              pure (.inl d, w)
  | some .directory, _ => throw .isDirectory
  | some (.device (.standard fd)), _ => pure (.inr fd, w)
  | some (.device dev), _ =>
    let (d, w) := w.describe { target := .device dev, readable, writable }
    pure (.inl d, w)
  | some (.program _), .read =>
    let (d, w) := w.describe { target := .file loc, readable := true, writable := false }
    pure (.inl d, w)
  | some (.program _), _ => throw .textBusy
  | some (.file _ x), m =>
    if trailing then throw .notDirectory
    else
      match m with
      | .write _ _ true => throw .exists
      | .write truncate append _ =>
        let w := if truncate then { w with files := w.files.put loc (.file [] x) } else w
        let (d, w) := w.describe { target := .file loc, readable := false, writable := true, append }
        pure (.inl d, w)
      | _ =>
        let (d, w) := w.describe { target := .file loc, readable, writable }
        pure (.inl d, w)

def writeFd (w : World) (fds : Descriptors) (fd : Nat) (bytes : Bytes) : Except Errno World :=
  match fds.get? fd with
  | some slot => w.write slot.description bytes
  | none => .error .badDescriptor

def readFd (w : World) (fds : Descriptors) (fd : Nat) (limit : Nat) : Except Errno (Bytes × World) :=
  match fds.get? fd with
  | some slot => w.read slot.description limit
  | none => .error .badDescriptor

def readAllFd (w : World) (fds : Descriptors) (fd : Nat) : Except Errno (Bytes × World) :=
  match fds.get? fd with
  | some slot => w.readAll slot.description
  | none => .error .badDescriptor

end World

structure Proc where
  pid : Nat
  parent : Nat
  fds : Descriptors
  cwd : List Bytes
  env : List Bytes
  ancestors : List Nat := []
  ignored : List Nat := []

abbrev Launch := World → Proc → Bytes → List Bytes → Except Errno (World × Termination)

end SymbolSieve
