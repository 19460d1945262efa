import SymbolSieve.Sieve
import SymbolSieve.Host.Files

namespace SymbolSieve

structure BufferedFile where
  files : Files
  loc : List Bytes
  path : Bytes
  pending : Bytes := []
  failure : Option Fault := none

namespace BufferedFile

def capacity : Nat := 4096

def put (b : BufferedFile) (bytes : Bytes) : BufferedFile :=
  match b.files.append b.loc bytes with
  | .ok fs => { b with files := fs }
  | .error e => { b with failure := some (.system "write" b.path e) }

def flush (b : BufferedFile) : Option Fault × BufferedFile :=
  match b.failure with
  | some f => (some f, b)
  | none =>
    if b.pending.isEmpty then (none, b)
    else
      let b := b.put b.pending
      match b.failure with
      | some f => (some f, b)
      | none => (none, { b with pending := [] })

def write (b : BufferedFile) (bytes : Bytes) : Option Fault × BufferedFile :=
  go (bytes.length + 1) b bytes
where
  go : Nat → BufferedFile → Bytes → Option Fault × BufferedFile
    | 0, b, _ => (b.failure, b)
    | fuel + 1, b, p =>
      if b.failure.isNone && p.length > capacity - b.pending.length then
        if b.pending.isEmpty then
          let b := b.put p
          if b.failure.isNone then go fuel b [] else (b.failure, b)
        else
          let n := capacity - b.pending.length
          let (_, b) := { b with pending := b.pending ++ p.take n }.flush
          go fuel b (p.drop n)
      else
        match b.failure with
        | some f => (some f, b)
        | none => (none, { b with pending := b.pending ++ p })

def writer : Writer BufferedFile := ⟨write⟩

end BufferedFile

structure Job where
  input : Bytes := []
  output : Bytes := []
deriving DecidableEq, Repr

structure JobResult (σ : Type) where
  tally : Tally := {}
  fault : Option Fault := none
  files : Files
  notes : List Note := []
  decoder : Option σ := none

namespace Job

def defaultOutput : Bytes := Bytes.ofString "result.txt"

def outputPath (j : Job) : Bytes := if j.output.isEmpty then defaultOutput else j.output

def checkInput (fs : Files) (path : Bytes) : Option Fault :=
  match fs.lookup path with
  | .error e =>
    let kind := if e == .noEntry then Kind.notFound else Kind.unknown
    some (.op "open input" kind.code path (some (.system "open" path e)))
  | .ok (_, .directory) => some (.op "open input" Kind.unknown.code path (some (.sentinel .isDir)))
  | .ok _ => none

def run {σ : Type} (j : Job) (fs : Files) (decoder : Option (Decoder σ × σ)) (stdin : Source)
    (cancelled : Bool) : JobResult σ :=
  match decoder with
  | none => { fault := some (.plain (Bytes.ofString "filter: no decoder")), files := fs }
  | some (d, state) =>
    let inputFault := if j.input.isEmpty then none else checkInput fs j.input
    match inputFault with
    | some f => { fault := some f, files := fs, decoder := some state }
    | none =>
      let out := j.outputPath
      match fs.create out with
      | .error e =>
        { fault := some (.op "create output" Kind.unknown.code out (some (.system "open" out e))), files := fs,
          decoder := some state }
      | .ok (loc, fs) =>
        let source : Source :=
          if j.input.isEmpty then stdin
          else { data := ((fs.lookup j.input).toOption.bind fun (_, e) => match e with
                   | .file content _ => some content
                   | _ => none).getD [] }
        let sink : BufferedFile := { files := fs, loc, path := out }
        let start : Progress σ BufferedFile := { decoder := state, sink, cancelled }
        let (p, _, fault) := Sieve.run d BufferedFile.writer (LineCursor.ofSource source) start
        let (flushFault, sink) := p.sink.flush
        let closeFault := sink.files.close loc
        let fault := match fault, flushFault, closeFault with
          | some f, _, _ => some f
          | none, some f, _ => some (.op "write output" Kind.unknown.code out (some f))
          | none, none, some e => some (.op "close output" Kind.unknown.code out (some (.system "close" out e)))
          | none, none, none => none
        { tally := p.tally, fault, files := sink.files, notes := p.notes, decoder := some p.decoder }

end Job

end SymbolSieve
