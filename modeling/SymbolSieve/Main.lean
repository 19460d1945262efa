import SymbolSieve.Cli

open SymbolSieve

partial def readStream (s : IO.FS.Stream) (acc : ByteArray) : IO ByteArray := do
  let chunk ← s.read 65536
  if chunk.isEmpty then pure acc else readStream s (acc ++ chunk)

def loadFile (fs : Files) (path : Bytes) : IO Files := do
  if path.isEmpty || (fs.lookup path).toOption.isSome then return fs
  match Utf8.toString? path with
  | none => return fs
  | some name =>
    try
      let data ← IO.FS.readBinFile name
      let bytes := data.toList
      pure (fs.write path bytes (bytes.take 2 == [0x23, 0x21]))
    catch _ => pure fs

def clock : Bytes := Bytes.ofString "1970-01-01T00:00:00Z"

def main (args : List String) : IO UInt32 := do
  let input ← readStream (← IO.getStdin) ByteArray.empty
  let argv := args.map Bytes.ofString
  let options := (Cli.Options.ofArgs argv).toOption.getD {}
  let fs ← (Settings.defaultPath :: options.files).foldlM loadFile Files.fresh
  let settings := if options.config.isEmpty then Settings.loadDefault fs else Settings.load fs options.config
  let fs ← match settings with
    | .ok cfg => if cfg.tool.contains 0x2F then loadFile fs cfg.tool else pure fs
    | .error _ => pure fs
  let exit := Cli.run argv input.toList fs clock
  let stdout ← IO.getStdout
  stdout.write ⟨exit.stdout.toArray⟩
  stdout.flush
  let stderr ← IO.getStderr
  stderr.write ⟨exit.stderr.toArray⟩
  stderr.flush
  match exit.files.regular? Cli.outputFile with
  | some content =>
    if (fs.regular? Cli.outputFile).isNone || fs.regular? Cli.outputFile != some content then
      IO.FS.writeBinFile "result.txt" ⟨content.toArray⟩
  | none => pure ()
  pure exit.code.toUInt32
