import SymbolSieve.Host.Exec
import SymbolSieve.Decoder
import SymbolSieve.Text.Blank

namespace SymbolSieve

structure Tool where
  path : Bytes := []
  args : List Bytes := []
deriving DecidableEq, Repr

namespace Tool

def name (t : Tool) : Bytes := if t.path.isEmpty then Bytes.ofString "c++filt" else t.path

def isMissing (f : Fault) : Bool :=
  match f with
  | .launch _ .notOnPath => true
  | _ => f.is .notExist

def run (t : Tool) (fs : Files) (cancelled : Bool) (symbol : Bytes) : Except Fault Host.Outcome :=
  if cancelled then .error (.sentinel .canceled) else Host.command fs t.name (t.args ++ [symbol])

def decode (t : Tool) (fs : Files) (cancelled : Bool) (symbol : Bytes) : Except Fault Bytes × Files :=
  let ran := t.run fs cancelled symbol
  -- the context is looked at once the command is over, and its cancellation wins
  if cancelled then (.error (.sentinel .canceled), fs)
  else
    match ran with
    | .error f =>
      if isMissing f then (.error (.decode Kind.toolMissing.code t.name [] [] (some f)), fs)
      else (.error f, fs)
    | .ok o =>
      match o.ending with
      | .exited 0 =>
        let out := Text.trim o.stdout
        if out.isEmpty then (.error (.decode Kind.decodeFailure.code t.name symbol [] none), o.files)
        else (.ok out, o.files)
      | how =>
        (.error (.decode Kind.decodeFailure.code t.name symbol (Text.trim o.stderr) (some (.ended how))),
         o.files)

def decoder (t : Tool) : Decoder Files where
  decode fs symbol :=
    let (result, fs) := t.decode fs false symbol
    ({ result }, fs)

end Tool

end SymbolSieve
