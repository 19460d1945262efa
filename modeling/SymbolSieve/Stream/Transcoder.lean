import SymbolSieve.Text.Utf16
import SymbolSieve.Stream.Source

namespace SymbolSieve

inductive Transcoder where
  | sniffing (held : Bytes)
  | raw
  | utf16 (order : ByteOrder) (pending : Utf16.Pending)
deriving DecidableEq, Repr

namespace Transcoder

def choose (bs : Bytes) : Transcoder × Bytes :=
  if bs.take 2 = [0xFF, 0xFE] then (.utf16 .little .empty, bs.drop 2)
  else if bs.take 2 = [0xFE, 0xFF] then (.utf16 .big .empty, bs.drop 2)
  else if bs.take 3 = [0xEF, 0xBB, 0xBF] then (.raw, bs.drop 3)
  else (.raw, bs)

def convert : Transcoder → Bytes → Bytes × Transcoder
  | .utf16 order p, bs =>
    let (out, q) := Utf16.decodeFrom order p bs
    (out, .utf16 order q)
  | t, bs => (bs, t)

def feed : Transcoder → Bytes → Bytes × Transcoder
  | .sniffing held, bs =>
    let seen := held ++ bs
    if seen.length < 3 then ([], .sniffing seen)
    else
      let (t, rest) := choose seen
      t.convert rest
  | t, bs => t.convert bs

def close : Transcoder → Bytes
  | .sniffing held =>
    match choose held with
    | (.utf16 order _, rest) => Utf16.decode order rest
    | (_, rest) => rest
  | .raw => []
  | .utf16 _ p => p.close

def feedEach : Transcoder → List Bytes → List Bytes × Transcoder
  | t, [] => ([], t)
  | t, r :: rs =>
    let (out, t') := t.feed r
    let (more, t'') := t'.feedEach rs
    (out :: more, t'')

end Transcoder

namespace Source

def decoded (s : Source) : List Bytes :=
  let (outs, t) := Transcoder.feedEach (.sniffing []) s.reads
  match s.ending with
  | .clean => outs ++ [t.close]
  | .failure _ => outs

def text (s : Source) : Bytes := s.decoded.flatten

end Source

end SymbolSieve
