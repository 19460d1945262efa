import SymbolSieve.Yaml.Token
import SymbolSieve.Text.Utf8

namespace SymbolSieve

namespace Yaml

def isBlank (c : Char) : Bool := c == ' ' || c == '\t'

def isBreak (c : Char) : Bool :=
  c == '\r' || c == '\n' || c == '\x85' || c == '\u2028' || c == '\u2029'

def isEnd (c : Char) : Bool := c == '\x00'

def isBreakOrEnd (c : Char) : Bool := isBreak c || isEnd c

def isBlankOrEnd (c : Char) : Bool := isBlank c || isBreakOrEnd c

def isWord (c : Char) : Bool := c.isAlphanum || c == '_' || c == '-'

def hexValue? (c : Char) : Option Nat :=
  if '0' ≤ c ∧ c ≤ '9' then some (c.toNat - '0'.toNat)
  else if 'a' ≤ c ∧ c ≤ 'f' then some (c.toNat - 'a'.toNat + 10)
  else if 'A' ≤ c ∧ c ≤ 'F' then some (c.toNat - 'A'.toNat + 10)
  else none

def isUriChar (c : Char) : Bool := isWord c || ";/?:@&=+$,.!~*'()[]%".contains c

structure SimpleKey where
  possible : Bool := false
  required : Bool := false
  number : Nat := 0
  mark : Mark := {}
deriving Repr, Inhabited

structure Scanner where
  rest : List Char
  mark : Mark := {}
  started : Bool := false
  flowLevel : Nat := 0
  queue : List Token := []
  taken : Nat := 0
  indent : Int := -1
  indents : List Int := []
  keyAllowed : Bool := false
  keys : Array SimpleKey := #[]
  keyOf : List (Nat × Nat) := []

namespace Scanner

def peek (s : Scanner) (i : Nat := 0) : Char := s.rest.getD i '\x00'

def skip (s : Scanner) : Scanner :=
  { s with rest := s.rest.tail,
           mark := { s.mark with index := s.mark.index + 1, column := s.mark.column + 1 } }

def skipLine (s : Scanner) : Scanner :=
  if s.peek = '\r' ∧ s.peek 1 = '\n' then
    { s with rest := s.rest.drop 2,
             mark := { index := s.mark.index + 2, line := s.mark.line + 1, column := 0 } }
  else if isBreak s.peek then
    { s with rest := s.rest.drop 1,
             mark := { index := s.mark.index + 1, line := s.mark.line + 1, column := 0 } }
  else s

def read (s : Scanner) (acc : String) : Scanner × String := (s.skip, acc.push s.peek)

def readLine (s : Scanner) (acc : String) : Scanner × String :=
  let c := s.peek
  if c = '\r' ∨ c = '\n' ∨ c = '\x85' then (s.skipLine, acc.push '\n')
  else if c = '\u2028' ∨ c = '\u2029' then (s.skipLine, acc.push c)
  else (s, acc)

def skipWhile (p : Scanner → Bool) (s : Scanner) : Scanner := go s.rest.length s
where
  go : Nat → Scanner → Scanner
    | 0, s => s
    | n + 1, s => if p s then go n s.skip else s

def readWhile (p : Scanner → Bool) (s : Scanner) (acc : String) : Scanner × String :=
  go s.rest.length s acc
where
  go : Nat → Scanner → String → Scanner × String
    | 0, s, acc => (s, acc)
    | n + 1, s, acc => if p s then go n s.skip (acc.push s.peek) else (s, acc)

def problemAt (s : Scanner) (context : Mark) (problem : String) : Problem :=
  { stage := .lexical, context, problem, found := s.mark }

def atDocumentMarker (s : Scanner) (c : Char) : Bool :=
  s.mark.column == 0 && s.peek == c && s.peek 1 == c && s.peek 2 == c && isBlankOrEnd (s.peek 3)

def nextNumber (s : Scanner) : Nat := s.taken + s.queue.length

def push (s : Scanner) (t : Token) : Scanner := { s with queue := s.queue ++ [t] }

def insertAt (s : Scanner) (pos : Nat) (t : Token) : Scanner :=
  { s with queue := s.queue.take pos ++ t :: s.queue.drop pos }

def topKey (s : Scanner) : SimpleKey := s.keys.back?.getD {}

def setTopKey (s : Scanner) (k : SimpleKey) : Scanner :=
  { s with keys := s.keys.setIfInBounds (s.keys.size - 1) k }

def forget (s : Scanner) (n : Nat) : Scanner := { s with keyOf := s.keyOf.filter (·.1 != n) }

def checkKey (s : Scanner) (k : SimpleKey) : Except Problem (Bool × SimpleKey) :=
  if !k.possible then .ok (false, k)
  else if k.mark.line < s.mark.line ∨ k.mark.index + 1024 < s.mark.index then
    if k.required then .error (s.problemAt k.mark "could not find expected ':'")
    else .ok (false, { k with possible := false })
  else .ok (true, k)

def removeKey (s : Scanner) : Except Problem Scanner :=
  let k := s.topKey
  if k.possible then
    if k.required then .error (s.problemAt k.mark "could not find expected ':'")
    else .ok ((s.setTopKey { k with possible := false }).forget k.number)
  else .ok s

def saveKey (s : Scanner) : Except Problem Scanner := do
  let required := s.flowLevel == 0 && s.indent == (s.mark.column : Int)
  if s.keyAllowed then
    let k : SimpleKey := { possible := true, required, number := s.nextNumber, mark := s.mark }
    let s ← s.removeKey
    let s := s.setTopKey k
    pure { s with keyOf := (k.number, s.keys.size - 1) :: s.keyOf.filter (·.1 != k.number) }
  else pure s

def enterFlow (s : Scanner) : Scanner :=
  { s with keys := s.keys.push {}, flowLevel := s.flowLevel + 1 }

def leaveFlow (s : Scanner) : Scanner :=
  if s.flowLevel > 0 then
    { s.forget s.topKey.number with flowLevel := s.flowLevel - 1, keys := s.keys.pop }
  else s

def rollIndent (s : Scanner) (column : Int) (number : Option Nat) (kind : TokenKind)
    (mark : Mark) : Scanner :=
  if s.flowLevel > 0 then s
  else if s.indent < column then
    let s := { s with indents := s.indent :: s.indents, indent := column }
    let t : Token := { kind, start := mark, stop := mark }
    match number with
    | some n => s.insertAt (n - s.taken) t
    | none => s.push t
  else s

def unrollIndent (s : Scanner) (column : Int) (scanMark : Mark) : Scanner :=
  if s.flowLevel > 0 then s else go s.indents.length s
where
  go : Nat → Scanner → Scanner
    | 0, s => s
    | n + 1, s =>
      if s.indent > column then
        let m : Mark := { scanMark with index := scanMark.index - 1 }
        let s := s.push { kind := .blockEnd, start := m, stop := m }
        match s.indents with
        | i :: rest => go n { s with indent := i, indents := rest }
        | [] => s
      else s

def skipToToken (s : Scanner) : Scanner := go (s.rest.length + 1) s
where
  go : Nat → Scanner → Scanner
    | 0, s => s
    | n + 1, s =>
      let s := if s.mark.column == 0 && s.peek == '\uFEFF' then s.skip else s
      let s := s.skipWhile (fun s => s.peek == ' ' ||
        ((s.flowLevel > 0 || !s.keyAllowed) && s.peek == '\t'))
      let s := if s.peek == '#' then s.skipWhile (fun s => !isBreakOrEnd s.peek) else s
      if isBreak s.peek then
        let s := s.skipLine
        go n (if s.flowLevel == 0 then { s with keyAllowed := true } else s)
      else s

def single (s : Scanner) (kind : TokenKind) : Scanner :=
  let start := s.mark
  let s := s.skip
  s.push { kind, start, stop := s.mark }

def streamStart (s : Scanner) : Scanner :=
  let s := { s with indent := -1, keys := #[{}], keyOf := [], keyAllowed := true, started := true }
  s.push { kind := .streamStart, start := s.mark, stop := s.mark }

def streamEnd (s : Scanner) : Except Problem Scanner := do
  let s := if s.mark.column != 0 then
      { s with mark := { s.mark with column := 0, line := s.mark.line + 1 } }
    else s
  let s := s.unrollIndent (-1) s.mark
  let s ← s.removeKey
  let s := { s with keyAllowed := false }
  pure (s.push { kind := .streamEnd, start := s.mark, stop := s.mark })

def documentMarker (s : Scanner) (kind : TokenKind) : Except Problem Scanner := do
  let s := s.unrollIndent (-1) s.mark
  let s ← s.removeKey
  let s := { s with keyAllowed := false }
  let start := s.mark
  let s := s.skip.skip.skip
  pure (s.push { kind, start, stop := s.mark })

def flowStart (s : Scanner) (kind : TokenKind) : Except Problem Scanner := do
  let s ← s.saveKey
  let s := s.enterFlow
  pure ({ s with keyAllowed := true }.single kind)

def flowEnd (s : Scanner) (kind : TokenKind) : Except Problem Scanner := do
  let s ← s.removeKey
  let s := s.leaveFlow
  pure ({ s with keyAllowed := false }.single kind)

def flowEntry (s : Scanner) : Except Problem Scanner := do
  let s ← s.removeKey
  pure ({ s with keyAllowed := true }.single .flowEntry)

def blockEntry (s : Scanner) : Except Problem Scanner := do
  let s ← if s.flowLevel == 0 then
      if !s.keyAllowed then
        .error (s.problemAt s.mark "block sequence entries are not allowed in this context")
      else pure (s.rollIndent s.mark.column none .blockSequenceStart s.mark)
    else pure s
  let s ← s.removeKey
  pure ({ s with keyAllowed := true }.single .blockEntry)

def complexKey (s : Scanner) : Except Problem Scanner := do
  let s ← if s.flowLevel == 0 then
      if !s.keyAllowed then
        .error (s.problemAt s.mark "mapping keys are not allowed in this context")
      else pure (s.rollIndent s.mark.column none .blockMappingStart s.mark)
    else pure s
  let s ← s.removeKey
  pure ({ s with keyAllowed := s.flowLevel == 0 }.single .key)

def valueIndicator (s : Scanner) : Except Problem Scanner := do
  let (valid, k) ← s.checkKey s.topKey
  let s := s.setTopKey k
  let s ← if valid then
      let s := s.insertAt (k.number - s.taken) { kind := .key, start := k.mark, stop := k.mark }
      let s := s.rollIndent k.mark.column (some k.number) .blockMappingStart k.mark
      let s := (s.setTopKey { k with possible := false }).forget k.number
      pure { s with keyAllowed := false }
    else do
      let s ← if s.flowLevel == 0 then
          if !s.keyAllowed then
            .error (s.problemAt s.mark "mapping values are not allowed in this context")
          else pure (s.rollIndent s.mark.column none .blockMappingStart s.mark)
        else pure s
      pure { s with keyAllowed := s.flowLevel == 0 }
  pure (s.single .value)

def anchorOrAlias (s : Scanner) (isAlias : Bool) : Except Problem Scanner := do
  let s ← s.saveKey
  let s := { s with keyAllowed := false }
  let start := s.mark
  let (s, name) := s.skip.readWhile (fun s => isWord s.peek) ""
  let c := s.peek
  if name.isEmpty || !(isBlankOrEnd c || ['?', ':', ',', ']', '\x7d', '%', '@', '\x60'].contains c) then
    .error (s.problemAt start "did not find expected alphabetic or numeric character")
  else
    pure (s.push { kind := if isAlias then .alias name else .anchor name, start, stop := s.mark })

def uriEscapes (s : Scanner) (start : Mark) (acc : String) : Except Problem (Scanner × String) :=
  go 4 1024 s []
where
  go : Nat → Nat → Scanner → List UInt8 → Except Problem (Scanner × String)
    | 0, _, s, octets => .ok (s, acc ++ String.ofList ((Utf8.decode octets.reverse).filterMap Utf8.Piece.char?))
    | n + 1, w, s, octets =>
      match s.peek == '%', hexValue? (s.peek 1), hexValue? (s.peek 2) with
      | true, some hi, some lo =>
        let octet := (hi * 16 + lo).toUInt8
        let width := if w == 1024 then
            (if octet &&& 0x80 = 0 then 1 else if octet &&& 0xE0 = 0xC0 then 2
             else if octet &&& 0xF0 = 0xE0 then 3 else if octet &&& 0xF8 = 0xF0 then 4 else 0)
          else w
        if w == 1024 && width == 0 then
          .error (s.problemAt start "found an incorrect leading UTF-8 octet")
        else if w != 1024 && octet &&& 0xC0 != 0x80 then
          .error (s.problemAt start "found an incorrect trailing UTF-8 octet")
        else
          let s := s.skip.skip.skip
          if width - 1 == 0 then go 0 0 s (octet :: octets)
          else go n (width - 1) s (octet :: octets)
      | _, _, _ => .error (s.problemAt start "did not find URI escaped octet")

def tagUri (s : Scanner) (head : String) (start : Mark) : Except Problem (Scanner × String) :=
  go (s.rest.length + 1) s (if head.length > 1 then head.drop 1 |>.toString else "") (head.length > 0)
where
  go : Nat → Scanner → String → Bool → Except Problem (Scanner × String)
    | 0, s, acc, _ => .ok (s, acc)
    | n + 1, s, acc, seen =>
      if isUriChar s.peek then
        if s.peek == '%' then do
          let (s, acc) ← uriEscapes s start acc
          go n s acc true
        else
          let (s, acc) := s.read acc
          go n s acc true
      else if seen then .ok (s, acc)
      else .error (s.problemAt start "did not find expected tag URI")

def tagHandle (s : Scanner) (directive : Bool) (start : Mark) : Except Problem (Scanner × String) :=
  if s.peek != '!' then .error (s.problemAt start "did not find expected '!'")
  else
    let (s, h) := s.read ""
    let (s, h) := s.readWhile (fun s => isWord s.peek) h
    if s.peek == '!' then .ok (s.read h)
    else if directive && h != "!" then .error (s.problemAt start "did not find expected '!'")
    else .ok (s, h)

def tag (s : Scanner) : Except Problem Scanner := do
  let s ← s.saveKey
  let s := { s with keyAllowed := false }
  let start := s.mark
  let (s, handle, suffix) ← if s.peek 1 == '<' then do
      let (s, suffix) ← tagUri s.skip.skip "" start
      if s.peek != '>' then .error (s.problemAt start "did not find the expected '>'")
      else pure (s.skip, "", suffix)
    else do
      let (s, handle) ← tagHandle s false start
      if handle.length > 1 && handle.front == '!' && handle.back == '!' then do
        let (s, suffix) ← tagUri s "" start
        pure (s, handle, suffix)
      else do
        let (s, suffix) ← tagUri s handle start
        pure (if suffix.isEmpty then (s, "", handle) else (s, "!", suffix))
  if !isBlankOrEnd s.peek && (s.flowLevel == 0 || s.peek != ',') then
    .error (s.problemAt start "did not find expected whitespace or line break")
  else pure (s.push { kind := .tag handle suffix, start, stop := s.mark })

def versionNumber (s : Scanner) (start : Mark) : Except Problem (Scanner × Nat) :=
  let (s', digits) := s.readWhile (fun s => s.peek.isDigit) ""
  if digits.isEmpty then .error (s'.problemAt start "did not find expected version number")
  else if digits.length > 2 then
    .error ((s.skip.skip.skip).problemAt start "found extremely long version number")
  else .ok (s', digits.foldl (fun n c => n * 10 + (c.toNat - '0'.toNat)) 0)

def directive (s : Scanner) : Except Problem Scanner := do
  let s := s.unrollIndent (-1) s.mark
  let s ← s.removeKey
  let s := { s with keyAllowed := false }
  let start := s.mark
  let (s, name) := s.skip.readWhile (fun s => isWord s.peek) ""
  if name.isEmpty then throw (s.problemAt start "could not find expected directive name")
  if !isBlankOrEnd s.peek then
    throw (s.problemAt start "found unexpected non-alphabetical character")
  let (s, kind) ← if name == "YAML" then do
      let s := s.skipWhile (fun s => isBlank s.peek)
      let (s, major) ← s.versionNumber start
      if s.peek != '.' then
        throw (s.problemAt start "did not find expected digit or '.' character")
      let (s, minor) ← s.skip.versionNumber start
      pure (s, TokenKind.versionDirective major minor)
    else if name == "TAG" then do
      let s := s.skipWhile (fun s => isBlank s.peek)
      let (s, handle) ← tagHandle s true start
      if !isBlank s.peek then throw (s.problemAt start "did not find expected whitespace")
      let s := s.skipWhile (fun s => isBlank s.peek)
      let (s, pre) ← tagUri s "" start
      if !isBlankOrEnd s.peek then
        throw (s.problemAt start "did not find expected whitespace or line break")
      pure (s, TokenKind.tagDirective handle pre)
    else throw (s.problemAt start "found unknown directive name")
  let stop := s.mark
  let s := s.skipWhile (fun s => isBlank s.peek)
  let s := if s.peek == '#' then s.skipWhile (fun s => !isBreakOrEnd s.peek) else s
  if !isBreakOrEnd s.peek then
    throw (s.problemAt start "did not find expected comment or line break")
  let s := s.skipLine
  pure (s.push { kind, start, stop })

structure Gather where
  s : Scanner
  text : String := ""
  leadingBreak : String := ""
  trailingBreaks : String := ""
  spaces : String := ""
  leadingBlanks : Bool := false
  stop : Mark

def Gather.join (g : Gather) : Gather :=
  if g.leadingBlanks then
    let text :=
      if g.leadingBreak.front == '\n' then
        (if g.trailingBreaks.isEmpty then g.text.push ' ' else g.text ++ g.trailingBreaks)
      else g.text ++ g.leadingBreak ++ g.trailingBreaks
    { g with text, leadingBreak := "", trailingBreaks := "", leadingBlanks := false }
  else if g.spaces.isEmpty then g
  else { g with text := g.text ++ g.spaces, spaces := "" }

def plainRun (flow : Bool) : Nat → Gather → Gather
  | 0, g => g
  | n + 1, g =>
    let c := g.s.peek
    if isBlankOrEnd c then g
    else if (c == ':' && isBlankOrEnd (g.s.peek 1)) ||
        (flow && (c == ',' || c == '?' || c == '[' || c == ']' || c == '{' || c == '}')) then g
    else
      let g := g.join
      let (s, text) := g.s.read g.text
      plainRun flow n { g with s, text, stop := s.mark }

def plainGap (indent : Int) (start : Mark) : Nat → Gather → Except Problem Gather
  | 0, g => .ok g
  | n + 1, g =>
    let c := g.s.peek
    if isBlank c then
      if g.leadingBlanks && (g.s.mark.column : Int) < indent && c == '\t' then
        .error (g.s.problemAt start "found a tab character that violates indentation")
      else if !g.leadingBlanks then
        let (s, spaces) := g.s.read g.spaces
        plainGap indent start n { g with s, spaces }
      else plainGap indent start n { g with s := g.s.skip }
    else if isBreak c then
      if !g.leadingBlanks then
        let (s, lb) := g.s.readLine ""
        plainGap indent start n { g with s, spaces := "", leadingBreak := lb, leadingBlanks := true }
      else
        let (s, tb) := g.s.readLine g.trailingBreaks
        plainGap indent start n { g with s, trailingBreaks := tb }
    else .ok g

def plainLines (flow : Bool) (indent : Int) (start : Mark) : Nat → Gather → Except Problem Gather
  | 0, g => .ok g
  | n + 1, g =>
    if g.s.atDocumentMarker '-' || g.s.atDocumentMarker '.' || g.s.peek == '#' then .ok g
    else
      let g := plainRun flow (g.s.rest.length + 1) g
      let c := g.s.peek
      if !(isBlank c || isBreak c) then .ok g
      else do
        let g ← plainGap indent start (g.s.rest.length + 1) g
        if !flow && (g.s.mark.column : Int) < indent then .ok g
        else plainLines flow indent start n g

def plain (s : Scanner) : Except Problem Scanner := do
  let s ← s.saveKey
  let s := { s with keyAllowed := false }
  let start := s.mark
  let g ← plainLines (s.flowLevel > 0) (s.indent + 1) start (s.rest.length + 1) { s, stop := start }
  let s := g.s.push { kind := .scalar g.text .plain, start, stop := g.stop }
  pure (if g.leadingBlanks then { s with keyAllowed := true } else s)

def escape (c : Char) : Option (Sum Char Nat) :=
  match c with
  | '0' => some (.inl '\x00')
  | 'a' => some (.inl '\x07')
  | 'b' => some (.inl '\x08')
  | 't' => some (.inl '\t')
  | '\t' => some (.inl '\t')
  | 'n' => some (.inl '\n')
  | 'v' => some (.inl '\x0b')
  | 'f' => some (.inl '\x0c')
  | 'r' => some (.inl '\r')
  | 'e' => some (.inl '\x1b')
  | ' ' => some (.inl ' ')
  | '"' => some (.inl '"')
  | '\'' => some (.inl '\'')
  | '\\' => some (.inl '\\')
  | 'N' => some (.inl '\x85')
  | '_' => some (.inl '\xa0')
  | 'L' => some (.inl '\u2028')
  | 'P' => some (.inl '\u2029')
  | 'x' => some (.inr 2)
  | 'u' => some (.inr 4)
  | 'U' => some (.inr 8)
  | _ => none

def hexAhead (s : Scanner) (i : Nat) : Nat → Option Nat
  | 0 => some 0
  | k + 1 => do
    let v ← hexAhead s i k
    let d ← hexValue? (s.peek (i + k))
    pure (v * 16 + d)

def quotedRun (single : Bool) (start : Mark) : Nat → Gather → Except Problem (Gather × Bool)
  | 0, g => .ok (g, false)
  | n + 1, g =>
    let s := g.s
    let c := s.peek
    if isBlankOrEnd c then .ok (g, false)
    else if single && c == '\'' && s.peek 1 == '\'' then
      quotedRun single start n { g with s := s.skip.skip, text := g.text.push '\'' }
    else if (single && c == '\'') || (!single && c == '"') then .ok (g, false)
    else if !single && c == '\\' && isBreak (s.peek 1) then
      .ok ({ g with s := s.skip.skipLine }, true)
    else if !single && c == '\\' then
      match escape (s.peek 1) with
      | some (.inl e) => quotedRun single start n { g with s := s.skip.skip, text := g.text.push e }
      | some (.inr k) =>
        match hexAhead s 2 k with
        | none => .error (s.problemAt start "did not find expected hexdecimal number")
        | some v =>
          if (0xD800 ≤ v ∧ v ≤ 0xDFFF) ∨ 0x10FFFF < v then
            .error (s.problemAt start "found invalid Unicode character escape code")
          else
            let s := (List.range (k + 2)).foldl (fun s _ => s.skip) s
            quotedRun single start n { g with s, text := g.text.push (Char.ofNat v) }
      | none => .error (s.problemAt start "found unknown escape character")
    else
      let (s, text) := s.read g.text
      quotedRun single start n { g with s, text }

def quotedGap : Nat → Gather → Gather
  | 0, g => g
  | n + 1, g =>
    let c := g.s.peek
    if isBlank c then
      if !g.leadingBlanks then
        let (s, spaces) := g.s.read g.spaces
        quotedGap n { g with s, spaces }
      else quotedGap n { g with s := g.s.skip }
    else if isBreak c then
      if !g.leadingBlanks then
        let (s, lb) := g.s.readLine ""
        quotedGap n { g with s, spaces := "", leadingBreak := lb, leadingBlanks := true }
      else
        let (s, tb) := g.s.readLine g.trailingBreaks
        quotedGap n { g with s, trailingBreaks := tb }
    else g

def Gather.joinQuoted (g : Gather) : Gather :=
  if g.leadingBlanks then
    let text :=
      if !g.leadingBreak.isEmpty && g.leadingBreak.front == '\n' then
        (if g.trailingBreaks.isEmpty then g.text.push ' ' else g.text ++ g.trailingBreaks)
      else g.text ++ g.leadingBreak ++ g.trailingBreaks
    { g with text, leadingBreak := "", trailingBreaks := "", leadingBlanks := false }
  else { g with text := g.text ++ g.spaces, spaces := "" }

def quotedLines (single : Bool) (start : Mark) : Nat → Gather → Except Problem Gather
  | 0, g => .ok g
  | n + 1, g => do
    if g.s.atDocumentMarker '-' || g.s.atDocumentMarker '.' then
      throw (g.s.problemAt start "found unexpected document indicator")
    if isEnd g.s.peek then throw (g.s.problemAt start "found unexpected end of stream")
    let (g, escapedBreak) ← quotedRun single start (g.s.rest.length + 1) g
    let g := { g with leadingBlanks := escapedBreak }
    if (single && g.s.peek == '\'') || (!single && g.s.peek == '"') then pure g
    else
      let g := quotedGap (g.s.rest.length + 1) g
      quotedLines single start n g.joinQuoted

def quoted (s : Scanner) (single : Bool) : Except Problem Scanner := do
  let s ← s.saveKey
  let s := { s with keyAllowed := false }
  let start := s.mark
  let g ← quotedLines single start (s.rest.length + 1) { s := s.skip, stop := start }
  let s := g.s.skip
  pure (s.push { kind := .scalar g.text (if single then .singleQuoted else .doubleQuoted),
                 start, stop := s.mark })

def blockGap (s : Scanner) (indent : Nat) (breaks : String) (start : Mark) :
    Except Problem (Scanner × Nat × String × Mark) :=
  go (s.rest.length + 1) s 0 breaks s.mark
where
  go : Nat → Scanner → Nat → String → Mark → Except Problem (Scanner × Nat × String × Mark)
    | 0, s, _, breaks, stop => .ok (s, indent, breaks, stop)
    | n + 1, s, deepest, breaks, stop =>
      let s := s.skipWhile (fun s => (indent == 0 || s.mark.column < indent) && s.peek == ' ')
      let deepest := max deepest s.mark.column
      if (indent == 0 || s.mark.column < indent) && s.peek == '\t' then
        .error (s.problemAt start "found a tab character where an indentation space is expected")
      else if isBreak s.peek then
        let (s, breaks) := s.readLine breaks
        go n s deepest breaks s.mark
      else
        let chosen : Int :=
          if indent == 0 then max (max (deepest : Int) (s.indent + 1)) 1 else indent
        .ok (s, chosen.toNat, breaks, stop)

def blockLines (literal : Bool) (start : Mark) (indent : Nat) :
    Nat → Scanner → String → String → String → Bool → Mark →
      Except Problem (Scanner × String × String × String × Mark)
  | 0, s, text, leading, trailing, _, stop => .ok (s, text, leading, trailing, stop)
  | n + 1, s, text, leading, trailing, leadingBlank, stop =>
    if s.mark.column == indent && !isEnd s.peek then do
      let trailingBlank := isBlank s.peek
      let text :=
        if !literal && !leadingBlank && !trailingBlank && !leading.isEmpty &&
            leading.front == '\n' then
          (if trailing.isEmpty then text.push ' ' else text)
        else text ++ leading
      let text := text ++ trailing
      let leadingBlank := isBlank s.peek
      let (s, text) := s.readWhile (fun s => !isBreakOrEnd s.peek) text
      let (s, leading) := s.readLine ""
      let (s, indent', trailing, stop) ← blockGap s indent "" start
      if indent' != indent then .ok (s, text, leading, trailing, stop)
      else blockLines literal start indent n s text leading trailing leadingBlank stop
    else .ok (s, text, leading, trailing, stop)

def block (s : Scanner) (literal : Bool) : Except Problem Scanner := do
  let s ← s.removeKey
  let s := { s with keyAllowed := true }
  let start := s.mark
  let s := s.skip
  let chompOf (c : Char) : Int := if c == '+' then 1 else -1
  let (s, chomping, increment) ← if s.peek == '+' || s.peek == '-' then do
      let chomping := chompOf s.peek
      let s := s.skip
      if s.peek.isDigit then
        if s.peek == '0' then
          throw (s.problemAt start "found an indentation indicator equal to 0")
        else pure (s.skip, chomping, s.peek.toNat - '0'.toNat)
      else pure (s, chomping, 0)
    else if s.peek.isDigit then do
      if s.peek == '0' then throw (s.problemAt start "found an indentation indicator equal to 0")
      let increment := s.peek.toNat - '0'.toNat
      let s := s.skip
      if s.peek == '+' || s.peek == '-' then pure (s.skip, chompOf s.peek, increment)
      else pure (s, 0, increment)
    else pure (s, 0, 0)
  let s := s.skipWhile (fun s => isBlank s.peek)
  let s := if s.peek == '#' then s.skipWhile (fun s => !isBreakOrEnd s.peek) else s
  if !isBreakOrEnd s.peek then
    throw (s.problemAt start "did not find expected comment or line break")
  let s := s.skipLine
  let indent : Nat :=
    if increment > 0 then (if s.indent ≥ 0 then (s.indent + increment).toNat else increment)
    else 0
  let (s, indent, trailing, stop) ← blockGap s indent "" start
  let (s, text, leading, trailing, stop) ←
    blockLines literal start indent (s.rest.length + 1) s "" "" trailing false stop
  let text := if chomping != -1 then text ++ leading else text
  let text := if chomping == 1 then text ++ trailing else text
  pure (s.push { kind := .scalar text (if literal then .literal else .folded), start, stop })

def plainStarts (s : Scanner) : Bool :=
  let c := s.peek
  !(isBlankOrEnd c || ['-', '?', ':', ',', '[', ']', '\x7b', '\x7d', '#', '&', '*', '!', '|', '>', '\'', '"', '%',
    '@', '\x60'].contains c) ||
    (c == '-' && !isBlank (s.peek 1)) ||
    (s.flowLevel == 0 && (c == '?' || c == ':') && !isBlankOrEnd (s.peek 1))

def fetchNext (s : Scanner) : Except Problem Scanner :=
  if !s.started then .ok s.streamStart
  else
    let scanMark := s.mark
    let s := s.skipToToken
    let s := s.unrollIndent s.mark.column scanMark
    let c := s.peek
    if isEnd c then s.streamEnd
    else if s.mark.column == 0 && c == '%' then s.directive
    else if s.atDocumentMarker '-' then s.documentMarker .documentStart
    else if s.atDocumentMarker '.' then s.documentMarker .documentEnd
    else if c == '[' then s.flowStart .flowSequenceStart
    else if c == '{' then s.flowStart .flowMappingStart
    else if c == ']' then s.flowEnd .flowSequenceEnd
    else if c == '}' then s.flowEnd .flowMappingEnd
    else if c == ',' then s.flowEntry
    else if c == '-' && isBlankOrEnd (s.peek 1) then s.blockEntry
    else if c == '?' && (s.flowLevel > 0 || isBlankOrEnd (s.peek 1)) then s.complexKey
    else if c == ':' && (s.flowLevel > 0 || isBlankOrEnd (s.peek 1)) then s.valueIndicator
    else if c == '*' then s.anchorOrAlias true
    else if c == '&' then s.anchorOrAlias false
    else if c == '!' then s.tag
    else if c == '|' && s.flowLevel == 0 then s.block true
    else if c == '>' && s.flowLevel == 0 then s.block false
    else if c == '\'' then s.quoted true
    else if c == '"' then s.quoted false
    else if s.plainStarts then s.plain
    else .error (s.problemAt s.mark "found character that cannot start any token")

def fetchMore (s : Scanner) : Except Problem Scanner := go (s.rest.length + 8) s
where
  go : Nat → Scanner → Except Problem Scanner
    | 0, s => .ok s
    | n + 1, s => do
      let ready ← if s.queue.length ≥ 3 then
          match s.keyOf.lookup s.taken with
          | none => pure (some s)
          | some i => do
            let (valid, k) ← s.checkKey (s.keys.getD i {})
            let s := { s with keys := s.keys.setIfInBounds i k }
            pure (if valid then none else some s)
        else pure none
      match ready with
      | some s => pure s
      | none => go n (← s.fetchNext)

end Scanner

end Yaml

end SymbolSieve
