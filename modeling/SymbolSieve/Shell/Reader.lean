import SymbolSieve.Shell.Syntax

namespace SymbolSieve

namespace Shell

inductive Flat where
  | char (c : UInt8)
  | esc (c : UInt8)
  | mark
  | param (kind : Nat) (name : Bytes)
  | endParam
  | subst (body : Option Node)
  | arith
  | endArith

inductive Tok where
  | eof | newline | semi | background | andIf | orIf | pipe | lparen | rparen | endCase
  | endBackquote | redir | word | bang | kCase | kDo | kDone | kElif | kElse | kEsac | kFi | kFor
  | kIf | kIn | kThen | kUntil | kWhile | kBegin | kEnd
deriving DecidableEq, Repr

def Tok.text : Tok → String
  | .eof => "end of file" | .newline => "newline" | .semi => "\";\"" | .background => "\"&\""
  | .andIf => "\"&&\"" | .orIf => "\"||\"" | .pipe => "\"|\"" | .lparen => "\"(\""
  | .rparen => "\")\"" | .endCase => "\";;\"" | .endBackquote => "\"`\"" | .redir => "redirection"
  | .word => "word" | .bang => "\"!\"" | .kCase => "\"case\"" | .kDo => "\"do\""
  | .kDone => "\"done\"" | .kElif => "\"elif\"" | .kElse => "\"else\"" | .kEsac => "\"esac\""
  | .kFi => "\"fi\"" | .kFor => "\"for\"" | .kIf => "\"if\"" | .kIn => "\"in\""
  | .kThen => "\"then\"" | .kUntil => "\"until\"" | .kWhile => "\"while\""
  | .kBegin => "\"\x7b\"" | .kEnd => "\"\x7d\""

def Tok.endsList : Tok → Bool
  | .eof | .rparen | .endCase | .endBackquote | .kDo | .kDone | .kElif | .kElse | .kEsac | .kFi
  | .kThen | .kEnd => true
  | _ => false

def reservedWords : List (String × Tok) :=
  [("!", .bang), ("case", .kCase), ("do", .kDo), ("done", .kDone), ("elif", .kElif),
   ("else", .kElse), ("esac", .kEsac), ("fi", .kFi), ("for", .kFor), ("if", .kIf), ("in", .kIn),
   ("then", .kThen), ("until", .kUntil), ("while", .kWhile), ("\x7b", .kBegin), ("\x7d", .kEnd)]

def leadingChars : List Flat → Bytes
  | .char c :: rest => c :: leadingChars rest
  | _ => []

def plainText? (w : List Flat) : Option Bytes :=
  let cs := leadingChars w
  if cs.length == w.length then some cs else none

def reserved? (w : List Flat) : Option Tok :=
  (plainText? w).bind fun t => (reservedWords.find? (Bytes.ofString ·.1 == t)).map (·.2)

def isAssignment (w : List Flat) : Bool :=
  let cs := leadingChars w
  let k := nameLength cs
  k > 0 && cs[k]? == some 0x3D

def isGoodName (w : List Flat) : Bool :=
  match plainText? w with
  | some t => isName t
  | none => false

def unquoted : List Flat → Bytes
  | [] => []
  | .char c :: rest => c :: unquoted rest
  | .esc c :: rest => c :: unquoted rest
  | _ :: rest => unquoted rest

def gather : Nat → List Flat → List Sym × List Flat
  | 0, rest => ([], rest)
  | _ + 1, [] => ([], [])
  | n + 1, f :: rest =>
    match f with
    | .char c => let (a, b) := gather n rest; (.char c :: a, b)
    | .esc c => let (a, b) := gather n rest; (.esc c :: a, b)
    | .mark => let (a, b) := gather n rest; (.mark :: a, b)
    | .subst body => let (a, b) := gather n rest; (.subst body :: a, b)
    | .param k name =>
      if k == 1 then
        let (a, b) := gather n rest
        (.param name .plain false [] :: a, b)
      else
        let (inner, after) := gather n rest
        let (a, b) := gather n (after.drop 1)
        (.param name (ParamOp.ofKind (k % 16)) (k / 16 % 2 == 1) inner :: a, b)
    | .arith =>
      let (inner, after) := gather n rest
      let (a, b) := gather n (after.drop 1)
      (.arith inner :: a, b)
    | .endParam | .endArith => ([], f :: rest)

def toWord (w : List Flat) : List Sym := (gather (w.length + 1) w).1

inductive Table where
  | base | double | single | arith
deriving DecidableEq, Repr

inductive CharClass where
  | word | newline | backslash | singleQuote | doubleQuote | endQuote | backquote | dollar
  | endParam | openParen | closeParen | special | endOfInput | control
deriving DecidableEq, Repr

def Table.classOf (t : Table) (c : Option UInt8) : CharClass :=
  match c with
  | none => .endOfInput
  | some b =>
    if isControlByte b then .control
    else
      match t with
      | .base =>
        if b == 10 then .newline else if b == 0x5C then .backslash
        else if b == 0x27 then .singleQuote else if b == 0x22 then .doubleQuote
        else if b == 0x60 then .backquote else if b == 0x24 then .dollar
        else if b == 0x7D then .endParam
        else if (Bytes.ofString "<>();&| \t").contains b then .special
        else .word
      | .double =>
        if b == 10 then .newline else if b == 0x5C then .backslash
        else if b == 0x22 then .endQuote else if b == 0x60 then .backquote
        else if b == 0x24 then .dollar else if b == 0x7D then .endParam
        else if (Bytes.ofString "!*?[]=~:/-").contains b then .control
        else .word
      | .single =>
        if b == 10 then .newline else if b == 0x27 then .endQuote
        else if (Bytes.ofString "!*?[]=~:/-\\").contains b then .control
        else .word
      | .arith =>
        if b == 10 then .newline else if b == 0x5C then .backslash
        else if b == 0x60 then .backquote else if b == 0x24 then .dollar
        else if b == 0x7D then .endParam else if b == 0x28 then .openParen
        else if b == 0x29 then .closeParen
        else .word

def isSpecialParam (b : UInt8) : Bool := (Bytes.ofString "#?$!-*@").contains b || isDigit b

structure Source where
  text : Array UInt8
  pos : Nat := 0
  line : Nat := 1
  alias? : Option Bytes := none

structure PendingDoc where
  id : Nat
  expand : Bool
  delim : Bytes
  strip : Bool

inductive RedirHead where
  | file (op : FileOp) (fd : Nat)
  | dup (output : Bool) (fd : Nat)
  | here (fd : Nat) (id : Nat) (strip : Bool)

structure Check where
  aliasWord : Bool := false
  keyword : Bool := false
  newlines : Bool := false
  delimiter : Bool := false

structure Reader where
  source : Source
  outer : List Source := []
  pushback : Bool := false
  last : Tok := .eof
  word : List Flat := []
  quoted : Bool := false
  check : Check := {}
  pending : List PendingDoc := []
  head : Option RedirHead := none
  docs : List (Nat × List Sym) := []
  nextDoc : Nat := 0
  aliases : List (Bytes × Bytes) := []

structure SynErr where
  message : Bytes
  line : Nat

abbrev P := EStateM SynErr Reader

def failWith {α : Type} (msg : String) : P α := do
  let r ← get
  throw { message := Bytes.ofString msg, line := r.source.line }

def synError {α : Type} (msg : String) : P α := failWith ("Syntax error: " ++ msg)

def synExpect {α : Type} (wanted : Option Tok) : P α := do
  let r ← get
  match wanted with
  | some t => synError (r.last.text ++ " unexpected (expecting " ++ t.text ++ ")")
  | none => synError (r.last.text ++ " unexpected")

def pgetc : P (Option UInt8) := do
  let rec go : Nat → P (Option UInt8)
    | 0 => modifyGet fun r =>
      (r.source.text[r.source.pos]?, { r with source := { r.source with pos := r.source.pos + 1 } })
    | k + 1 => do
      let r ← get
      match r.source.text[r.source.pos]?, r.source.alias?, r.outer with
      | none, some _, s :: rest =>
        let last := r.source.text.back?
        let blank := last == some 0x20 || last == some 0x09
        set { r with source := { s with line := r.source.line }, outer := rest,
                     check := { r.check with aliasWord := r.check.aliasWord || blank } }
        go k
      | c, _, _ =>
        set { r with source := { r.source with pos := r.source.pos + 1 } }
        return c
  go ((← get).outer.length + 1)

def pungetc : P Unit :=
  modify fun r => { r with source := { r.source with pos := r.source.pos - 1 } }

def countLine : P Unit :=
  modify fun r => { r with source := { r.source with line := r.source.line + 1 } }

def getJoined : P (Option UInt8) := do
  let r ← get
  let rec go : Nat → P (Option UInt8)
    | 0 => pgetc
    | k + 1 => do
      let c ← pgetc
      if c == some 0x5C then
        let d ← pgetc
        if d != some 10 then
          pungetc
          return c
        countLine
        go k
      else return c
  go (r.source.text.size - r.source.pos + 2)

def setLast (t : Tok) : P Tok := do
  modify fun r => { r with last := t }
  return t

def redirHead (c : UInt8) (fd : Option Nat) : P Unit := do
  let head ← if c == 0x3E then do
      let d ← getJoined
      if d == some 0x3E then pure (RedirHead.file .append (fd.getD 1))
      else if d == some 0x7C then pure (RedirHead.file .clobber (fd.getD 1))
      else if d == some 0x26 then pure (RedirHead.dup true (fd.getD 1))
      else do pungetc; pure (RedirHead.file .output (fd.getD 1))
    else do
      let d ← getJoined
      if d == some 0x3C then do
        let r ← get
        let e ← getJoined
        let strip := e == some 0x2D
        if !strip then pungetc
        modify fun r => { r with nextDoc := r.nextDoc + 1 }
        pure (RedirHead.here (fd.getD 0) r.nextDoc strip)
      else if d == some 0x26 then pure (RedirHead.dup false (fd.getD 0))
      else if d == some 0x3E then pure (RedirHead.file .both (fd.getD 0))
      else do pungetc; pure (RedirHead.file .input (fd.getD 0))
  modify fun r => { r with head := some head }

def skipTabs (c : Option UInt8) : P (Option UInt8) := do
  let r ← get
  let rec go : Nat → Option UInt8 → P (Option UInt8)
    | 0, c => pure c
    | k + 1, c => if c == some 9 then do go k (← pgetc) else pure c
  go (r.source.text.size - r.source.pos + 2) c

def bodyLineStart (delim : Bytes) (strip : Bool) (c : Option UInt8) : P (Option UInt8) := do
  let c ← if strip then skipTabs c else pure c
  let saved := (← get).source.pos
  let rec compare : Bytes → Option UInt8 → P Bool
    | [], c => pure (c == some 10 || c == none)
    | d :: ds, c => if c == some d then do compare ds (← pgetc) else pure false
  if ← compare delim c then
    countLine
    return none
  else
    modify fun r => { r with source := { r.source with pos := saved } }
    return c

def backquotedText (inDouble : Bool) : P Bytes := do
  let r ← get
  let rec go : Nat → Bytes → P Bytes
    | 0, acc => pure acc.reverse
    | k + 1, acc => do
      let c ← getJoined
      match c with
      | some 0x60 => pure acc.reverse
      | some 0x5C =>
        let d ← pgetc
        match d with
        | some b =>
          let keep := b != 0x5C && b != 0x60 && b != 0x24 && (!inDouble || b != 0x22)
          go k (b :: (if keep then 0x5C :: acc else acc))
        | none => go k (0x5C :: acc)
      | none => failWith "Syntax error: EOF in backquote substitution"
      | some 10 => do countLine; go k (10 :: acc)
      | some b => go k (b :: acc)
  go (r.source.text.size - r.source.pos + 2) []

def pushSource (text : Bytes) : P Unit :=
  modify fun r => { r with source := { text := text.toArray }, outer := r.source :: r.outer }

def popSource : P Unit :=
  modify fun r =>
    match r.outer with
    | s :: rest => { r with source := s, outer := rest }
    | [] => r

structure Level where
  table : Table
  innerDq : Bool := false
  pushed : Bool := false
  dquote : Bool := false
  nest : Nat := 0
  parens : Nat := 0
  dqNest : Nat := 0

structure Scan where
  out : Array Flat := #[]
  quoted : Bool := false
  levels : List Level
  delim : Option Bytes := none
  strip : Bool := false

def Scan.top (s : Scan) : Level := s.levels.headD { table := .base }

def Scan.setTop (s : Scan) (l : Level) : Scan := { s with levels := l :: s.levels.drop 1 }

def Scan.put (s : Scan) (f : Flat) : Scan := { s with out := s.out.push f }

def getIn (s : Scan) : P (Option UInt8) := if s.top.table == .single then pgetc else getJoined

def readWhile (p : UInt8 → Bool) (first : UInt8) : P (Bytes × Option UInt8) := do
  let r ← get
  let rec go : Nat → Bytes → P (Bytes × Option UInt8)
    | 0, acc => do pure (acc.reverse, ← getJoined)
    | k + 1, acc => do
      let c ← getJoined
      match c with
      | some b => if p b then go k (b :: acc) else pure (acc.reverse, c)
      | none => pure (acc.reverse, c)
  go (r.source.text.size - r.source.pos + 2) [first]

def paramOperator (c : Option UInt8) : P (Nat × Bool) := do
  let types := Bytes.ofString "\x7d-+?="
  let kindOf (k : Nat) (c : Option UInt8) : Nat :=
    match c with
    | some b => match types.idxOf? b with
      | some i => k ||| (i + 1)
      | none => k
    | none => k
  match c with
  | some 0x3A =>
    let d ← getJoined
    pure (kindOf 16 d, false)
  | some 0x25 | some 0x23 =>
    let k := if c == some 0x23 then 8 else 6
    let d ← getJoined
    if d == c then pure (k + 1, true)
    else do pungetc; pure (k, true)
  | _ => pure (kindOf 0 c, false)

def paramHead (kind : Nat) (c : Option UInt8) : P (Nat × Bytes × Bool) := do
  let afterName (kind : Nat) (name : Bytes) (c : Option UInt8) : P (Nat × Bytes × Bool) := do
    if kind == 0 then
      let (k, base) ← paramOperator c
      pure (k, name, base)
    else
      let kind := if kind == 10 && c != some 0x7D then 0 else kind
      pungetc
      pure (kind, name, false)
  let badsub (kind : Nat) : P (Nat × Bytes × Bool) := do
    pungetc
    pure (kind, [], false)
  let named (kind : Nat) (b : UInt8) : P (Nat × Bytes × Bool) := do
    if isNameStart b then
      let (name, c) ← readWhile isNameChar b
      afterName kind name c
    else
      let (name, c) ← if kind == 0 || kind ≥ 10 then readWhile isDigit b
        else do pure ([b], ← getJoined)
      afterName kind name c
  match c with
  | some b =>
    if isNameStart b || isDigit b then named kind b
    else if b == 0x7D then badsub kind
    else
      let d ← getJoined
      if kind == 0 && b == 0x23 then
        match d with
        | some e =>
          if isNameChar e then named 10 e
          else
            let f ← getJoined
            if e == 0x7D || f != some 0x7D then
              pungetc
              afterName 0 [0x23] d
            else if isSpecialParam e then afterName 10 [e] f
            else badsub 0
        | none =>
          let f ← getJoined
          pungetc
          let _ := f
          afterName 0 [0x23] d
      else if isSpecialParam b then afterName kind [b] d
      else badsub (if kind == 10 then 0 else kind)
  | none =>
    let _ ← getJoined
    badsub kind

def takeWord : P (List Flat) := do
  let r ← get
  return r.word

def tooDeep {α : Type} : P α := failWith "Syntax error: too deeply nested"

def dupTarget (w : List Flat) : Sum (Option Nat) (List Sym) :=
  match w with
  | [.char c] =>
    if isDigit c then .inl (some (c - 0x30).toNat)
    else if c == 0x2D then .inl none
    else .inr (toWord w)
  | _ => .inr (toWord w)

mutual

def scanLine : Nat → Option UInt8 → Scan → P (Option UInt8 × Scan)
  | 0, _, _ => tooDeep
  | n + 1, c, s => do
    let c ← match s.delim with
      | some d => bodyLineStart d s.strip c
      | none => pure c
    scanChars n c s

def scanChars : Nat → Option UInt8 → Scan → P (Option UInt8 × Scan)
  | 0, _, _ => tooDeep
  | n + 1, c, s => do
    let top := s.top
    match top.table.classOf c, c with
    | .newline, some b =>
      if top.table == .base && top.nest == 0 then return (c, s)
      countLine
      scanLine n (← pgetc) (s.put (.char b))
    | .word, some b => scanChars n (← getIn s) (s.put (.char b))
    | .control, some b =>
      let s := if s.delim.isNone || top.dquote || top.nest > 0 then s.put (.esc b) else s.put (.char b)
      scanChars n (← getIn s) s
    | .backslash, _ =>
      let d ← pgetc
      match d with
      | none =>
        pungetc
        scanChars n (← getIn s) (s.put (.esc 0x5C))
      | some b =>
        let keep := top.dquote && b != 0x5C && b != 0x60 && b != 0x24 &&
          (b != 0x22 || (s.delim.isSome && top.nest == 0)) && (b != 0x7D || top.nest == 0)
        let s := if keep then s.put (.esc 0x5C) else s
        let s := { s.put (.esc b) with quoted := true }
        scanChars n (← getIn s) s
    | .singleQuote, _ =>
      let s := s.setTop { top with table := .single }
      let s := if s.delim.isNone then s.put .mark else s
      scanChars n (← getIn s) s
    | .doubleQuote, _ =>
      let t := { top with table := .double, dquote := true }
      let t := if t.nest > 0 then { t with innerDq := !t.innerDq } else t
      let s := s.setTop t
      let s := if s.delim.isNone then s.put .mark else s
      scanChars n (← getIn s) s
    | .endQuote, some b =>
      if s.delim.isSome && top.nest == 0 then scanChars n (← getIn s) (s.put (.char b))
      else
        let t := if top.dqNest == 0 then { top with table := .base, dquote := false } else top
        let t := if b == 0x22 && t.nest > 0 then { t with innerDq := !t.innerDq } else t
        let s := { s.setTop t with quoted := true }
        let s := if s.delim.isNone then s.put .mark else s
        scanChars n (← getIn s) s
    | .dollar, _ =>
      let s ← scanDollar n s
      scanChars n (← getIn s) s
    | .endParam, some b =>
      if !top.innerDq && top.nest > 0 then
        let t := { top with nest := top.nest - 1 }
        let s :=
          if t.nest == 0 && t.pushed then { s with levels := s.levels.drop 1 }
          else if t.dqNest > 0 then s.setTop { t with dqNest := t.dqNest - 1 }
          else s.setTop t
        let s := s.put .endParam
        scanChars n (← getIn s) s
      else scanChars n (← getIn s) (s.put (.char b))
    | .openParen, some b =>
      let s := (s.setTop { top with parens := top.parens + 1 }).put (.char b)
      scanChars n (← getIn s) s
    | .closeParen, some b =>
      if top.parens > 0 then
        let s := (s.put (.char b)).setTop { top with parens := top.parens - 1 }
        scanChars n (← getIn s) s
      else
        let d ← getJoined
        if d == some 0x29 then
          let s := { s with levels := s.levels.drop 1 }.put .endArith
          scanChars n (← getIn s) s
        else
          pungetc
          scanChars n (← getIn s) (s.put (.char b))
    | .backquote, _ =>
      let r ← get
      if r.check.delimiter then
        scanChars n (← getIn s) { s.put (.char 0x60) with quoted := true }
      else
        let s ← scanBackquote n true s
        scanChars n (← getIn s) s
    | .endOfInput, _ => return (c, s)
    | .special, some b =>
      if top.nest == 0 then return (c, s)
      scanChars n (← getIn s) (s.put (.char b))
    | _, _ => return (c, s)

def scanDollar : Nat → Scan → P Scan
  | 0, _ => tooDeep
  | n + 1, s => do
    let c ← getJoined
    let r ← get
    let starts := match c with
      | some b => b == 0x28 || b == 0x7B || isNameStart b || isSpecialParam b
      | none => false
    if r.check.delimiter || !starts then
      pungetc
      return s.put (.char 0x24)
    else if c == some 0x28 then
      let d ← getJoined
      if d == some 0x28 then
        return { s with levels := { table := .arith, dquote := true } :: s.levels }.put .arith
      else
        pungetc
        scanBackquote n false s
    else
      let (kind, c) ← if c == some 0x7B then do pure (0, ← getJoined) else pure (1, c)
      let (kind, name, baseWord) ← paramHead kind c
      let top := s.top
      let newsyn := if baseWord then Table.base else top.table
      let newsyn := if newsyn == .arith then Table.double else newsyn
      let s :=
        if (newsyn != top.table || top.innerDq) && kind != 1 then
          { s with levels := { table := newsyn, pushed := true, dquote := newsyn != .base } :: s.levels }
        else s
      let s := s.put (.param kind name)
      if kind != 1 then
        let t := s.top
        let t := { t with nest := t.nest + 1 }
        let t := if t.dquote then { t with dqNest := t.dqNest + 1 } else t
        return s.setTop t
      return s

def scanBackquote : Nat → Bool → Scan → P Scan
  | 0, _, _ => tooDeep
  | n + 1, old, s => do
    if old then
      let text ← backquotedText s.top.dquote
      pushSource text
    let saved := (← get).pending
    modify fun r => { r with pending := [] }
    let (body, _) ← parseList n 2
    if !old then
      let t ← readToken n
      if t != .rparen then synExpect (some .rparen)
    if old then
      popSource
      modify fun r => { r with pushback := false }
    modify fun r => { r with pending := saved }
    return s.put (.subst body)

def readWord : Nat → Option UInt8 → Table → Option Bytes → Bool → P Tok
  | 0, _, _, _, _ => tooDeep
  | n + 1, c, table, delim, strip => do
    let s0 : Scan := { levels := [{ table, dquote := table == .double }], delim, strip }
    let (c, s) ← scanLine n c s0
    let top := s.top
    if top.table == .arith then failWith "Syntax error: Missing '))'"
    if top.table != .base && delim.isNone then failWith "Syntax error: Unterminated quoted string"
    if top.nest != 0 then failWith "Syntax error: Missing '\x7d'"
    if delim.isNone then
      let digit : Option (Option Nat) :=
        match s.out.toList with
        | [] => some none
        | [.char d] => if isDigit d then some (some (d - 0x30).toNat) else none
        | _ => none
      match c, digit with
      | some b, some fd =>
        if (b == 0x3E || b == 0x3C) && !s.quoted then
          redirHead b fd
          return ← setLast .redir
        pungetc
      | _, _ => pungetc
    modify fun r => { r with word := s.out.toList, quoted := s.quoted }
    setLast .word

def nextToken : Nat → P Tok
  | 0 => tooDeep
  | n + 1 => do
    let r ← get
    if r.pushback then
      modify fun r => { r with pushback := false }
      return r.last
    let c ← getJoined
    match c with
    | some 0x20 | some 0x09 => nextToken n
    | some 0x23 =>
      let rec skip : Nat → P Unit
        | 0 => pure ()
        | k + 1 => do
          let d ← pgetc
          if d == some 10 || d == none then pungetc else skip k
      skip (r.source.text.size - r.source.pos + 2)
      nextToken n
    | some 10 => do countLine; setLast .newline
    | none => setLast .eof
    | some 0x26 =>
      if (← getJoined) == some 0x26 then setLast .andIf else do pungetc; setLast .background
    | some 0x7C =>
      if (← getJoined) == some 0x7C then setLast .orIf else do pungetc; setLast .pipe
    | some 0x3B =>
      if (← getJoined) == some 0x3B then setLast .endCase else do pungetc; setLast .semi
    | some 0x28 => setLast .lparen
    | some 0x29 => setLast .rparen
    | _ => readWord n c .base none false

def readToken : Nat → P Tok
  | 0 => tooDeep
  | n + 1 => do readTokenWith n (← get).check

def readTokenWith : Nat → Check → P Tok
  | 0, _ => tooDeep
  | n + 1, kwd => do
    let t ← nextToken n
    let t ← if kwd.newlines then skipNewlines n t else pure t
    let kwd := { kwd with aliasWord := kwd.aliasWord || (← get).check.aliasWord }
    modify fun r => { r with check := {} }
    let r ← get
    if t != .word || r.quoted then return t
    if kwd.keyword then
      if let some k := reserved? r.word then return (← setLast k)
    if kwd.aliasWord then
      if let some w := plainText? r.word then
        let inUse := r.source.alias? == some w || r.outer.any (·.alias? == some w)
        if let some v := r.aliases.lookup w then
          if !inUse then
            if !v.isEmpty then
              modify fun r => { r with
                source := { text := v.toArray, line := r.source.line, alias? := some w },
                outer := r.source :: r.outer }
            return (← readTokenWith n kwd)
    return t

def skipNewlines : Nat → Tok → P Tok
  | 0, _ => tooDeep
  | n + 1, t => do
    if t != .newline then return t
    readBodies n
    modify fun r => { r with check := {} }
    skipNewlines n (← nextToken n)

def readBodies : Nat → P Unit
  | 0 => tooDeep
  | n + 1 => do
    let r ← get
    modify fun r => { r with pending := [] }
    readEach n r.pending

def readEach : Nat → List PendingDoc → P Unit
  | 0, _ => tooDeep
  | _ + 1, [] => pure ()
  | n + 1, h :: rest => do
    let c ← if h.expand then getJoined else pgetc
    let _ ← readWord n c (if h.expand then .double else .single) (some h.delim) h.strip
    let w ← takeWord
    modify fun r => { r with docs := r.docs ++ [(h.id, toWord w)] }
    readEach n rest

def parseList : Nat → Nat → P (Option Node × Bool)
  | 0, _ => tooDeep
  | n + 1, nl => listLoop n (nl % 2 == 0) nl none

def listLoop : Nat → Bool → Nat → Option Node → P (Option Node × Bool)
  | 0, _, _, _ => tooDeep
  | n + 1, chknl, nl, acc => do
    modify fun r => { r with check := { newlines := chknl, keyword := true, aliasWord := true } }
    let tok ← readToken n
    if tok == .newline then
      readBodies n
      return (acc, false)
    if tok == .eof then
      readBodies n
      modify fun r => { r with pushback := true, last := .eof }
      return (acc, acc.isNone && !chknl)
    modify fun r => { r with pushback := true }
    if nl == 2 && tok.endsList then return (acc, false)
    let item ← andOr n
    let tok ← readToken n
    let item :=
      if tok == .background then
        match item with
        | .pipeline _ stages => Node.pipeline true stages
        | .redirected l b rs => .background l b rs
        | other => .background 0 other []
      else item
    let acc := some (match acc with | none => item | some a => Node.seq a item)
    match tok with
    | .eof =>
      readBodies n
      modify fun r => { r with pushback := true, last := .eof }
      return (acc, false)
    | .newline =>
      modify fun r => { r with pushback := true }
      listLoop n chknl (nl ||| 2) acc
    | .background | .semi => listLoop n chknl (nl ||| 2) acc
    | _ =>
      if !chknl then synExpect none
      modify fun r => { r with pushback := true }
      return (acc, false)

def andOr : Nat → P Node
  | 0 => tooDeep
  | n + 1 => do andOrRest n (← pipeline n)

def andOrRest : Nat → Node → P Node
  | 0, _ => tooDeep
  | n + 1, acc => do
    let t ← readToken n
    if t == .andIf || t == .orIf then
      modify fun r => { r with check := { newlines := true, keyword := true, aliasWord := true } }
      let next ← pipeline n
      andOrRest n (if t == .andIf then .and acc next else .or acc next)
    else
      modify fun r => { r with pushback := true }
      return acc

def pipeline : Nat → P Node
  | 0 => tooDeep
  | n + 1 => do
    let t ← readToken n
    let negated := t == .bang
    if negated then modify fun r => { r with check := { keyword := true, aliasWord := true } }
    else modify fun r => { r with pushback := true }
    let first ← command n
    let t ← readToken n
    let node ← if t == .pipe then do
        let stages ← pipeRest n [first]
        pure (Node.pipeline false stages)
      else pure first
    modify fun r => { r with pushback := true }
    return if negated then .negate node else node

def pipeRest : Nat → List Node → P (List Node)
  | 0, _ => tooDeep
  | n + 1, acc => do
    modify fun r => { r with check := { newlines := true, keyword := true, aliasWord := true } }
    let c ← command n
    let acc := acc ++ [c]
    if (← readToken n) == .pipe then pipeRest n acc else return acc

def command : Nat → P Node
  | 0 => tooDeep
  | n + 1 => do
    let line := (← get).source.line
    let t ← readToken n
    match t with
    | .kIf =>
      let test ← listBody n
      if (← readToken n) != .kThen then synExpect (some .kThen)
      let yes ← listBody n
      let no ← elseParts n
      closeWith n (.cond test yes no) .kFi line
    | .kWhile | .kUntil =>
      let test ← listBody n
      if (← readToken n) != .kDo then synExpect (some .kDo)
      let body ← listBody n
      closeWith n (if t == .kWhile then .whileLoop test body else .untilLoop test body) .kDone line
    | .kFor =>
      let t ← readToken n
      let r ← get
      if t != .word || r.quoted || !isGoodName r.word then failWith "Syntax error: Bad for loop variable"
      let name := unquoted r.word
      modify fun r => { r with check := { newlines := true, keyword := true, aliasWord := true } }
      let words ← if (← readToken n) == .kIn then do
          let ws ← forWords n []
          let r ← get
          if r.last != .newline && r.last != .semi then synExpect none
          pure ws
        else do
          let r ← get
          if r.last != .semi then modify fun r => { r with pushback := true }
          pure [allParams]
      modify fun r => { r with check := { newlines := true, keyword := true, aliasWord := true } }
      if (← readToken n) != .kDo then synExpect (some .kDo)
      let body ← listBody n
      closeWith n (.forLoop line name words body) .kDone line
    | .kCase =>
      if (← readToken n) != .word then synExpect (some .word)
      let subject := toWord (← get).word
      modify fun r => { r with check := { newlines := true, keyword := true, aliasWord := true } }
      if (← readToken n) != .kIn then synExpect (some .kIn)
      let arms ← caseArms n []
      withRedirs n (.caseOf line subject arms) line
    | .lparen =>
      let body ← listBody n
      closeWith n (.subshell line body []) .rparen line
    | .kBegin =>
      let body ← listBody n
      closeWith n body .kEnd line
    | .word | .redir =>
      modify fun r => { r with pushback := true }
      simpleCmd n (← get).source.line [] [] [] true
    | _ => synExpect none

def listBody : Nat → P Node
  | 0 => tooDeep
  | n + 1 => do
    let (body, _) ← parseList n 0
    match body with
    | some b => return b
    | none => return .simple 0 [] [] []

def elseParts : Nat → P (Option Node)
  | 0 => tooDeep
  | n + 1 => do
    let t ← readToken n
    if t == .kElif then
      let test ← listBody n
      if (← readToken n) != .kThen then synExpect (some .kThen)
      let yes ← listBody n
      let no ← elseParts n
      return some (.cond test yes no)
    else if t == .kElse then
      return some (← listBody n)
    else
      modify fun r => { r with pushback := true }
      return none

def closeWith : Nat → Node → Tok → Nat → P Node
  | 0, _, _, _ => tooDeep
  | n + 1, node, closer, line => do
    if (← readToken n) != closer then synExpect (some closer)
    withRedirs n node line

def withRedirs : Nat → Node → Nat → P Node
  | 0, _, _ => tooDeep
  | n + 1, node, line => do
    modify fun r => { r with check := { keyword := true, aliasWord := true } }
    let rs ← tailRedirs n []
    if rs.isEmpty then return node
    match node with
    | .subshell l b _ => return .subshell l b rs
    | other => return .redirected line other rs

def tailRedirs : Nat → List Redir → P (List Redir)
  | 0, _ => tooDeep
  | n + 1, acc => do
    if (← readToken n) == .redir then
      let rd ← fileName n
      tailRedirs n (acc ++ [rd])
    else
      modify fun r => { r with pushback := true }
      return acc

def forWords : Nat → List (List Sym) → P (List (List Sym))
  | 0, _ => tooDeep
  | n + 1, acc => do
    if (← readToken n) == .word then forWords n (acc ++ [toWord (← get).word])
    else return acc

def caseArms : Nat → List (List (List Sym) × Option Node) → P (List (List (List Sym) × Option Node))
  | 0, _ => tooDeep
  | n + 1, acc => do
    modify fun r => { r with check := { newlines := true, keyword := true } }
    if (← readToken n) == .kEsac then return acc
    if (← get).last == .lparen then
      let _ ← readToken n
    let pats ← casePatterns n []
    if (← get).last != .rparen then synExpect (some .rparen)
    let (body, _) ← parseList n 2
    let acc := acc ++ [(pats, body)]
    modify fun r => { r with check := { newlines := true, keyword := true } }
    let t ← readToken n
    if t == .kEsac then return acc
    if t != .endCase then synExpect (some .endCase)
    caseArms n acc

def casePatterns : Nat → List (List Sym) → P (List (List Sym))
  | 0, _ => tooDeep
  | n + 1, acc => do
    let acc := acc ++ [toWord (← get).word]
    if (← readToken n) != .pipe then return acc
    let _ ← readToken n
    casePatterns n acc

def simpleCmd : Nat → Nat → List (List Flat) → List (List Flat) → List Redir → Bool → P Node
  | 0, _, _, _, _, _ => tooDeep
  | n + 1, line, assigns, args, redirs, inAssign => do
    modify fun r => { r with check := { aliasWord := inAssign } }
    let t ← readToken n
    let finish : P Node := do
      modify fun r => { r with pushback := true }
      return .simple line (assigns.map toWord) (args.map toWord) redirs
    match t with
    | .word =>
      let w := (← get).word
      if inAssign && isAssignment w then simpleCmd n line (assigns ++ [w]) args redirs inAssign
      else simpleCmd n line assigns (args ++ [w]) redirs false
    | .redir =>
      let rd ← fileName n
      simpleCmd n line assigns args (redirs ++ [rd]) inAssign
    | .lparen =>
      match args with
      | [w] =>
        if assigns.isEmpty && redirs.isEmpty then
          if (← readToken n) != .rparen then synExpect (some .rparen)
          let name := unquoted w
          if !isGoodName w || specialBuiltins.any (Bytes.ofString · == name) then
            failWith "Syntax error: Bad function name"
          modify fun r => { r with check := { newlines := true, keyword := true, aliasWord := true } }
          let fline := (← get).source.line
          let body ← command n
          return .function fline name body
        else finish
      | _ => finish
    | _ => finish

def fileName : Nat → P Redir
  | 0 => tooDeep
  | n + 1 => do
    let head := (← get).head
    if let some (.here ..) := head then
      modify fun r => { r with check := { delimiter := true } }
    if (← readToken n) != .word then synExpect (some .word)
    let r ← get
    match head with
    | some (.here fd id strip) =>
      let expand := !r.quoted
      modify fun r => { r with pending := r.pending ++ [{ id, expand, delim := unquoted r.word, strip }] }
      return .here fd id expand
    | some (.dup out fd) => return .dup out fd (dupTarget r.word)
    | some (.file op fd) => return .file op fd (toWord r.word)
    | none => return .file .input 0 (toWord r.word)

end

def Reader.ofText (text : Bytes) (line : Nat) (firstDoc : Nat) : Reader :=
  { source := { text := text.toArray, line }, nextDoc := firstDoc }

inductive Parsed where
  | eof
  | command (n : Option Node)

def readCommand : P Parsed := do
  modify fun r => { r with pushback := false, check := {}, pending := [] }
  let r ← get
  let (n, atEnd) ← parseList (8 * (r.source.text.size - r.source.pos) + 4096) 1
  return if atEnd then .eof else .command n

def Reader.atEnd (r : Reader) : Bool := r.pushback && r.last == .eof

def Reader.main (r : Reader) : Source := r.outer.getLastD r.source

def continuationLines (before after : Reader) : Nat :=
  let b := before.main
  let a := after.main
  let ended := a.pos > 0 && a.text[a.pos - 1]? == some 0x0A
  a.line - b.line - (if ended then 1 else 0)

def readPrompt : P (List Sym) := do
  let r ← get
  let c ← getJoined
  let _ ← readWord (8 * r.source.text.size + 4096) c .double (some [0]) false
  return toWord (← takeWord)

end Shell

end SymbolSieve
