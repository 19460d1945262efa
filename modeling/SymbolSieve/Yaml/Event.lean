import SymbolSieve.Yaml.Scanner

namespace SymbolSieve

namespace Yaml

inductive EventKind where
  | streamStart
  | streamEnd
  | documentStart (isImplicit : Bool)
  | documentEnd (isImplicit : Bool)
  | alias (name : String)
  | scalar (anchor tag text : String) (style : ScalarStyle)
  | sequenceStart (anchor tag : String) (flow : Bool)
  | sequenceEnd
  | mappingStart (anchor tag : String) (flow : Bool)
  | mappingEnd
deriving DecidableEq, Repr, Inhabited

structure Event where
  kind : EventKind
  start : Mark
  stop : Mark
deriving Repr, Inhabited

inductive ParseState where
  | streamStart
  | implicitDocumentStart
  | documentStart
  | documentContent
  | documentEnd
  | blockNode
  | blockNodeOrIndentlessSequence
  | flowNode
  | blockSequenceFirstEntry
  | blockSequenceEntry
  | indentlessSequenceEntry
  | blockMappingFirstKey
  | blockMappingKey
  | blockMappingValue
  | flowSequenceFirstEntry
  | flowSequenceEntry
  | flowSequenceEntryMappingKey
  | flowSequenceEntryMappingValue
  | flowSequenceEntryMappingEnd
  | flowMappingFirstKey
  | flowMappingKey
  | flowMappingValue
  | flowMappingEmptyValue
  | finished
deriving DecidableEq, Repr, Inhabited

def defaultTagDirectives : List (String × String) := [("!", "!"), ("!!", "tag:yaml.org,2002:")]

structure Parser where
  scanner : Scanner
  ready : Bool := false
  state : ParseState := .streamStart
  states : List ParseState := []
  marks : List Mark := []
  tagDirectives : List (String × String) := []

namespace Parser

def problem (context : Mark) (what : String) (found : Mark) : Problem :=
  { stage := .structural, context, problem := what, found }

def peek (p : Parser) : Except Problem (Token × Parser) := do
  let s ← if p.ready then pure p.scanner else p.scanner.fetchMore
  match s.queue with
  | t :: _ => pure (t, { p with scanner := s, ready := true })
  | [] => pure ({ kind := .streamEnd, start := s.mark, stop := s.mark }, { p with scanner := s })

def skip (p : Parser) : Parser :=
  { p with ready := false,
           scanner := { p.scanner with queue := p.scanner.queue.tail,
                                       taken := p.scanner.taken + 1 } }

def pop (p : Parser) : Parser :=
  match p.states with
  | s :: rest => { p with state := s, states := rest }
  | [] => { p with state := .finished }

def pushState (p : Parser) (s : ParseState) : Parser := { p with states := s :: p.states }

def popMark (p : Parser) : Mark × Parser :=
  match p.marks with
  | m :: rest => (m, { p with marks := rest })
  | [] => ({}, p)

def emptyScalar (m : Mark) : Event := { kind := .scalar "" "" "" .plain, start := m, stop := m }

def addTagDirective (p : Parser) (handle pre : String) (allowDuplicate : Bool) (m : Mark) :
    Except Problem Parser :=
  if p.tagDirectives.any (·.1 == handle) then
    if allowDuplicate then .ok p else .error (problem {} "found duplicate %TAG directive" m)
  else .ok { p with tagDirectives := p.tagDirectives ++ [(handle, pre)] }

def directives (p : Parser) : Except Problem Parser := go (p.scanner.rest.length + 4) p false
where
  go : Nat → Parser → Bool → Except Problem Parser
    | 0, p, _ => .ok p
    | n + 1, p, seenVersion => do
      let (t, p) ← p.peek
      match t.kind with
      | .versionDirective major minor =>
        if seenVersion then throw (problem {} "found duplicate %YAML directive" t.start)
        if major != 1 || minor != 1 then
          throw (problem {} "found incompatible YAML document" t.start)
        go n p.skip true
      | .tagDirective handle pre =>
        let p ← p.addTagDirective handle pre false t.start
        go n p.skip seenVersion
      | _ =>
        defaultTagDirectives.foldlM (fun p (h, pre) => p.addTagDirective h pre true t.start) p

def skipDocumentEnds (p : Parser) : Except Problem (Token × Parser) :=
  go (p.scanner.rest.length + 4) p
where
  go : Nat → Parser → Except Problem (Token × Parser)
    | 0, p => p.peek
    | n + 1, p => do
      let (t, p) ← p.peek
      if t.kind == .documentEnd then go n p.skip else pure (t, p)

def documentStart (p : Parser) (isImplicit : Bool) : Except Problem (Event × Parser) := do
  let (t, p) ← if isImplicit then p.peek else p.skipDocumentEnds
  let directiveOrStart := match t.kind with
    | .versionDirective .. | .tagDirective .. | .documentStart => true
    | _ => false
  if isImplicit && !directiveOrStart && t.kind != .streamEnd then
    let p ← p.directives
    let p := { p.pushState .documentEnd with state := .blockNode }
    pure ({ kind := .documentStart true, start := t.start, stop := t.stop }, p)
  else if t.kind != .streamEnd then
    let p ← p.directives
    let (t', p) ← p.peek
    if t'.kind != .documentStart then
      throw (problem {} "did not find expected <document start>" t'.start)
    let p := { p.pushState .documentEnd with state := .documentContent }
    pure ({ kind := .documentStart false, start := t.start, stop := t'.stop }, p.skip)
  else
    pure ({ kind := .streamEnd, start := t.start, stop := t.stop }, { p.skip with state := .finished })

def documentEnd (p : Parser) : Except Problem (Event × Parser) := do
  let (t, p) ← p.peek
  let (p, stop, isImplicit) :=
    if t.kind == .documentEnd then (p.skip, t.stop, false) else (p, t.start, true)
  pure ({ kind := .documentEnd isImplicit, start := t.start, stop },
        { p with tagDirectives := [], state := .documentStart })

def resolveTag (p : Parser) (handle suffix : String) : Option String :=
  if handle.isEmpty then some suffix
  else (p.tagDirectives.find? (·.1 == handle)).map (·.2 ++ suffix)

def node (p : Parser) (block indentless : Bool) : Except Problem (Event × Parser) := do
  let (t, p) ← p.peek
  if let .alias name := t.kind then
    return ({ kind := .alias name, start := t.start, stop := t.stop }, p.pop.skip)
  -- properties: an anchor and a tag, in either order
  let start := t.start
  let (anchor, tagParts, tagMark, stop, t, p) ← match t.kind with
    | .anchor a => do
      let p := p.skip
      let (t2, p) ← p.peek
      match t2.kind with
      | .tag h s => do
        let p := p.skip
        let (t3, p) ← p.peek
        pure (a, some (h, s), t2.start, t2.stop, t3, p)
      | _ => pure (a, none, start, t.stop, t2, p)
    | .tag h s => do
      let p := p.skip
      let (t2, p) ← p.peek
      match t2.kind with
      | .anchor a => do
        let p := p.skip
        let (t3, p) ← p.peek
        pure (a, some (h, s), t.start, t2.stop, t3, p)
      | _ => pure ("", some (h, s), t.start, t.stop, t2, p)
    | _ => pure ("", none, start, start, t, p)
  let tag ← match tagParts with
    | none => pure ""
    | some (h, s) =>
      match p.resolveTag h s with
      | some full => pure full
      | none => throw (problem start "found undefined tag handle" tagMark)
  if indentless && t.kind == .blockEntry then
    return ({ kind := .sequenceStart anchor tag false, start, stop := t.stop },
            { p with state := .indentlessSequenceEntry })
  match t.kind with
  | .scalar text style =>
    pure ({ kind := .scalar anchor tag text style, start, stop := t.stop }, p.pop.skip)
  | .flowSequenceStart =>
    pure ({ kind := .sequenceStart anchor tag true, start, stop := t.stop },
          { p with state := .flowSequenceFirstEntry })
  | .flowMappingStart =>
    pure ({ kind := .mappingStart anchor tag true, start, stop := t.stop },
          { p with state := .flowMappingFirstKey })
  | .blockSequenceStart =>
    if block then
      pure ({ kind := .sequenceStart anchor tag false, start, stop := t.stop },
            { p with state := .blockSequenceFirstEntry })
    else missing p start anchor tag stop t
  | .blockMappingStart =>
    if block then
      pure ({ kind := .mappingStart anchor tag false, start, stop := t.stop },
            { p with state := .blockMappingFirstKey })
    else missing p start anchor tag stop t
  | _ => missing p start anchor tag stop t
where
  missing (p : Parser) (start : Mark) (anchor tag : String) (stop : Mark) (t : Token) :
      Except Problem (Event × Parser) :=
    if !anchor.isEmpty || !tag.isEmpty then
      .ok ({ kind := .scalar anchor tag "" .plain, start, stop }, p.pop)
    else .error (problem start "did not find expected node content" t.start)

def blockSequenceEntry (p : Parser) (first : Bool) : Except Problem (Event × Parser) := do
  let p ← if first then do
      let (t, p) ← p.peek
      pure { p.skip with marks := t.start :: p.marks }
    else pure p
  let (t, p) ← p.peek
  if t.kind == .blockEntry then
    let p := p.skip
    let (t2, p) ← p.peek
    if t2.kind != .blockEntry && t2.kind != .blockEnd then
      (p.pushState .blockSequenceEntry).node true false
    else pure (emptyScalar t.stop, { p with state := .blockSequenceEntry })
  else if t.kind == .blockEnd then
    let (_, p) := p.popMark
    pure ({ kind := .sequenceEnd, start := t.start, stop := t.stop }, p.pop.skip)
  else
    let (m, _) := p.popMark
    throw (problem m "did not find expected '-' indicator" t.start)

def indentlessSequenceEntry (p : Parser) : Except Problem (Event × Parser) := do
  let (t, p) ← p.peek
  if t.kind == .blockEntry then
    let p := p.skip
    let (t2, p) ← p.peek
    if t2.kind != .blockEntry && t2.kind != .key && t2.kind != .value && t2.kind != .blockEnd then
      (p.pushState .indentlessSequenceEntry).node true false
    else pure (emptyScalar t.stop, { p with state := .indentlessSequenceEntry })
  else pure ({ kind := .sequenceEnd, start := t.start, stop := t.start }, p.pop)

def blockMappingKey (p : Parser) (first : Bool) : Except Problem (Event × Parser) := do
  let p ← if first then do
      let (t, p) ← p.peek
      pure { p.skip with marks := t.start :: p.marks }
    else pure p
  let (t, p) ← p.peek
  if t.kind == .key then
    let p := p.skip
    let (t2, p) ← p.peek
    if t2.kind != .key && t2.kind != .value && t2.kind != .blockEnd then
      (p.pushState .blockMappingValue).node true true
    else pure (emptyScalar t.stop, { p with state := .blockMappingValue })
  else if t.kind == .blockEnd then
    let (_, p) := p.popMark
    pure ({ kind := .mappingEnd, start := t.start, stop := t.stop }, p.pop.skip)
  else
    let (m, _) := p.popMark
    throw (problem m "did not find expected key" t.start)

def blockMappingValue (p : Parser) : Except Problem (Event × Parser) := do
  let (t, p) ← p.peek
  if t.kind == .value then
    let p := p.skip
    let (t2, p) ← p.peek
    if t2.kind != .key && t2.kind != .value && t2.kind != .blockEnd then
      (p.pushState .blockMappingKey).node true true
    else pure (emptyScalar t.stop, { p with state := .blockMappingKey })
  else pure (emptyScalar t.start, { p with state := .blockMappingKey })

def flowSequenceEntry (p : Parser) (first : Bool) : Except Problem (Event × Parser) := do
  let p ← if first then do
      let (t, p) ← p.peek
      pure { p.skip with marks := t.start :: p.marks }
    else pure p
  let (t, p) ← p.peek
  let (t, p) ← if t.kind != .flowSequenceEnd && !first then
      if t.kind == .flowEntry then p.skip.peek
      else
        let (m, _) := p.popMark
        throw (problem m "did not find expected ',' or ']'" t.start)
    else pure (t, p)
  if t.kind == .flowSequenceEnd then
    let (_, p) := p.popMark
    pure ({ kind := .sequenceEnd, start := t.start, stop := t.stop }, p.pop.skip)
  else if t.kind == .key then
    pure ({ kind := .mappingStart "" "" true, start := t.start, stop := t.stop },
          { p.skip with state := .flowSequenceEntryMappingKey })
  else (p.pushState .flowSequenceEntry).node false false

def flowSequenceEntryMappingKey (p : Parser) : Except Problem (Event × Parser) := do
  let (t, p) ← p.peek
  if t.kind != .value && t.kind != .flowEntry && t.kind != .flowSequenceEnd then
    (p.pushState .flowSequenceEntryMappingValue).node false false
  else pure (emptyScalar t.stop, { p.skip with state := .flowSequenceEntryMappingValue })

def flowSequenceEntryMappingValue (p : Parser) : Except Problem (Event × Parser) := do
  let (t, p) ← p.peek
  if t.kind == .value then
    let p := p.skip
    let (t2, p) ← p.peek
    if t2.kind != .flowEntry && t2.kind != .flowSequenceEnd then
      (p.pushState .flowSequenceEntryMappingEnd).node false false
    else pure (emptyScalar t2.start, { p with state := .flowSequenceEntryMappingEnd })
  else pure (emptyScalar t.start, { p with state := .flowSequenceEntryMappingEnd })

def flowSequenceEntryMappingEnd (p : Parser) : Except Problem (Event × Parser) := do
  let (t, p) ← p.peek
  pure ({ kind := .mappingEnd, start := t.start, stop := t.start },
        { p with state := .flowSequenceEntry })

def flowMappingKey (p : Parser) (first : Bool) : Except Problem (Event × Parser) := do
  let p ← if first then do
      let (t, p) ← p.peek
      pure { p.skip with marks := t.start :: p.marks }
    else pure p
  let (t, p) ← p.peek
  let (t, p) ← if t.kind != .flowMappingEnd && !first then
      if t.kind == .flowEntry then p.skip.peek
      else
        let (m, _) := p.popMark
        throw (problem m "did not find expected ',' or '\x7d'" t.start)
    else pure (t, p)
  if t.kind == .flowMappingEnd then
    let (_, p) := p.popMark
    pure ({ kind := .mappingEnd, start := t.start, stop := t.stop }, p.pop.skip)
  else if t.kind == .key then
    let p := p.skip
    let (t2, p) ← p.peek
    if t2.kind != .value && t2.kind != .flowEntry && t2.kind != .flowMappingEnd then
      (p.pushState .flowMappingValue).node false false
    else pure (emptyScalar t2.start, { p with state := .flowMappingValue })
  else (p.pushState .flowMappingEmptyValue).node false false

def flowMappingValue (p : Parser) (empty : Bool) : Except Problem (Event × Parser) := do
  let (t, p) ← p.peek
  if empty then pure (emptyScalar t.start, { p with state := .flowMappingKey })
  else if t.kind == .value then
    let p := p.skip
    let (t2, p) ← p.peek
    if t2.kind != .flowEntry && t2.kind != .flowMappingEnd then
      (p.pushState .flowMappingKey).node false false
    else pure (emptyScalar t2.start, { p with state := .flowMappingKey })
  else pure (emptyScalar t.start, { p with state := .flowMappingKey })

def next (p : Parser) : Except Problem (Event × Parser) :=
  match p.state with
  | .streamStart => do
    let (t, p) ← p.peek
    if t.kind != .streamStart then
      throw (problem {} "did not find expected <stream-start>" t.start)
    pure ({ kind := .streamStart, start := t.start, stop := t.stop },
          { p.skip with state := .implicitDocumentStart })
  | .implicitDocumentStart => p.documentStart true
  | .documentStart => p.documentStart false
  | .documentContent => do
    let (t, p) ← p.peek
    match t.kind with
    | .versionDirective .. | .tagDirective .. | .documentStart | .documentEnd | .streamEnd =>
      pure (emptyScalar t.start, p.pop)
    | _ => p.node true false
  | .documentEnd => p.documentEnd
  | .blockNode => p.node true false
  | .blockNodeOrIndentlessSequence => p.node true true
  | .flowNode => p.node false false
  | .blockSequenceFirstEntry => p.blockSequenceEntry true
  | .blockSequenceEntry => p.blockSequenceEntry false
  | .indentlessSequenceEntry => p.indentlessSequenceEntry
  | .blockMappingFirstKey => p.blockMappingKey true
  | .blockMappingKey => p.blockMappingKey false
  | .blockMappingValue => p.blockMappingValue
  | .flowSequenceFirstEntry => p.flowSequenceEntry true
  | .flowSequenceEntry => p.flowSequenceEntry false
  | .flowSequenceEntryMappingKey => p.flowSequenceEntryMappingKey
  | .flowSequenceEntryMappingValue => p.flowSequenceEntryMappingValue
  | .flowSequenceEntryMappingEnd => p.flowSequenceEntryMappingEnd
  | .flowMappingFirstKey => p.flowMappingKey true
  | .flowMappingKey => p.flowMappingKey false
  | .flowMappingValue => p.flowMappingValue false
  | .flowMappingEmptyValue => p.flowMappingValue true
  | .finished => do
    let (t, p) ← p.peek
    pure ({ kind := .streamEnd, start := t.start, stop := t.stop }, p)

end Parser

end Yaml

end SymbolSieve
