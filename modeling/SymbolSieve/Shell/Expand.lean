import SymbolSieve.Shell.Arith
import SymbolSieve.Shell.Pattern

namespace SymbolSieve

namespace Shell

inductive XChar where
  | lit (c : UInt8)
  | esc (c : UInt8)
  | mark
deriving DecidableEq, Repr

def XChar.byte : XChar → UInt8
  | .lit c => c
  | .esc c => c
  | .mark => 0x88

def XChar.byte? : XChar → Option UInt8
  | .lit c => some c
  | .esc c => some c
  | .mark => none

structure Region where
  start : Nat
  stop : Nat
  nulOnly : Bool
deriving DecidableEq, Repr

structure Dest where
  chars : Array XChar := #[]
  regions : Array Region := #[]

structure Flags where
  full : Bool := false
  tilde : Bool := false
  varTilde : Bool := false
  varTilde2 : Bool := false
  casePat : Bool := false
  word : Bool := false
  quoted : Bool := false
  keepNul : Bool := false
  discard : Bool := false

def Flags.quotesEsc (f : Flags) : Bool := f.full || f.casePat

abbrev XM := StateT Dest M

abbrev Substituter := Option Node → M Bytes

def emit (x : XChar) : XM Unit := modify fun d => { d with chars := d.chars.push x }

def here : XM Nat := return (← get).chars.size

def recordRegion (start stop : Nat) (nulOnly : Bool) : XM Unit :=
  modify fun d => { d with regions := d.regions.push ⟨start, stop, nulOnly⟩ }

def cutTo (n : Nat) : XM Unit := modify fun d => { d with chars := d.chars.extract 0 n }

def quotedSpecials : Bytes := Bytes.ofString "!*?[]=~:/-"

def needsQuote (f : Flags) (c : UInt8) : Bool :=
  f.quotesEsc && (isControlByte c || (f.quoted && quotedSpecials.contains c) ||
    ((f.full || f.quoted) && c == 0x5C))

def putBytes (bs : Bytes) (f : Flags) : XM Nat := do
  let mut n := 0
  for c in bs do
    if c == 0 && !f.keepNul then continue
    emit (if needsQuote f c then .esc c else .lit c)
    n := n + 1
  return n

def userHomes : List (String × String) :=
  [("root", "/root"), ("daemon", "/usr/sbin"), ("bin", "/bin"), ("sys", "/dev"), ("sync", "/bin"),
   ("games", "/usr/games"), ("man", "/var/cache/man"), ("lp", "/var/spool/lpd"),
   ("mail", "/var/mail"), ("news", "/var/spool/news"), ("uucp", "/var/spool/uucp"),
   ("proxy", "/bin"), ("www-data", "/var/www"), ("backup", "/var/backups"),
   ("list", "/var/list"), ("irc", "/run/ircd"), ("_apt", "/nonexistent"),
   ("nobody", "/nonexistent")]

def userHome (name : Bytes) : Option Bytes :=
  (userHomes.find? fun (n, _) => Bytes.ofString n == name).map fun (_, h) => Bytes.ofString h

def expandTilde (syms : List Sym) (f : Flags) : XM (List Sym) := do
  match syms with
  | .char 0x7E :: rest =>
    let ends (s : Sym) : Bool :=
      match s with
      | .char 0x2F => true
      | .char 0x3A => f.varTilde
      | _ => false
    let name := rest.takeWhile fun s => !ends s
    let after := rest.drop name.length
    match name.mapM (fun s => match s with | .char c => some c | _ => none) with
    | none => return syms
    | some nm =>
      let home ← if nm.isEmpty then (lookupVar (Bytes.ofString "HOME") : M (Option Bytes))
        else pure (userHome nm)
      match home with
      | none => return syms
      | some h =>
        if !f.discard then
          let _ ← putBytes h { f with quoted := true }
        return after
  | _ => return syms

def isPositional (name : Bytes) : Bool := !name.isEmpty && name.all isDigit

def paramValue (name : Bytes) (op : ParamOp) (f : Flags) : XM Int := do
  let discard := op == .ifSet || op == .length || f.discard
  if op == .bad then
    if discard then return -1
    (shError (Bytes.ofString "Bad substitution") : M Unit)
  let f : Flags := { f with keepNul := true, full := f.full && !discard,
                            casePat := f.casePat && !discard }
  let start ← here
  let sh ← (get : M Sh)
  let put (v : Bytes) : XM Int := do return ((← putBytes v f : Nat) : Int)
  let len : Int ← match name with
    | [0x24] => put (decimal sh.rootPid)
    | [0x3F] => put (decimal sh.status)
    | [0x23] => put (decimal sh.params.length)
    | [0x21] =>
      match sh.lastBg with
      | some pid => put (decimal pid)
      | none => pure (-1)
    | [0x2D] =>
      let letters := optionLetters sh
      for c in letters do emit (.lit c)
      pure (letters.length : Int)
    | [0x40] | [0x2A] =>
      let split := !f.quoted && f.full
      let sep : Option UInt8 :=
        if name == [0x40] && f.quoted && f.full then some 0
        else if split then (if sh.ifsSet then some 0 else some 0x20)
        else if sh.ifsSet then
          match sh.ifs with
          | c :: _ => if c == 0 then none else some c
          | [] => none
        else some 0x20
      let mut n : Int := 0
      let mut first := true
      for p in sh.params do
        if !first then
          match sep with
          | some c => let _ ← putBytes [c] f; n := n + 1
          | none => pure ()
        first := false
        n := n + ((← putBytes p f : Nat) : Int)
      pure n
    | _ =>
      if isPositional name then
        let num := name.foldl (fun n c => n * 10 + (c - 0x30).toNat) 0
        if num > sh.params.length then pure (-1)
        else put (if num == 0 then sh.arg0 else sh.params.getD (num - 1) [])
      else
        match sh.value? name with
        | some v => put v
        | none => pure (-1)
  if discard then cutTo start
  return len

def toPattern (xs : List XChar) : Bytes :=
  let step := fun (acc : Bytes × Bool) (x : XChar) =>
    let (out, open_) := acc
    match x with
    | .mark => (out, true)
    | .lit 0x5C => (0x5C :: out, false)
    | .esc c => ((if open_ then [c, 0x5C] else [c]) ++ out, true)
    | .lit c => (c :: out, true)
  (xs.foldl step ([], true)).1.reverse

def unquote (xs : List XChar) : Bytes := xs.filterMap XChar.byte?

def trimValue (op : ParamOp) (value : List XChar) (pat : Bytes) : List XChar :=
  let plain := value.map XChar.byte
  let cuts := List.range (plain.length + 1)
  let prefixAt (i : Nat) := patternMatches pat (plain.take i)
  let suffixAt (i : Nat) := patternMatches pat (plain.drop i)
  match op with
  | .cutPrefix => match cuts.find? prefixAt with | some i => value.drop i | none => value
  | .cutLongPrefix => match cuts.reverse.find? prefixAt with | some i => value.drop i | none => value
  | .cutSuffix => match cuts.reverse.find? suffixAt with | some i => value.take i | none => value
  | .cutLongSuffix => match cuts.find? suffixAt with | some i => value.take i | none => value
  | _ => value

def dropRegionsFrom (rs : Array Region) (at_ : Nat) : Array Region :=
  (rs.filter fun r => r.start < at_).map fun r => { r with stop := min r.stop at_ }

def substitute (sub : Substituter) (body : Option Node) (f : Flags) : XM Unit := do
  if f.discard then return
  let start ← here
  let out ← (sub body : M Bytes)
  let _ ← putBytes out { f with keepNul := false }
  let d ← get
  let kept := (d.chars.toList.drop start).reverse.dropWhile (· == .lit 0x0A) |>.reverse
  set { d with chars := d.chars.extract 0 start ++ kept.toArray }
  if !f.quoted then recordRegion start (← here) false

def Sym.weight : Sym → Nat
  | .param _ _ _ w => wordWeight w + 1
  | .arith w => wordWeight w + 1
  | _ => 1
where
  wordWeight : List Sym → Nat
    | [] => 1
    | s :: rest => Sym.weight s + wordWeight rest

def wordFuel (w : List Sym) : Nat := 4 * Sym.weight.wordWeight w + 8

def unsetError {α : Type} (name : Bytes) (msg : Bytes) : M α :=
  shError (name ++ Bytes.ofString ": " ++ msg)

mutual

def argstr (sub : Substituter) : Nat → List Sym → Flags → XM Unit
  | 0, _, _ => pure ()
  | n + 1, syms, f => do
    let f' := { f with tilde := false }
    let syms ← if f.tilde && !f.discard then expandTilde syms f' else pure syms
    argLoop sub n syms f' false (← here)

def argLoop (sub : Substituter) : Nat → List Sym → Flags → Bool → Nat → XM Unit
  | 0, _, _, _, _ => pure ()
  | n + 1, syms, f, inq, start => do
    let splits := f.word && !f.quoted && !inq && !f.discard
    let close : XM Unit := do
      let stop ← here
      if splits && stop > start then recordRegion start stop false
    let inner : Flags := { f with quoted := f.quoted || inq }
    match syms with
    | [] => close
    | .char c :: rest =>
      if !f.discard then emit (.lit c)
      let special := (c == 0x3D && f.varTilde && !f.varTilde2) || (c == 0x3A && f.varTilde)
      if !special then argLoop sub n rest f inq start
      else
        close
        let f := if c == 0x3D then { f with varTilde2 := true } else f
        let rest ← if f.discard then pure rest else expandTilde rest f
        argLoop sub n rest f inq (← here)
    | .esc c :: rest =>
      close
      if !f.discard then emit (if f.quotesEsc then .esc c else .lit c)
      argLoop sub n rest f inq (← here)
    | .mark :: rest =>
      close
      match inq, rest with
      | false, .param [0x40] .plain false [] :: .mark :: after =>
        paramExpand sub n [0x40] .plain false [] { f with quoted := true }
        argLoop sub n after f inq (← here)
      | _, _ =>
        if f.quotesEsc && !f.discard then emit .mark
        argLoop sub n rest f (!inq) (← here)
    | .param name op colon word :: rest =>
      close
      paramExpand sub n name op colon word inner
      argLoop sub n rest f inq (← here)
    | .subst body :: rest =>
      close
      substitute sub body inner
      argLoop sub n rest f inq (← here)
    | .arith expr :: rest =>
      close
      arithExpand sub n expr inner
      argLoop sub n rest f inq (← here)

def paramExpand (sub : Substituter) : Nat → Bytes → ParamOp → Bool → List Sym → Flags → XM Unit
  | 0, _, _, _, _, _ => pure ()
  | n + 1, name, op, colon, word, f => do
    let start ← here
    let len ← paramValue name op f
    let len := if colon then len - 1 else len
    let unset := len < 0
    let sh ← (get : M Sh)
    let record : XM Unit := do
      let stop ← here
      if f.quoted then
        if name == [0x40] && !sh.params.isEmpty then recordRegion start stop true
      else recordRegion start stop false
    let checkSet : XM Unit := do
      if unset && !f.discard && sh.opt optNounset then
        (unsetError name (Bytes.ofString "parameter not set") : M Unit)
    match op with
    | .plain =>
      checkSet
      if !(f.discard || unset) then record
    | .orElse | .ifSet | .bad =>
      let useValue := if op == .ifSet then unset else !unset
      argstr sub n word { f with tilde := true, word := true, discard := f.discard || useValue }
      if !(f.discard || !useValue) then record
    | .orAssign | .orFail =>
      let skipWord := f.discard || !unset
      let d ← get
      set ({} : Dest)
      argstr sub n word { tilde := true, discard := skipWord }
      let text := unquote (← get).chars.toList
      set d
      if !skipWord then
        if op == .orAssign then (setVar name (some text) : M Unit)
        else if word.isEmpty then
          (unsetError name (Bytes.ofString (if colon then "parameter not set or null"
            else "parameter not set")) : M Unit)
        else (unsetError name text : M Unit)
      if skipWord then
        if !(f.discard || unset) then record
      else paramExpand sub n name .plain false [] f
    | .length =>
      checkSet
      if !f.discard then
        let _ ← putBytes (decimal (max len 0)) f
        record
    | _ =>
      checkSet
      let skip := f.discard || unset
      let d ← get
      set ({} : Dest)
      argstr sub n word { tilde := true, casePat := true, discard := skip }
      let pat := toPattern (← get).chars.toList
      set d
      if !skip then
        let d ← get
        let value := d.chars.toList.drop start
        let kept := trimValue op value pat
        set { d with chars := d.chars.extract 0 start ++ kept.toArray }
        record

def arithExpand (sub : Substituter) : Nat → List Sym → Flags → XM Unit
  | 0, _, _ => pure ()
  | n + 1, expr, f => do
    if f.discard then
      argstr sub n expr { discard := true }
      return
    let begin_ ← here
    argstr sub n expr {}
    let d ← get
    let text := unquote (d.chars.toList.drop begin_)
    set { d with chars := d.chars.extract 0 begin_, regions := dropRegionsFrom d.regions begin_ }
    let v ← (arith text : M Int)
    let len ← putBytes (decimal v) f
    if !f.quoted then recordRegion begin_ (begin_ + len) false

end

def isSeparator (ifs : Bytes) (c : UInt8) : Bool := c == 0 || ifs.contains c

def isBlankSeparator (c : UInt8) : Bool := c == 0 || c == 0x20 || c == 0x09 || c == 0x0A

structure Split where
  fields : Array (Nat × Nat) := #[]
  start : Nat := 0

def skipSeparators (chars : Array XChar) (ifs : Bytes) (stop : Nat) :
    Nat → Nat → Bool → Nat × Bool
  | 0, p, blank => (p, blank)
  | k + 1, p, blank =>
    if p ≥ stop then (p, blank)
    else
      let c := (chars[p]?.getD .mark).byte
      if !isSeparator ifs c then (p, blank)
      else if !isBlankSeparator c then
        if blank then skipSeparators chars ifs stop k (p + 1) false else (p, blank)
      else skipSeparators chars ifs stop k (p + 1) blank

def splitRegion (chars : Array XChar) (ifs : Bytes) (nulOnly : Bool) (stop : Nat) :
    Nat → Nat → Bool → Split → Split
  | 0, _, _, st => st
  | k + 1, p, blank, st =>
    if p ≥ stop then st
    else
      let c := (chars[p]?.getD .mark).byte
      let seps := if nulOnly then [] else ifs
      if isSeparator seps c then
        let blank := if nulOnly then blank else isBlankSeparator c
        if p == st.start && blank then splitRegion chars ifs nulOnly stop k (p + 1) blank { st with start := p + 1 }
        else
          let st := { st with fields := st.fields.push (st.start, p) }
          let (p, blank) := if nulOnly then (p + 1, blank)
            else skipSeparators chars ifs stop (stop + 1) (p + 1) blank
          splitRegion chars ifs nulOnly stop k p blank { st with start := p }
      else splitRegion chars ifs nulOnly stop k (p + 1) blank st

def splitFields (chars : Array XChar) (regions : List Region) (ifs : Bytes) : List (List XChar) :=
  let size := chars.size
  let st := regions.foldl (fun st r =>
    let stop := min r.stop size
    splitRegion chars ifs r.nulOnly stop (stop + 1) r.start false st) ({} : Split)
  let lastNul := match regions.getLast? with
    | some r => r.nulOnly
    | none => false
  let fields := if lastNul || st.start < size then st.fields.push (st.start, size) else st.fields
  fields.toList.map fun (a, b) => (chars.extract a b).toList

def hasGlobBytes (xs : List XChar) : Bool :=
  xs.any fun x => match x.byte? with
    | some c => c == 0x2A || c == 0x3F || c == 0x5B
    | none => false

def findGlobComponent (name : Array UInt8) : Nat → Nat → Bool → Nat → Bool × Nat × Nat × Nat
  | 0, p, found, start => (found, start, p, 0)
  | k + 1, p, found, start =>
    if h : p < name.size then
      let c := name[p]
      let at_ (i : Nat) : UInt8 := name[i]?.getD 0
      if c == 0x2A || c == 0x3F then findGlobComponent name k (p + 1) true start
      else if c == 0x5B then
        let q0 := if at_ (p + 1) == 0x21 then p + 2 else p + 1
        let rec closes : Nat → Nat → Bool
          | 0, _ => false
          | j + 1, q =>
            let q := if at_ q == 0x5C then q + 1 else q
            if at_ q == 0x2F || q ≥ name.size then false
            else if at_ (q + 1) == 0x5D then true
            else closes j (q + 1)
        findGlobComponent name k (p + 1) (found || closes (name.size + 1) q0) start
      else
        let esc := if c == 0x5C && p + 1 < name.size then 1 else 0
        if at_ (p + esc) == 0x2F then
          if found then (found, start, p, esc)
          else findGlobComponent name k (p + esc + 1) found (p + esc + 1)
        else findGlobComponent name k (p + esc + 1) found start
    else (found, start, p, 0)

def unescapeGlob : Bytes → Bytes
  | 0x5C :: c :: rest => c :: unescapeGlob rest
  | c :: rest => c :: unescapeGlob rest
  | [] => []

def listDirectory (fs : Files) (path : Bytes) : Option (List Bytes) :=
  match fs.lookup path with
  | .ok (loc, .directory) => some ([Bytes.ofString ".", Bytes.ofString ".."] ++ fs.children loc)
  | _ => none

def globPaths (fs : Files) : Nat → Bytes → Bytes → List Bytes
  | 0, _, _ => []
  | k + 1, name, dir =>
    let arr := name.toArray
    let (found, start, stop, esc) := findGlobComponent arr (arr.size + 1) 0 false 0
    if !found then
      if dir.isEmpty then []
      else
        let path := dir ++ unescapeGlob name
        match fs.lookup path with
        | .ok _ => [path]
        | .error _ => []
    else
      let dir := dir ++ unescapeGlob (name.take start)
      let comp := (name.take stop).drop start
      let atEnd := stop ≥ name.length
      let rest := name.drop (stop + esc + 1)
      let matchDot := (match comp with | 0x5C :: r => r | r => r).head? == some (0x2E : UInt8)
      match listDirectory fs (if dir.isEmpty then [0x2E] else dir) with
      | none => []
      | some entries =>
        entries.flatMap fun e =>
          if e.head? == some 0x2E && !matchDot then []
          else if !patternMatches comp e then []
          else if atEnd then [dir ++ e]
          else globPaths fs k rest (dir ++ e ++ [0x2F])

def bytesLe : Bytes → Bytes → Bool
  | [], _ => true
  | _ :: _, [] => false
  | a :: as, b :: bs => a < b || (a == b && bytesLe as bs)

def globField (xs : List XChar) : M (List Bytes) := do
  let sh ← get
  if sh.opt optNoglob || !hasGlobBytes xs then return [unquote xs]
  let pat := toPattern xs
  match globPaths sh.files (pat.length + 2) pat [] with
  | [] => return [unquote xs]
  | found => return found.mergeSort bytesLe

def expandRow (sub : Substituter) (word : List Sym) (f : Flags) : M Dest := do
  let (_, d) ← (argstr sub (wordFuel word) word f).run {}
  return d

def expandFields (sub : Substituter) (word : List Sym) : M (List Bytes) := do
  let d ← expandRow sub word { full := true, tilde := true }
  let sh ← get
  let fields := splitFields d.chars d.regions.toList sh.ifs
  let mut out := []
  for fld in fields do
    out := out ++ (← globField fld)
  return out

def expandArgs (sub : Substituter) (words : List (List Sym)) : M (List Bytes) := do
  let mut out := []
  for w in words do
    out := out ++ (← expandFields sub w)
  return out

def expandText (sub : Substituter) (word : List Sym) (f : Flags) : M Bytes := do
  return unquote (← expandRow sub word f).chars.toList

def expandAssignment (sub : Substituter) (word : List Sym) : M Bytes :=
  expandText sub word { varTilde := true }

def expandName (sub : Substituter) (word : List Sym) : M Bytes :=
  expandText sub word { tilde := true }

def expandDocument (sub : Substituter) (word : List Sym) : M Bytes :=
  expandText sub word { quoted := true }

def caseMatches (sub : Substituter) (pattern : List Sym) (text : Bytes) : M Bool := do
  let d ← expandRow sub pattern { tilde := true, casePat := true }
  return patternMatches (toPattern d.chars.toList) text

def isAssignmentWord (w : List Sym) : Bool :=
  let name := w.takeWhile fun s => match s with | .char c => isNameChar c | _ => false
  match name, w.drop name.length with
  | .char c :: _, .char 0x3D :: _ => isNameStart c
  | _, _ => false

def Sym.plainWord? (w : List Sym) : Option Bytes :=
  w.mapM fun s => match s with | .char c => some c | _ => none

def declarationCommands : List String := ["export", "readonly", "local", "alias"]

def expandCommandArgs (sub : Substituter) (words : List (List Sym)) : M (List Bytes) := do
  let declares := match words.head? >>= Sym.plainWord? with
    | some w => declarationCommands.any (Bytes.ofString · == w)
    | none => false
  let mut out := []
  for w in words do
    if declares && isAssignmentWord w then
      out := out ++ [← expandText sub w { varTilde := true }]
    else out := out ++ (← expandFields sub w)
  return out

end Shell

end SymbolSieve
