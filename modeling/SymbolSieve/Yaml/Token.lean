namespace SymbolSieve

namespace Yaml

structure Mark where
  index : Nat := 0
  line : Nat := 0
  column : Nat := 0
deriving DecidableEq, Repr, Inhabited

inductive ScalarStyle where
  | plain
  | singleQuoted
  | doubleQuoted
  | literal
  | folded
deriving DecidableEq, Repr, Inhabited

inductive TokenKind where
  | streamStart
  | streamEnd
  | versionDirective (major minor : Nat)
  | tagDirective (handle pre : String)
  | documentStart
  | documentEnd
  | blockSequenceStart
  | blockMappingStart
  | blockEnd
  | flowSequenceStart
  | flowSequenceEnd
  | flowMappingStart
  | flowMappingEnd
  | blockEntry
  | flowEntry
  | key
  | value
  | alias (name : String)
  | anchor (name : String)
  | tag (handle suffix : String)
  | scalar (text : String) (style : ScalarStyle)
deriving DecidableEq, Repr, Inhabited

structure Token where
  kind : TokenKind
  start : Mark
  stop : Mark
deriving DecidableEq, Repr, Inhabited

inductive Stage where
  | lexical
  | structural
deriving DecidableEq, Repr

structure Problem where
  stage : Stage
  context : Mark
  problem : String
  found : Mark
deriving Repr

def Problem.line (p : Problem) : Nat :=
  let bump := if p.stage = .lexical then 1 else 0
  if p.context.line ≠ 0 then p.context.line + bump
  else if p.found.line ≠ 0 then p.found.line + bump
  else 0

def Problem.message (p : Problem) : String :=
  let line := p.line
  "yaml: " ++ (if line = 0 then "" else "line " ++ toString line ++ ": ") ++ p.problem

inductive Failure where
  | text (p : Problem)
  | other (message : String)
deriving Repr

def Failure.message : Failure → String
  | .text p => p.message
  | .other m => "yaml: " ++ m

end Yaml

end SymbolSieve
