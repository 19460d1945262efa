import SymbolSieve.Text.Utf8

namespace SymbolSieve

namespace Shell

inductive ParamOp where
  | plain
  | orElse
  | ifSet
  | orFail
  | orAssign
  | cutSuffix
  | cutLongSuffix
  | cutPrefix
  | cutLongPrefix
  | length
  | bad
deriving DecidableEq, Repr

def ParamOp.ofKind (k : Nat) : ParamOp :=
  match k with
  | 1 => .plain | 2 => .orElse | 3 => .ifSet | 4 => .orFail | 5 => .orAssign
  | 6 => .cutSuffix | 7 => .cutLongSuffix | 8 => .cutPrefix | 9 => .cutLongPrefix
  | 10 => .length | _ => .bad

inductive FileOp where
  | input
  | output
  | clobber
  | append
  | both
deriving DecidableEq, Repr

mutual

inductive Sym where
  | char (c : UInt8)
  | esc (c : UInt8)
  | mark
  | param (name : Bytes) (op : ParamOp) (colon : Bool) (word : List Sym)
  | subst (body : Option Node)
  | arith (expr : List Sym)

inductive Node where
  | simple (line : Nat) (assigns : List (List Sym)) (args : List (List Sym)) (redirs : List Redir)
  | pipeline (background : Bool) (stages : List Node)
  | redirected (line : Nat) (body : Node) (redirs : List Redir)
  | background (line : Nat) (body : Node) (redirs : List Redir)
  | subshell (line : Nat) (body : Node) (redirs : List Redir)
  | and (first second : Node)
  | or (first second : Node)
  | seq (first second : Node)
  | cond (test yes : Node) (no : Option Node)
  | whileLoop (test body : Node)
  | untilLoop (test body : Node)
  | forLoop (line : Nat) (name : Bytes) (words : List (List Sym)) (body : Node)
  | caseOf (line : Nat) (subject : List Sym) (arms : List (List (List Sym) × Option Node))
  | function (line : Nat) (name : Bytes) (body : Node)
  | negate (body : Node)

inductive Redir where
  | file (op : FileOp) (fd : Nat) (target : List Sym)
  | dup (output : Bool) (fd : Nat) (target : Sum (Option Nat) (List Sym))
  | here (fd : Nat) (doc : Nat) (expand : Bool)

end

def allParams : List Sym := [.mark, .param [0x40] .plain false [], .mark]

def builtinTable : List (String × Bool) :=
  [(".", true), (":", true), ("[", false), ("alias", false), ("bg", false), ("break", true),
   ("cd", false), ("chdir", false), ("command", false), ("continue", true), ("echo", false),
   ("eval", true), ("exec", true), ("exit", true), ("export", true), ("false", false),
   ("fg", false), ("getopts", false), ("hash", false), ("jobs", false), ("kill", false),
   ("local", true), ("printf", false), ("pwd", false), ("read", false), ("readonly", true),
   ("return", true), ("set", true), ("shift", true), ("test", false), ("times", true),
   ("trap", true), ("true", false), ("type", false), ("ulimit", false), ("umask", false),
   ("unalias", false), ("unset", true), ("wait", false)]

def specialBuiltins : List String := builtinTable.filterMap fun (n, sp) => if sp then some n else none

def isNameStart (c : UInt8) : Bool :=
  (0x41 ≤ c && c ≤ 0x5A) || (0x61 ≤ c && c ≤ 0x7A) || c == 0x5F

def isDigit (c : UInt8) : Bool := 0x30 ≤ c && c ≤ 0x39

def isControlByte (c : UInt8) : Bool := 0x81 ≤ c && c ≤ 0x88

def isNameChar (c : UInt8) : Bool := isNameStart c || isDigit c

def isName (s : Bytes) : Bool :=
  match s with
  | [] => true
  | c :: rest => isNameStart c && rest.all isNameChar

def nameLength (s : Bytes) : Nat :=
  match s with
  | c :: rest => if isNameStart c then 1 + (rest.takeWhile isNameChar).length else 0
  | [] => 0

example : isName (Bytes.ofString "a_1") ∧ !isName (Bytes.ofString "1a") ∧
    nameLength (Bytes.ofString "ab=c") = 2 := by decide +kernel

end Shell

end SymbolSieve
