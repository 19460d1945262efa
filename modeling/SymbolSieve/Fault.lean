import SymbolSieve.Text.Quoted
import SymbolSieve.Host.Signal

namespace SymbolSieve

inductive Kind where
  | unknown
  | notFound
  | toolMissing
  | decodeFailure
deriving DecidableEq, Repr

namespace Kind

def ofCode (code : Int) : Kind :=
  if code = 1 then .notFound
  else if code = 2 then .toolMissing
  else if code = 3 then .decodeFailure
  else .unknown

def code : Kind → Int
  | .unknown => 0
  | .notFound => 1
  | .toolMissing => 2
  | .decodeFailure => 3

def name : Kind → String
  | .unknown => "Unknown"
  | .notFound => "NotFound"
  | .toolMissing => "ToolMissing"
  | .decodeFailure => "DecodeFailure"

theorem ofCode_code (k : Kind) : ofCode k.code = k := by
  cases k <;> decide

end Kind

inductive Sentinel where
  | notFound
  | toolMissing
  | decodeFailure
  | isDir
  | canceled
  | notExist
deriving DecidableEq, Repr

namespace Sentinel

def text : Sentinel → String
  | .notFound => "filter: input not found"
  | .toolMissing => "filter: decode tool missing"
  | .decodeFailure => "filter: decode failed"
  | .isDir => "filter: input is a directory"
  | .canceled => "context canceled"
  | .notExist => "file does not exist"

def ofKind? : Kind → Option Sentinel
  | .unknown => none
  | .notFound => some .notFound
  | .toolMissing => some .toolMissing
  | .decodeFailure => some .decodeFailure

end Sentinel

inductive Errno where
  | noEntry
  | accessDenied
  | execFormat
  | isDirectory
  | notDirectory
  | noSpace
  | exists
  | textBusy
  | badDescriptor
  | noProcess
  | invalid
  | outOfRange
  | tooManyLinks
  | nameTooLong
deriving DecidableEq, Repr

def Errno.text : Errno → String
  | .noEntry => "no such file or directory"
  | .accessDenied => "permission denied"
  | .execFormat => "exec format error"
  | .isDirectory => "is a directory"
  | .notDirectory => "not a directory"
  | .noSpace => "no space left on device"
  | .exists => "file exists"
  | .textBusy => "text file busy"
  | .badDescriptor => "bad file descriptor"
  | .noProcess => "no such process"
  | .invalid => "invalid argument"
  | .outOfRange => "numerical result out of range"
  | .tooManyLinks => "too many levels of symbolic links"
  | .nameTooLong => "file name too long"

def Errno.describe : Errno → String
  | .noEntry => "No such file or directory"
  | .accessDenied => "Permission denied"
  | .execFormat => "Exec format error"
  | .isDirectory => "Is a directory"
  | .notDirectory => "Not a directory"
  | .noSpace => "No space left on device"
  | .exists => "File exists"
  | .textBusy => "Text file busy"
  | .badDescriptor => "Bad file descriptor"
  | .noProcess => "No such process"
  | .invalid => "Invalid argument"
  | .outOfRange => "Numerical result out of range"
  | .tooManyLinks => "Too many levels of symbolic links"
  | .nameTooLong => "File name too long"

inductive Termination where
  | exited (status : Nat)
  | signaled (signal : Nat)
deriving DecidableEq, Repr

def Termination.text : Termination → String
  | .exited n => "exit status " ++ toString n
  | .signaled n => "signal: " ++ Signal.supervisorText n

inductive Fault where
  | sentinel (s : Sentinel)
  | plain (text : Bytes)
  | decode (code : Int) (tool symbol stderr : Bytes) (cause : Option Fault)
  | op (name : String) (code : Int) (path : Bytes) (cause : Option Fault)
  | wrapped (lead : Bytes) (inner : Fault)
  | joined (text : Bytes) (causes : List Fault)
  | system (operation : String) (path : Bytes) (errno : Errno)
  | refused (errno : Errno)
  | launch (name : Bytes) (cause : Fault)
  | notOnPath
  | ended (how : Termination)
deriving Repr

namespace Fault

def message : Fault → Bytes
  | .sentinel s => Bytes.ofString s.text
  | .plain t => t
  | .decode code tool symbol stderr cause =>
    Bytes.ofString "filter: " ++ tool ++ Bytes.ofString ": " ++ Bytes.ofString (Kind.ofCode code).name ++
      (if symbol = [] then [] else Bytes.ofString " for " ++ Text.quote symbol) ++
      (if stderr = [] then [] else Bytes.ofString ": " ++ stderr) ++
      (match cause with
       | some f => Bytes.ofString ": " ++ f.message
       | none => [])
  | .op name _ path cause =>
    Bytes.ofString ("filter: " ++ name ++ " ") ++ path ++ Bytes.ofString ": " ++
      (match cause with
       | some f => f.message
       | none => Bytes.ofString "<nil>")
  | .wrapped lead inner => lead ++ inner.message
  | .joined text _ => text
  | .system operation path errno =>
    Bytes.ofString (operation ++ " ") ++ path ++ Bytes.ofString (": " ++ errno.text)
  | .refused errno => Bytes.ofString errno.text
  | .launch name cause => Bytes.ofString "exec: " ++ Text.quote name ++ Bytes.ofString ": " ++ cause.message
  | .notOnPath => Bytes.ofString "executable file not found in $PATH"
  | .ended how => Bytes.ofString how.text

def matchesHere (target : Sentinel) : Fault → Bool
  | .sentinel s => s == target
  | .decode code _ _ _ _ => Sentinel.ofKind? (Kind.ofCode code) == some target
  | .op _ code _ _ => Sentinel.ofKind? (Kind.ofCode code) == some target
  | .system _ _ errno => errno == .noEntry && target == .notExist
  | .refused errno => errno == .noEntry && target == .notExist
  | _ => false

mutual

def is (target : Sentinel) : Fault → Bool
  | .decode code tool symbol stderr cause =>
    matchesHere target (.decode code tool symbol stderr cause) ||
      (match cause with
       | some f => f.is target
       | none => false)
  | .op name code path cause =>
    matchesHere target (.op name code path cause) ||
      (match cause with
       | some f => f.is target
       | none => false)
  | .wrapped _ inner => inner.is target
  | .joined _ causes => anyIs target causes
  | .launch _ cause => cause.is target
  | f => matchesHere target f

def anyIs (target : Sentinel) : List Fault → Bool
  | [] => false
  | f :: fs => f.is target || anyIs target fs

end

def hasCause : Fault → Bool
  | .decode _ _ _ _ cause => cause.isSome
  | .op _ _ _ cause => cause.isSome
  | .wrapped _ _ => true
  | .system _ _ _ => true
  | .launch _ _ => true
  | _ => false

def kind (f : Fault) : Kind :=
  if f.is .notFound then .notFound
  else if f.is .toolMissing then .toolMissing
  else if f.is .decodeFailure then .decodeFailure
  else .unknown

def kindOf : Option Fault → Kind
  | some f => f.kind
  | none => .unknown

end Fault

end SymbolSieve
