namespace SymbolSieve

namespace Signal

def count : Nat := 65

def realTimeMin : Nat := 34

def realTimeMax : Nat := 64

def classic : List (String × String × String) := [
  ("HUP", "Hangup", "hangup"),
  ("INT", "Interrupt", "interrupt"),
  ("QUIT", "Quit", "quit"),
  ("ILL", "Illegal instruction", "illegal instruction"),
  ("TRAP", "Trace/breakpoint trap", "trace/breakpoint trap"),
  ("ABRT", "Aborted", "aborted"),
  ("BUS", "Bus error", "bus error"),
  ("FPE", "Floating point exception", "floating point exception"),
  ("KILL", "Killed", "killed"),
  ("USR1", "User defined signal 1", "user defined signal 1"),
  ("SEGV", "Segmentation fault", "segmentation fault"),
  ("USR2", "User defined signal 2", "user defined signal 2"),
  ("PIPE", "Broken pipe", "broken pipe"),
  ("ALRM", "Alarm clock", "alarm clock"),
  ("TERM", "Terminated", "terminated"),
  ("STKFLT", "Stack fault", "stack fault"),
  ("CHLD", "Child exited", "child exited"),
  ("CONT", "Continued", "continued"),
  ("STOP", "Stopped (signal)", "stopped (signal)"),
  ("TSTP", "Stopped", "stopped"),
  ("TTIN", "Stopped (tty input)", "stopped (tty input)"),
  ("TTOU", "Stopped (tty output)", "stopped (tty output)"),
  ("URG", "Urgent I/O condition", "urgent I/O condition"),
  ("XCPU", "CPU time limit exceeded", "CPU time limit exceeded"),
  ("XFSZ", "File size limit exceeded", "file size limit exceeded"),
  ("VTALRM", "Virtual timer expired", "virtual timer expired"),
  ("PROF", "Profiling timer expired", "profiling timer expired"),
  ("WINCH", "Window changed", "window changed"),
  ("IO", "I/O possible", "I/O possible"),
  ("PWR", "Power failure", "power failure"),
  ("SYS", "Bad system call", "bad system call")]

def name (n : Nat) : String :=
  if n == 0 then "EXIT"
  else if n == 16 then "16"
  else if n ≤ 31 then (classic[n - 1]?.map (·.1)).getD (toString n)
  else if n == realTimeMin then "RTMIN"
  else if n == realTimeMax then "RTMAX"
  else if realTimeMin < n && n < realTimeMax then
    let half := (realTimeMax - realTimeMin - 1) / 2
    if n - realTimeMin ≤ half then "RTMIN+" ++ toString (n - realTimeMin)
    else if realTimeMax - n ≤ half then "RTMAX-" ++ toString (realTimeMax - n)
    else "RTMIN+" ++ toString (n - realTimeMin)
  else toString n

example : name 15 = "TERM" ∧ name 49 = "RTMIN+15" ∧ name 50 = "RTMAX-14" ∧ name 33 = "33" := by decide

def description (n : Nat) : String :=
  if 1 ≤ n && n ≤ 31 then (classic[n - 1]?.map (·.2.1)).getD ""
  else if realTimeMin ≤ n && n ≤ realTimeMax then "Real-time signal " ++ toString (n - realTimeMin)
  else "Unknown signal " ++ toString n

def supervisorText (n : Nat) : String :=
  if 1 ≤ n && n ≤ 31 then (classic[n - 1]?.map (·.2.2)).getD "" else "signal " ++ toString n

inductive Action where
  | terminate
  | ignore
  | stop
deriving DecidableEq, Repr

def action (n : Nat) : Action :=
  if n == 17 || n == 18 || n == 23 || n == 28 then .ignore
  else if 19 ≤ n && n ≤ 22 then .stop
  else .terminate

def ofName? (s : String) (least : Nat) : Option Nat :=
  if !s.isEmpty && s.all Char.isDigit then
    let n := s.toNat!
    if n < count then some n else none
  else
    ((List.range count).drop least).find? fun n => (name n).toUpper == s.toUpper

end Signal

end SymbolSieve
