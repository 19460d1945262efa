namespace SymbolSieve

namespace Yaml

namespace Timestamp

def number (cs : List Char) : Option (Nat × List Char) :=
  match cs with
  | a :: b :: rest =>
    if !a.isDigit then none
    else if b.isDigit then some ((a.toNat - 48) * 10 + (b.toNat - 48), rest)
    else some (a.toNat - 48, b :: rest)
  | [a] => if a.isDigit then some (a.toNat - 48, []) else none
  | [] => none

def twoDigits (cs : List Char) : Option (Nat × List Char) :=
  match cs with
  | a :: b :: rest => if a.isDigit && b.isDigit then some ((a.toNat - 48) * 10 + (b.toNat - 48), rest) else none
  | _ => none

def literal (c : Char) (cs : List Char) : Option (List Char) :=
  match cs with
  | d :: rest => if c == d then some rest else none
  | [] => none

def isLeap (year : Nat) : Bool := year % 4 == 0 && (year % 100 != 0 || year % 400 == 0)

def daysIn (month year : Nat) : Nat :=
  match month with
  | 2 => if isLeap year then 29 else 28
  | 4 | 6 | 9 | 11 => 30
  | _ => 31

def fourDigits (cs : List Char) : Option (Nat × List Char) :=
  let ds := cs.take 4
  if ds.length == 4 && ds.all Char.isDigit then
    some (ds.foldl (fun acc c => acc * 10 + (c.toNat - 48)) 0, cs.drop 4)
  else none

def date (cs : List Char) : Option (List Char) := do
  let (year, rest) ← fourDigits cs
  let rest ← literal '-' rest
  let (month, rest) ← number rest
  let rest ← literal '-' rest
  let (day, rest) ← number rest
  if month < 1 || 12 < month then none
  if day < 1 || daysIn month year < day then none
  pure rest

def clock (cs : List Char) : Option (List Char) := do
  let (hour, rest) ← number cs
  if 24 ≤ hour then none
  let rest ← literal ':' rest
  let (minute, rest) ← number rest
  if 60 ≤ minute then none
  let rest ← literal ':' rest
  let (second, rest) ← number rest
  if 60 ≤ second then none
  match rest with
  | p :: d :: more =>
    if (p == '.' || p == ',') && d.isDigit then pure (more.dropWhile Char.isDigit) else pure rest
  | _ => pure rest

def zone (cs : List Char) : Option (List Char) :=
  match cs with
  | 'Z' :: rest => some rest
  | s :: rest => do
    if rest.length < 5 then none
    let (h, rest) ← twoDigits rest
    let rest ← literal ':' rest
    let (m, rest) ← twoDigits rest
    if s != '+' && s != '-' then none
    if 24 < h || 60 < m then none
    pure rest
  | [] => none

def spaces (cs : List Char) : Option (List Char) :=
  match cs with
  | ' ' :: rest => some (rest.dropWhile (· == ' '))
  | _ => none

def isTimestamp (cs : List Char) : Bool :=
  let lead := cs.takeWhile Char.isDigit
  if lead.length != 4 || (cs.drop 4).head? != some '-' then false
  else
    match date cs with
    | none => false
    | some [] => true
    | some rest =>
      let zoned := fun (t : Char) => (do
        let r ← literal t rest
        let r ← clock r
        zone r) == some []
      zoned 'T' || zoned 't' || ((do clock (← spaces rest)) == some [])

example : isTimestamp "2001-12-14".toList ∧ isTimestamp "2001-12-14t21:59:43.10-05:00".toList := by
  decide
example : !isTimestamp "2001-02-29".toList ∧ isTimestamp "2001-12-14 21:59:43.10".toList := by
  decide

end Timestamp

end Yaml

end SymbolSieve
