import SymbolSieve.Yaml.Numeral
import SymbolSieve.Yaml.Timestamp

namespace SymbolSieve

namespace Yaml

def coreTagPrefix : String := "tag:yaml.org,2002:"

def shortTag (tag : String) : String :=
  if tag.startsWith coreTagPrefix then "!!" ++ (tag.drop coreTagPrefix.length).toString else tag

inductive Resolved where
  | null
  | bool (b : Bool)
  | other
  | text (s : String)
deriving DecidableEq, Repr

def fixedWords : List (String × String × Resolved) :=
  [("true", "!!bool", .bool true), ("True", "!!bool", .bool true), ("TRUE", "!!bool", .bool true),
   ("false", "!!bool", .bool false), ("False", "!!bool", .bool false),
   ("FALSE", "!!bool", .bool false),
   ("", "!!null", .null), ("~", "!!null", .null), ("null", "!!null", .null),
   ("Null", "!!null", .null), ("NULL", "!!null", .null),
   (".nan", "!!float", .other), (".NaN", "!!float", .other), (".NAN", "!!float", .other),
   (".inf", "!!float", .other), (".Inf", "!!float", .other), (".INF", "!!float", .other),
   ("+.inf", "!!float", .other), ("+.Inf", "!!float", .other), ("+.INF", "!!float", .other),
   ("-.inf", "!!float", .other), ("-.Inf", "!!float", .other), ("-.INF", "!!float", .other),
   ("<<", "!!merge", .text "<<")]

def isResolvable (tag : String) : Bool :=
  tag == "" || tag == "!!str" || tag == "!!bool" || tag == "!!int" || tag == "!!float" ||
    tag == "!!null" || tag == "!!timestamp"

def hint (s : String) : Option Char :=
  match s.toList with
  | [] => some 'N'
  | c :: _ =>
    if c == '+' || c == '-' then some 'S'
    else if c.isDigit then some 'D'
    else if "yYnNtTfFoO~".toList.contains c then some 'M'
    else if c == '.' then some '.'
    else none

def numberTag (tag : String) (s : String) : Option String :=
  let cs := s.toList
  let plain := cs.filter (· != '_')
  let afterPrefix (p : String) : Option (List Char) :=
    if plain.take p.length == p.toList then some (plain.drop p.length) else none
  if (tag == "" || tag == "!!timestamp") && Timestamp.isTimestamp cs then some "!!timestamp"
  else if Numeral.isSigned plain || Numeral.isUnsigned plain then some "!!int"
  else if Numeral.isFloatShaped plain && Numeral.isDecimalFraction plain then some "!!float"
  else
    match afterPrefix "0b", afterPrefix "-0b", afterPrefix "0o", afterPrefix "-0o" with
    | some ds, _, _, _ =>
      if Numeral.isSignedIn 2 ds || Numeral.isUnsignedIn 2 ds then some "!!int" else none
    | none, some ds, _, _ => if Numeral.isSignedIn 2 ('-' :: ds) then some "!!int" else none
    | none, none, some ds, _ =>
      if Numeral.isSignedIn 8 ds || Numeral.isUnsignedIn 8 ds then some "!!int" else none
    | none, none, none, some ds => if Numeral.isSignedIn 8 ('-' :: ds) then some "!!int" else none
    | none, none, none, none => none

def resolveUnchecked (tag : String) (s : String) : String × Resolved :=
  match hint s with
  | none => ("!!str", .text s)
  | some h =>
    if tag == "!!str" || tag == "!!binary" then ("!!str", .text s)
    else
      match fixedWords.find? (·.1 == s) with
      | some (_, t, v) => (t, v)
      | none =>
        if h == '.' then
          if Numeral.isDecimalFraction s.toList then ("!!float", .other) else ("!!str", .text s)
        else if h == 'D' || h == 'S' then
          match numberTag tag s with
          | some t => (t, .other)
          | none => ("!!str", .text s)
        else ("!!str", .text s)

def resolve (tag : String) (s : String) : Except String (String × Resolved) :=
  let tag := shortTag tag
  if !isResolvable tag then .ok (tag, .text s)
  else
    let (rtag, value) := resolveUnchecked tag s
    if tag == "" || tag == rtag || tag == "!!str" || tag == "!!binary" then .ok (rtag, value)
    else if tag == "!!float" && rtag == "!!int" then .ok ("!!float", .other)
    else .error ("cannot decode " ++ rtag ++ " `" ++ s ++ "` as a " ++ tag)

example : (resolve "" "yes").toOption = some ("!!str", .text "yes") := by decide
example : (resolve "" "08").toOption = some ("!!float", .other) := by decide
example : (resolve "" "0x1F").toOption = some ("!!int", .other) := by decide
example : (resolve "" "~").toOption = some ("!!null", .null) := by decide
example : (resolve "!!int" "abc").toOption = none := by decide

end Yaml

end SymbolSieve
