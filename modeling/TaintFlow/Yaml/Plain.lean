import TaintFlow.Json.Reader

namespace TaintFlow.Yaml.Plain

def isNull (text : String) : Bool :=
  text = "null" || text = "Null" || text = "NULL" || text = "~"

def bool? (text : String) : Option Bool :=
  if text = "true" ∨ text = "True" ∨ text = "TRUE" then some true
  else if text = "false" ∨ text = "False" ∨ text = "FALSE" then some false
  else none

def digits? (base : Nat) (cs : List Char) : Option Nat :=
  if cs.isEmpty then none
  else cs.foldlM (fun n c ↦ do
    let d ← Json.hexDigit? c
    if d < base then some (base * n + d) else none) 0

def isPadded (cs : List Char) : Bool :=
  1 < cs.length && cs.head? = some '0' && cs.all Char.isDigit

def unsigned? : List Char → Option Nat
  | '0' :: 'x' :: cs => digits? 16 cs
  | '0' :: 'o' :: cs => digits? 8 cs
  | '0' :: 'b' :: cs => digits? 2 cs
  | cs => if isPadded cs then none else digits? 10 cs

def natural? (text : String) : Option Nat :=
  match text.toList with
  | '+' :: cs => unsigned? cs
  | cs => unsigned? cs

def negated? (text : String) : Option Nat :=
  match text.toList with
  | '-' :: cs => unsigned? cs
  | _ => none

def floatBound : Nat := 1 <<< 1024 - 1 <<< 970

/-- Whether `digits`, times ten to the power of `up` less `down`, is below `floatBound`. Powers too
large to write out are decided by the number of digits. -/
def isBelowBound (digits : List Char) (up down : Nat) : Bool :=
  let significant := digits.dropWhile (· = '0')
  let n := Json.digitsValue significant
  if n = 0 then true
  else if significant.length + up < 300 + down then true
  else if 310 + down < significant.length + up then false
  else n * Nat.pow 10 (up - down) < floatBound * Nat.pow 10 (down - up)

def isDecimal (cs : List Char) : Bool :=
  let cs := if cs.head? = some '-' then cs.tail else cs
  let (whole, rest) := Json.readDigits cs
  let (fraction, rest) := match rest with
    | '.' :: rest => Json.readDigits rest
    | rest => ([], rest)
  let digits := whole ++ fraction
  !digits.isEmpty &&
    match Json.readExponent rest with
    | some ([], []) => isBelowBound digits 0 fraction.length
    | some (_ :: '-' :: power, []) =>
      isBelowBound digits 0 (Json.digitsValue power + fraction.length)
    | some (_ :: '+' :: power, []) | some (_ :: power, []) =>
      isBelowBound digits (Json.digitsValue power) fraction.length
    | _ => false

def isFloat (text : String) : Bool :=
  let magnitude := match text.toList with
    | '+' :: cs => cs
    | cs => cs
  [".inf", ".Inf", ".INF"].contains (String.ofList magnitude) ||
    ["-.inf", "-.Inf", "-.INF", ".nan", ".NaN", ".NAN"].contains text ||
    (isDecimal magnitude && !(text.startsWith "+-"))

/-- Whether a plain scalar says more than its text, or digits that some take for a number. -/
def isSpecial (text : String) : Bool :=
  text.isEmpty || isNull text || (bool? text).isSome ||
    (natural? text).any (· < 1 <<< 128) || (negated? text).any (· ≤ 1 <<< 127) ||
    isFloat text

end TaintFlow.Yaml.Plain
