import TaintFlow.Json.Printer
import TaintFlow.Yaml.Value

namespace TaintFlow.Yaml

def blanks (n : Nat) : List Char := List.replicate n ' '

namespace Text

def singleQuotedBody (indent : Nat) (afterBreak : Bool) : List Char → List Char
  | [] => if afterBreak then blanks indent else []
  | c :: rest =>
    if isBreak c then c :: singleQuotedBody indent true rest
    else
      (if afterBreak then blanks indent else []) ++ (if c = '\x27' then [c, c] else [c]) ++
        singleQuotedBody indent false rest

def hexDigits (width n : Nat) : List Char :=
  let digits := (Nat.toDigits 16 n).map Char.toUpper
  List.replicate (width - digits.length) '0' ++ digits

def letterEscapes : List (Char × Char) :=
  [('\x00', '0'), ('\x07', 'a'), ('\x08', 'b'), ('\t', 't'), ('\n', 'n'), ('\x0b', 'v'),
    ('\x0c', 'f'), ('\r', 'r'), ('\x1b', 'e'), ('"', '"'), ('\\', '\\'), (nextLine, 'N'),
    (lineSeparator, 'L'), (paragraphSeparator, 'P')]

def escapeChar (c : Char) : List Char :=
  match letterEscapes.lookup c with
  | some letter => ['\\', letter]
  | none =>
    if isPrintable c then [c]
    else if c.toNat < 0x100 then '\\' :: 'x' :: hexDigits 2 c.toNat
    else if c.toNat < 0x10000 then '\\' :: 'u' :: hexDigits 4 c.toNat
    else '\\' :: 'U' :: hexDigits 8 c.toNat

/-- How the end of a literal text is to be read: without a break, with one, or with more. -/
def chompingMark (cs : List Char) : List Char :=
  match cs.reverse with
  | [] => ['-']
  | last :: before =>
    if !isBreak last then ['-']
    else if before.head?.all isBreak then ['+']
    else []

def literalBody (indent : Nat) (afterBreak : Bool) : List Char → List Char
  | [] => if afterBreak then [] else ['\n']
  | c :: rest =>
    if isBreak c then c :: literalBody indent true rest
    else (if afterBreak then blanks indent else []) ++ c :: literalBody indent false rest

def print (indent : Nat) (text : String) : List Char :=
  let cs := text.toList
  match style text with
  | .literal =>
    let hint := if cs.head?.any (fun c ↦ isSpace c || isBreak c) then ['2'] else []
    '|' :: hint ++ chompingMark cs ++ '\n' :: literalBody indent true cs
  | .doubleQuoted => '"' :: cs.flatMap escapeChar ++ ['"', '\n']
  | .singleQuoted => '\x27' :: singleQuotedBody indent false cs ++ ['\x27', '\n']
  | .plain | .folded => cs ++ ['\n']

end Text

namespace Value

mutual

/-- A value behind its dash or colon. `depth` is the indentation of that line, and `nested` that of
a list on the lines below. -/
def printAt (depth nested : Nat) : Value → List Char
  | null => " null\n".toList
  | bool b => if b then " true\n".toList else " false\n".toList
  | natural n => ' ' :: (toString n).toList ++ ['\n']
  | string s => ' ' :: Text.print (depth + 2) s
  | list [] => " []\n".toList
  | list (v :: vs) => '\n' :: printItems nested (v :: vs)
  | record [] => " \x7b\x7d\n".toList
  | record (f :: fs) => '\n' :: printFields (depth + 2) (f :: fs)

def printItems (depth : Nat) : List Value → List Char
  | [] => []
  | v :: vs => blanks depth ++ '-' :: printAt depth (depth + 2) v ++ printItems depth vs

def printFields (depth : Nat) : List (String × Value) → List Char
  | [] => []
  | (name, v) :: fields =>
    blanks depth ++ (Text.print depth name).dropLast ++ ':' :: printAt depth depth v ++
      printFields depth fields

end

def print : Value → String
  | record (f :: fs) => String.ofList (printFields 0 (f :: fs))
  | list (v :: vs) => String.ofList (printItems 0 (v :: vs))
  | v => String.ofList ((printAt 0 0 v).drop 1)

end Value

end TaintFlow.Yaml
