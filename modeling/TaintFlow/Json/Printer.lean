import TaintFlow.Json.Basic

namespace TaintFlow.Json

def hexDigit (n : Nat) : Char :=
  if n < 10 then Char.ofNat (n + '0'.toNat) else Char.ofNat (n - 10 + 'a'.toNat)

def unicodeEscape (unit : Nat) : List Char :=
  ['\\', 'u', hexDigit (unit / 4096 % 16), hexDigit (unit / 256 % 16), hexDigit (unit / 16 % 16),
    hexDigit (unit % 16)]

def escapeChar (c : Char) : List Char :=
  if c = '"' then ['\\', '"']
  else if c = '\\' then ['\\', '\\']
  else if c = '\n' then ['\\', 'n']
  else if c = '\r' then ['\\', 'r']
  else if c = '\t' then ['\\', 't']
  else if c.toNat = 8 then ['\\', 'b']
  else if c.toNat = 12 then ['\\', 'f']
  else if c.toNat < 32 then unicodeEscape c.toNat
  else [c]

def escapeCharAscii (c : Char) : List Char :=
  let n := c.toNat
  if n < 127 then escapeChar c
  else if n < 0x10000 then unicodeEscape n
  else
    let m := n - 0x10000
    unicodeEscape (0xd800 + m / 0x400) ++ unicodeEscape (0xdc00 + m % 0x400)

def quote (escape : Char → List Char) (s : String) : String :=
  "\"" ++ String.ofList (s.toList.flatMap escape) ++ "\""

def indent (depth : Nat) : String :=
  "\n" ++ String.ofList (List.replicate (2 * depth) ' ')

mutual

/-- One item or member a line, two blanks deeper than its container; empty containers on one
line. -/
def prettyAt (depth : Nat) : Json → String
  | .null => "null"
  | .bool b => if b then "true" else "false"
  | .natural n => toString n
  | .decimal text => text
  | .string s => quote escapeChar s
  | .brokenString => "\"\""
  | .array [] => "[]"
  | .array (item :: items) =>
    "[" ++ indent (depth + 1) ++ prettyAt (depth + 1) item ++ prettyItems (depth + 1) items ++
      indent depth ++ "]"
  | .object [] => "\x7b\x7d"
  | .object ((name, value) :: members) =>
    "\x7b" ++ indent (depth + 1) ++ quote escapeChar name ++ ": " ++ prettyAt (depth + 1) value ++
      prettyMembers (depth + 1) members ++ indent depth ++ "\x7d"

def prettyItems (depth : Nat) : List Json → String
  | [] => ""
  | item :: items => "," ++ indent depth ++ prettyAt depth item ++ prettyItems depth items

def prettyMembers (depth : Nat) : List (String × Json) → String
  | [] => ""
  | (name, value) :: members =>
    "," ++ indent depth ++ quote escapeChar name ++ ": " ++ prettyAt depth value ++
      prettyMembers depth members

end

def pretty (j : Json) : String :=
  prettyAt 0 j

mutual

def compact : Json → String
  | .null => "null"
  | .bool b => if b then "true" else "false"
  | .natural n => toString n
  | .decimal text => text
  | .string s => quote escapeCharAscii s
  | .brokenString => "\"\""
  | .array [] => "[]"
  | .array (item :: items) => "[" ++ compact item ++ compactItems items ++ "]"
  | .object [] => "\x7b\x7d"
  | .object ((name, value) :: members) =>
    "\x7b" ++ quote escapeCharAscii name ++ ":" ++ compact value ++ compactMembers members ++ "\x7d"

def compactItems : List Json → String
  | [] => ""
  | item :: items => "," ++ compact item ++ compactItems items

def compactMembers : List (String × Json) → String
  | [] => ""
  | (name, value) :: members =>
    "," ++ quote escapeCharAscii name ++ ":" ++ compact value ++ compactMembers members

end

end TaintFlow.Json
