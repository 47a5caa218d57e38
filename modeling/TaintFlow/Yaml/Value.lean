import TaintFlow.Yaml.Node
import TaintFlow.Yaml.Plain

namespace TaintFlow.Yaml

inductive Value where
  | null
  | bool (value : Bool)
  | natural (value : Nat)
  | string (text : String)
  | list (items : List Value)
  | record (fields : List (String × Value))
deriving Repr

/-- Whether a colon before a gap, or a hash behind one, would end a plain scalar. `gapBefore` tells
whether the characters stand behind a gap. -/
def breaksPlain (gapBefore : Bool) : List Char → Bool
  | [] => false
  | c :: rest =>
    (c = ':' && atGap rest) || (c = '#' && gapBefore) || breaksPlain (isBlankOrBreak c) rest

def beginsMarked : List Char → Bool
  | [] => false
  | c :: rest =>
    "#,[]\x7b\x7d&*!|>\x27\"%@`".toList.contains c || ("?:-".toList.contains c && atGap rest) ||
      "---".toList.isPrefixOf (c :: rest) || "...".toList.isPrefixOf (c :: rest)

def hasPair (p q : Char → Bool) : List Char → Bool
  | c :: d :: rest => (p c && q d) || hasPair p q (d :: rest)
  | _ => false

def isSpace (c : Char) : Bool := c = ' '

namespace Text

variable (cs : List Char)

def isShowable : Bool :=
  cs.all isPrintable && !hasPair isSpace isBreak cs

def allowsLiteral : Bool :=
  isShowable cs && !cs.getLast?.any isSpace

def allowsSingleQuotes : Bool :=
  isShowable cs && !hasPair isBreak isSpace cs

def allowsPlain : Bool :=
  cs.all isPrintable && !cs.any isBreak && !cs.head?.any isSpace && !cs.getLast?.any isSpace &&
    !beginsMarked cs && !breaksPlain true cs

/-- Texts of several lines are literal where that can be, and others plain, in single quotes, or in
double quotes, whichever is the first to do. -/
def style (text : String) : ScalarStyle :=
  let cs := text.toList
  if cs.contains '\n' then if allowsLiteral cs then .literal else .doubleQuoted
  else if !Plain.isSpecial text && allowsPlain cs then .plain
  else if allowsSingleQuotes cs then .singleQuoted
  else .doubleQuoted

end Text

namespace Value

def ofOption {α : Type} (encode : α → Value) : Option α → Value
  | none => .null
  | some a => encode a

def scalar (text : String) : Node := .scalar {} .plain text

mutual

def toNode : Value → Node
  | null => scalar "null"
  | bool b => scalar (if b then "true" else "false")
  | natural n => scalar (toString n)
  | string s => .scalar {} (Text.style s) s
  | list items => .sequence {} (toNodes items)
  | record fields => .mapping {} (toEntries fields)

def toNodes : List Value → List Node
  | [] => []
  | v :: vs => v.toNode :: toNodes vs

def toEntries : List (String × Value) → List (Node × Node)
  | [] => []
  | (name, v) :: fields => ((string name).toNode, v.toNode) :: toEntries fields

end

end Value

end TaintFlow.Yaml
