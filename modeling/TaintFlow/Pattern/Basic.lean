import TaintFlow.Unicode.Property

namespace TaintFlow

abbrev CharSet := Char → Bool

/-- A condition on a position that takes no character. -/
inductive Look where
  | textStart
  | textEnd
  | lineStart
  | lineEnd
  | crlfLineStart
  | crlfLineEnd
  | wordBoundary (isWord : CharSet)
  | insideOrOutside (isWord : CharSet)
  | wordStart (isWord : CharSet)
  | wordEnd (isWord : CharSet)
  | noWordBefore (isWord : CharSet)
  | noWordAfter (isWord : CharSet)

namespace Look

def holds (before after : Option Char) : Look → Bool
  | textStart => before.isNone
  | textEnd => after.isNone
  | lineStart => before.isNone || before = some '\n'
  | lineEnd => after.isNone || after = some '\n'
  | crlfLineStart =>
    before.isNone || before = some '\n' || (before = some '\r' && after != some '\n')
  | crlfLineEnd =>
    after.isNone || after = some '\r' || (after = some '\n' && before != some '\r')
  | wordBoundary isWord => before.any isWord != after.any isWord
  | insideOrOutside isWord => before.any isWord == after.any isWord
  | wordStart isWord => !before.any isWord && after.any isWord
  | wordEnd isWord => before.any isWord && !after.any isWord
  | noWordBefore isWord => !before.any isWord
  | noWordAfter isWord => !after.any isWord

end Look

inductive Pattern where
  | empty
  | set (s : CharSet)
  | look (l : Look)
  | concat (p q : Pattern)
  | either (p q : Pattern)
  | repeated (p : Pattern) (min : Nat) (max : Option Nat)

namespace Pattern

abbrev Positions := List Nat

/-- The positions reached from `frontier` by taking `step` any number of times, with those already
`seen`; at most `fuel` rounds. -/
def closure (step : Positions → Positions) : Nat → Positions → Positions → Positions
  | 0, _, seen => seen
  | fuel + 1, frontier, seen =>
    let fresh := (step frontier).filter (!seen.contains ·)
    if fresh.isEmpty then seen else closure step fuel fresh (seen ++ fresh)

def iterate (step : Positions → Positions) : Nat → Positions → Positions
  | 0, starts => starts
  | n + 1, starts => iterate step n (step starts)

def iterateUpTo (step : Positions → Positions) : Nat → Positions → Positions
  | 0, starts => starts
  | n + 1, starts =>
    if starts.isEmpty then [] else (starts ++ iterateUpTo step n (step starts)).eraseDups

/-- Where a match may end that begins at one of `starts`. -/
def ends (text : Array Char) : Pattern → Positions → Positions
  | empty, starts => starts
  | set s, starts => (starts.filter fun i ↦ text[i]?.any s).map (· + 1)
  | look l, starts =>
    starts.filter fun i ↦ l.holds (if i = 0 then none else text[i - 1]?) text[i]?
  | concat p q, starts => ends text q (ends text p starts)
  | either p q, starts => (ends text p starts ++ ends text q starts).eraseDups
  | repeated p min none, starts =>
    let begun := iterate (ends text p) min starts
    closure (ends text p) (text.size + 1) begun begun
  | repeated p min (some max), starts =>
    iterateUpTo (ends text p) (max - min) (iterate (ends text p) min starts)

def isMatch (p : Pattern) (text : String) : Bool :=
  let chars := text.toList.toArray
  !(p.ends chars (List.range (chars.size + 1))).isEmpty

end Pattern

end TaintFlow
