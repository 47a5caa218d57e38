namespace TaintFlow.Yaml

def nextLine : Char := '\x85'

def lineSeparator : Char := '\u2028'

def paragraphSeparator : Char := '\u2029'

def byteOrderMark : Char := '\ufeff'

def isBreak (c : Char) : Bool :=
  c = '\n' || c = lineSeparator || c = paragraphSeparator

def isBlank (c : Char) : Bool :=
  c = ' ' || c = '\t'

def isBlankOrBreak (c : Char) : Bool :=
  isBlank c || isBreak c

/-- Whether no text follows: a blank, a break, or the end. -/
def atGap : List Char → Bool
  | [] => true
  | c :: _ => isBlankOrBreak c

def isAllowed (c : Char) : Bool :=
  let n := c.toNat
  c = '\t' || c = '\n' || c = '\r' || (0x20 ≤ n && n ≤ 0x7e) || c = nextLine ||
    (0xa0 ≤ n && n ≠ 0xfffe && n ≠ 0xffff)

def isPrintable (c : Char) : Bool :=
  let n := c.toNat
  c = '\n' || (0x20 ≤ n && n ≤ 0x7e) ||
    (0xa0 ≤ n && c ≠ byteOrderMark && n ≠ 0xfffe && n ≠ 0xffff)

def isNameChar (c : Char) : Bool :=
  c.isAlphanum || c = '_' || c = '-'

def unifyBreaks : List Char → List Char
  | [] => []
  | '\r' :: '\n' :: cs => '\n' :: unifyBreaks cs
  | c :: cs => (if c = '\r' ∨ c = nextLine then '\n' else c) :: unifyBreaks cs

end TaintFlow.Yaml
