import TaintFlow.Pattern.Basic
import TaintFlow.Unicode.Script

namespace TaintFlow.Pattern

open Unicode

/-- A name without what spelling may vary in: case, blanks, hyphens, underscores, and `is` in
front. -/
def looseName (name : String) : String :=
  let chars := name.toList
  let hasIs := match chars with
    | i :: s :: _ => i.toLower = 'i' && s.toLower = 's'
    | _ => false
  let kept := (if hasIs then chars.drop 2 else chars).filter fun c ↦
    c.toNat < 128 && c != ' ' && c != '_' && c != '-'
  let loose := String.ofList (kept.map Char.toLower)
  if hasIs && loose = "c" then "isc" else loose

def categoryNames : Category → List String
  | .uppercaseLetter => ["uppercaseletter"]
  | .lowercaseLetter => ["lowercaseletter"]
  | .titlecaseLetter => ["titlecaseletter"]
  | .modifierLetter => ["modifierletter"]
  | .otherLetter => ["otherletter"]
  | .nonspacingMark => ["nonspacingmark"]
  | .spacingMark => ["spacingmark"]
  | .enclosingMark => ["enclosingmark"]
  | .decimalNumber => ["decimalnumber", "digit"]
  | .letterNumber => ["letternumber"]
  | .otherNumber => ["othernumber"]
  | .connectorPunctuation => ["connectorpunctuation"]
  | .dashPunctuation => ["dashpunctuation"]
  | .openPunctuation => ["openpunctuation"]
  | .closePunctuation => ["closepunctuation"]
  | .initialPunctuation => ["initialpunctuation"]
  | .finalPunctuation => ["finalpunctuation"]
  | .otherPunctuation => ["otherpunctuation"]
  | .mathSymbol => ["mathsymbol"]
  | .currencySymbol => ["currencysymbol"]
  | .modifierSymbol => ["modifiersymbol"]
  | .otherSymbol => ["othersymbol"]
  | .spaceSeparator => ["spaceseparator"]
  | .lineSeparator => ["lineseparator"]
  | .paragraphSeparator => ["paragraphseparator"]
  | .control => ["control", "cntrl"]
  | .format => ["format"]
  | .surrogate => ["surrogate"]
  | .privateUse => ["privateuse"]
  | .unassigned => ["unassigned"]

def categoryGroup? (loose : String) : Option CharSet :=
  let startingWith (letter : Char) : Option CharSet :=
    some fun c ↦ (category c).code.toList.head? = some letter
  if ["l", "letter"].contains loose then startingWith 'L'
  else if ["m", "mark", "combiningmark"].contains loose then startingWith 'M'
  else if ["n", "number"].contains loose then startingWith 'N'
  else if ["p", "punctuation", "punct"].contains loose then startingWith 'P'
  else if ["s", "symbol"].contains loose then startingWith 'S'
  else if ["z", "separator"].contains loose then startingWith 'Z'
  else if ["c", "other"].contains loose then startingWith 'C'
  else if ["lc", "casedletter"].contains loose then
    some fun c ↦ [Category.uppercaseLetter, .lowercaseLetter, .titlecaseLetter].contains
      (category c)
  else if loose = "any" then some fun _ ↦ true
  else if loose = "ascii" then some fun c ↦ c.toNat < 128
  else if loose = "assigned" then some fun c ↦ category c != .unassigned
  else none

def categorySet? (loose : String) : Option CharSet :=
  match Category.all.find? fun g ↦
      looseName g.code = loose || (categoryNames g).contains loose with
  | some g => some fun c ↦ category c = g
  | none => categoryGroup? loose

def scriptSet? (loose : String) : Option CharSet :=
  let named := (Script.aliases.flatMap (·.splitOn " ")).findSome? fun entry ↦
    match entry.splitOn "=" with
    | [other, name] => if looseName other = loose then some name else none
    | _ => none
  (Script.names.find? fun name ↦ looseName name = loose || named = some name).map
    fun name c ↦ script c = name

def isHexDigit (c : Char) : Bool :=
  c.isDigit || ('a' ≤ c && c ≤ 'f') || ('A' ≤ c && c ≤ 'F')

def propertySet? (loose : String) : Option CharSet :=
  if ["alphabetic", "alpha"].contains loose then some isAlphabetic
  else if ["lowercase", "lower"].contains loose then some isLowercase
  else if ["uppercase", "upper"].contains loose then some isUppercase
  else if ["whitespace", "wspace", "space"].contains loose then some isBlank
  else if ["graphemeextend", "grext"].contains loose then some extendsGrapheme
  else if ["asciihexdigit", "ahex"].contains loose then some isHexDigit
  else none

/-- The set that a property in braces names: a property, a category or a script by itself, or one
of the latter two as the value of its property. -/
def namedSet? (text : String) : Option CharSet :=
  let ofValue (property value : String) : Option CharSet :=
    let property := looseName property
    if ["gc", "generalcategory"].contains property then categorySet? (looseName value)
    else if ["sc", "script", "scx", "scriptextensions"].contains property then
      scriptSet? (looseName value)
    else none
  match text.splitOn "!=" with
  | property :: value :: rest =>
    (ofValue property ("!=".intercalate (value :: rest))).map fun s c ↦ !s c
  | _ =>
    let ofParts (divider : String) : Option (Option CharSet) :=
      match text.splitOn divider with
      | property :: value :: rest => some (ofValue property (divider.intercalate (value :: rest)))
      | _ => none
    match ofParts ":" with
    | some result => result
    | none => match ofParts "=" with
      | some result => result
      | none =>
        let loose := looseName text
        (propertySet? loose).orElse fun _ ↦
          (categorySet? loose).orElse fun _ ↦ scriptSet? loose

def asciiClass? : String → Option CharSet
  | "alnum" => some Char.isAlphanum
  | "alpha" => some Char.isAlpha
  | "ascii" => some fun c ↦ c.toNat < 128
  | "blank" => some fun c ↦ c = ' ' || c = '\t'
  | "cntrl" => some fun c ↦ c.toNat < 32 || c.toNat = 127
  | "digit" => some Char.isDigit
  | "graph" => some fun c ↦ 33 ≤ c.toNat && c.toNat ≤ 126
  | "lower" => some Char.isLower
  | "print" => some fun c ↦ 32 ≤ c.toNat && c.toNat ≤ 126
  | "punct" => some fun c ↦ 33 ≤ c.toNat && c.toNat ≤ 126 && !c.isAlphanum
  | "space" => some fun c ↦ c = ' ' || (9 ≤ c.toNat && c.toNat ≤ 13)
  | "upper" => some Char.isUpper
  | "word" => some fun c ↦ c.isAlphanum || c = '_'
  | "xdigit" => some isHexDigit
  | _ => none

def asciiWord (c : Char) : Bool := c.isAlphanum || c = '_'

def asciiBlank (c : Char) : Bool := c = ' ' || (9 ≤ c.toNat && c.toNat ≤ 13)

end TaintFlow.Pattern
