import TaintFlow.Yaml.Node

namespace TaintFlow.Yaml

structure Descent where
  tokens : List Token
  handles : List (String × String) := [("!", "!"), ("!!", "tag:yaml.org,2002:")]
  names : List (String × Nat) := []

abbrev Descending := StateT Descent Option

namespace Descending

def peek : Descending (Option Token) := return (← get).tokens.head?

def advance : Descending Unit :=
  modify fun d ↦ { d with tokens := d.tokens.tail }

def accept (t : Token) : Descending Bool := do
  if (← peek) = some t then
    advance
    return true
  else return false

def expect (t : Token) : Descending Unit := do
  guard (← accept t)

def isNext (ts : List Token) : Descending Bool :=
  return (← peek).any ts.contains

def newAnchor (name : String) : Descending Nat := do
  let d ← get
  let number := d.names.length
  set { d with names := (name, number) :: d.names.filter (·.1 ≠ name) }
  return number

def anchor : Descending (Option Nat) := do
  match ← peek with
  | some (.anchor name) =>
    advance
    return some (← newAnchor name)
  | _ => return none

def tag : Descending (Option String) := do
  match ← peek with
  | some (.tag handle suffix) =>
    advance
    if handle.isEmpty then return some suffix
    let expansion ← (← get).handles.lookup handle
    return some (expansion ++ suffix)
  | _ => return none

def props : Descending NodeProps := do
  let first ← anchor
  let tag ← tag
  let anchor ← if first.isSome then pure first else anchor
  return { anchor, tag }

/-- The tag of one exclamation mark says that a scalar is what its text says. -/
def scalarProps (p : NodeProps) : NodeProps :=
  if p.tag = some "!" then { p with tag := none } else p

mutual

/-- A node. Block collections are allowed where `block` is set, and where `indentless` is set also
a sequence whose items are not indented. -/
def node : Nat → Bool → Bool → Descending Node
  | 0, _, _ => failure
  | fuel + 1, block, indentless => do
    if let some (.reference name) ← peek then
      advance
      return .reference (← (← get).names.lookup name)
    let p ← props
    match ← peek with
    | some (.scalar style text) =>
      advance
      return .scalar (scalarProps p) style text
    | some .flowSequence =>
      advance
      return .sequence p (← flowItems fuel true)
    | some .flowMapping =>
      advance
      return .mapping p (← flowEntries fuel true)
    | some .item =>
      if indentless then return .sequence p (← indentlessItems fuel)
      guard (p ≠ {})
      return .blank p
    | some .blockSequence =>
      guard (block || p ≠ {})
      if !block then return .blank p
      advance
      return .sequence p (← blockItems fuel)
    | some .blockMapping =>
      guard (block || p ≠ {})
      if !block then return .blank p
      advance
      return .mapping p (← blockEntries fuel)
    | _ =>
      guard (p ≠ {})
      return .blank p

def nodeBefore : Nat → List Token → Bool → Bool → Descending Node
  | 0, _, _, _ => failure
  | fuel + 1, ends, block, indentless => do
    if ← isNext ends then return .blank {} else node fuel block indentless

def blockItems : Nat → Descending (List Node)
  | 0 => failure
  | fuel + 1 => do
    if ← accept .blockEnd then return []
    expect .item
    let n ← nodeBefore fuel [.item, .blockEnd] true false
    return n :: (← blockItems fuel)

def indentlessItems : Nat → Descending (List Node)
  | 0 => failure
  | fuel + 1 => do
    unless ← accept .item do return []
    let n ← nodeBefore fuel [.item, .key, .value, .blockEnd] true false
    return n :: (← indentlessItems fuel)

def blockEntries : Nat → Descending (List (Node × Node))
  | 0 => failure
  | fuel + 1 => do
    if ← accept .blockEnd then return []
    expect .key
    let ends := [.key, .value, .blockEnd]
    let k ← nodeBefore fuel ends true true
    let v ← if ← accept .value then nodeBefore fuel ends true true else pure (.blank {})
    return (k, v) :: (← blockEntries fuel)

def flowItems : Nat → Bool → Descending (List Node)
  | 0, _ => failure
  | fuel + 1, isFirst => do
    if ← accept .flowSequenceEnd then return []
    unless isFirst do
      expect .comma
    if ← accept .flowSequenceEnd then return []
    let n ←
      if ← accept .key then
        let k ← nodeBefore fuel [.value, .comma, .flowSequenceEnd] false false
        let v ← flowValue fuel [.comma, .flowSequenceEnd]
        pure (Node.mapping {} [(k, v)])
      else node fuel false false
    return n :: (← flowItems fuel false)

def flowEntries : Nat → Bool → Descending (List (Node × Node))
  | 0, _ => failure
  | fuel + 1, isFirst => do
    if ← accept .flowMappingEnd then return []
    unless isFirst do
      expect .comma
    if ← accept .flowMappingEnd then return []
    if ← accept .key then
      let k ← nodeBefore fuel [.value, .comma, .flowMappingEnd] false false
      let v ← flowValue fuel [.comma, .flowMappingEnd]
      return (k, v) :: (← flowEntries fuel false)
    else
      let k ← node fuel false false
      return (k, .blank {}) :: (← flowEntries fuel false)

def flowValue : Nat → List Token → Descending Node
  | 0, _ => failure
  | fuel + 1, ends => do
    if ← accept .value then nodeBefore fuel ends false false else return .blank {}

end

/-- The directives of a document, of which `versioned` tells whether a version was among them, and
`known` which handles were. -/
def directives : Nat → Bool → List String → Descending Unit
  | 0, _, _ => failure
  | fuel + 1, versioned, known => do
    match ← peek with
    | some (.versionDirective major minor) =>
      guard (!versioned && major = 1 && (minor = 1 || minor = 2))
      advance
      directives fuel true known
    | some (.tagDirective handle expansion) =>
      guard (!known.contains handle)
      advance
      modify fun d ↦ { d with handles := (handle, expansion) :: d.handles }
      directives fuel versioned (handle :: known)
    | _ => return

def isDirective : Token → Bool
  | .versionDirective _ _ | .tagDirective _ _ => true
  | _ => false

def content (fuel : Nat) : Descending Node := do
  if (← peek).any (fun t ↦ t = .documentStart || isDirective t) then
    directives fuel false []
    expect .documentStart
    let next ← peek
    if next.all fun t ↦ t = .documentStart || t = .documentEnd || isDirective t then
      return .blank {}
    else node fuel true false
  else node fuel true false

def documentEnds : Nat → Descending Unit
  | 0 => failure
  | fuel + 1 => do
    if ← accept .documentEnd then documentEnds fuel

/-- The value of one document, if there is one, and no second document. -/
def document (fuel : Nat) : Descending Document := do
  if (← peek).isNone then return { root := none }
  let root ← content fuel
  documentEnds fuel
  guard (← peek).isNone
  return { root := some root }

end Descending

namespace Document

/-- Every token is read at most once, and at most four functions are entered for it. -/
def ofTokens? (tokens : List Token) : Option Document :=
  (Descending.document (4 * tokens.length + 4)).run' { tokens }

def ofText? (text : String) : Option Document :=
  Token.ofText? text >>= ofTokens?

end Document

end TaintFlow.Yaml
