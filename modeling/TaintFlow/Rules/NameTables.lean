import TaintFlow.Settings.NameOverrides
import TaintFlow.Program.Basic

namespace TaintFlow

inductive ReplaceKind where
  | single
  | global
deriving DecidableEq, Repr

structure NameTables where
  password : Pattern
  passwordExclusion : Pattern
  credential : Pattern
  notSensitive : Pattern
  crypto : Pattern
  cryptoExclusion : Pattern
  loggerReceiver : Pattern
  log : List String
  networkSend : List String
  networkReceive : List String
  singleReplace : List String
  globalReplace : List String

namespace NameTables

def ofOverrides (o : NameOverrides) : Except SettingsError NameTables := do
  let pattern (slot : PatternSlot) :=
    NameOverrides.compile slot.name ((o.pattern? slot).getD slot.builtin)
  let methods (slot : MethodSlot) := (o.methods? slot).getD slot.builtin
  return { password := ← pattern .password
           passwordExclusion := ← pattern .passwordExclusion
           credential := ← pattern .credential
           notSensitive := ← pattern .notSensitive
           crypto := ← pattern .crypto
           cryptoExclusion := ← pattern .cryptoExclusion
           loggerReceiver := ← pattern .loggerReceiver
           log := methods .log
           networkSend := methods .networkSend
           networkReceive := methods .networkReceive
           singleReplace := methods .singleReplace
           globalReplace := methods .globalReplace }

/-- A name without the marks of symbols and instance variables in front, and those of predicates,
changing methods and setters behind. -/
def bareName (name : String) : String :=
  let front := name.toList.dropWhile fun c ↦ c = ':' || c = '@'
  String.ofList (front.reverse.dropWhile fun c ↦ c = '!' || c = '?' || c = '=').reverse

variable (t : NameTables)

def isSensitiveName (name : String) : Bool :=
  let name := bareName name
  !name.isEmpty && !t.notSensitive.isMatch name &&
    ((t.password.isMatch name && !t.passwordExclusion.isMatch name) || t.credential.isMatch name)

def isSensitiveType (name : String) : Bool :=
  t.password.isMatch name || t.credential.isMatch name

def isNotSensitiveName (name : String) : Bool :=
  t.notSensitive.isMatch (bareName name)

def isCryptoName (name : String) : Bool :=
  let name := bareName name
  t.crypto.isMatch name && !t.cryptoExclusion.isMatch name

def isLoggerReceiver (name : String) : Bool :=
  t.loggerReceiver.isMatch name

def isLogMethod (name : String) : Bool :=
  t.log.contains name

/-- Whether a method sends or receives; a name in both lists sends. -/
def networkConcept? (name : String) : Option Concept :=
  if t.networkSend.contains name then some .networkSend
  else if t.networkReceive.contains name then some .networkReceive
  else none

/-- Whether a method replaces once or everywhere; a name in both lists replaces once. -/
def replaceKind? (name : String) : Option ReplaceKind :=
  if t.singleReplace.contains name then some .single
  else if t.globalReplace.contains name then some .global
  else none

end NameTables

end TaintFlow
