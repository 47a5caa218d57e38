import TaintFlow.Error
import TaintFlow.Json.Record
import TaintFlow.Pattern.Reader

namespace TaintFlow

inductive PatternSlot where
  | password
  | passwordExclusion
  | credential
  | notSensitive
  | crypto
  | cryptoExclusion
  | loggerReceiver
deriving DecidableEq, Repr

namespace PatternSlot

def all : List PatternSlot :=
  [password, passwordExclusion, credential, notSensitive, crypto, cryptoExclusion, loggerReceiver]

def name : PatternSlot → String
  | password => "password_pattern"
  | passwordExclusion => "password_exclusion_pattern"
  | credential => "credential_pattern"
  | notSensitive => "not_sensitive_pattern"
  | crypto => "crypto_pattern"
  | cryptoExclusion => "crypto_exclusion_pattern"
  | loggerReceiver => "logger_receiver_pattern"

def builtin : PatternSlot → String
  | password => "(?i)pass(wd|word|phrase)"
  | passwordExclusion => "(?i)question"
  | credential =>
    "(?i)(secret|token|api_?key|private_?key|credential|certificate|auth_?key)"
  | notSensitive =>
    "(?i)([^\\w$.-]|redact|censor|obfuscate|hash|md5|sha|random|crypt|code|mask)"
  | crypto => "(?i)(encrypt|cipher|crypt|hash|digest|hmac|sha\\d*|md5|pbkdf2|argon2)"
  | cryptoExclusion => "(?i)(decrypt|decipher)"
  | loggerReceiver => "(?i)^.*log(ger)?$"

end PatternSlot

inductive MethodSlot where
  | log
  | networkSend
  | networkReceive
  | singleReplace
  | globalReplace
deriving DecidableEq, Repr

namespace MethodSlot

def all : List MethodSlot :=
  [log, networkSend, networkReceive, singleReplace, globalReplace]

def name : MethodSlot → String
  | log => "log_methods"
  | networkSend => "network_send_methods"
  | networkReceive => "network_receive_methods"
  | singleReplace => "single_replace_methods"
  | globalReplace => "global_replace_methods"

def builtin : MethodSlot → List String
  | log => ["info", "debug", "warn", "warning", "error", "log"]
  | networkSend =>
    ["send", "sendto", "sendmsg", "write", "syswrite", "write_nonblock", "puts", "print"]
  | networkReceive =>
    ["recv", "recvfrom", "recvmsg", "recv_nonblock", "read", "sysread", "read_nonblock"]
  | singleReplace => ["sub", "sub!", "replace_first"]
  | globalReplace => ["gsub", "gsub!", "replace_all"]

end MethodSlot

structure NameOverrides where
  password : Option String := none
  passwordExclusion : Option String := none
  credential : Option String := none
  notSensitive : Option String := none
  crypto : Option String := none
  cryptoExclusion : Option String := none
  loggerReceiver : Option String := none
  log : Option (List String) := none
  networkSend : Option (List String) := none
  networkReceive : Option (List String) := none
  singleReplace : Option (List String) := none
  globalReplace : Option (List String) := none
deriving DecidableEq, Repr

namespace NameOverrides

variable (o : NameOverrides)

def pattern? : PatternSlot → Option String
  | .password => o.password
  | .passwordExclusion => o.passwordExclusion
  | .credential => o.credential
  | .notSensitive => o.notSensitive
  | .crypto => o.crypto
  | .cryptoExclusion => o.cryptoExclusion
  | .loggerReceiver => o.loggerReceiver

def methods? : MethodSlot → Option (List String)
  | .log => o.log
  | .networkSend => o.networkSend
  | .networkReceive => o.networkReceive
  | .singleReplace => o.singleReplace
  | .globalReplace => o.globalReplace

def ofSlots (pattern? : PatternSlot → Option String)
    (methods? : MethodSlot → Option (List String)) : NameOverrides where
  password := pattern? .password
  passwordExclusion := pattern? .passwordExclusion
  credential := pattern? .credential
  notSensitive := pattern? .notSensitive
  crypto := pattern? .crypto
  cryptoExclusion := pattern? .cryptoExclusion
  loggerReceiver := pattern? .loggerReceiver
  log := methods? .log
  networkSend := methods? .networkSend
  networkReceive := methods? .networkReceive
  singleReplace := methods? .singleReplace
  globalReplace := methods? .globalReplace

def patterns : List (String × String) :=
  PatternSlot.all.filterMap fun slot ↦ (o.pattern? slot).map (slot.name, ·)

def methods : List (String × List String) :=
  MethodSlot.all.filterMap fun slot ↦ (o.methods? slot).map (slot.name, ·)

def compile (name pattern : String) : Except SettingsError Pattern :=
  match Pattern.read? pattern with
  | some p => .ok p
  | none => .error (.invalidPattern name pattern "not a pattern")

/-- Refuses the first pattern that cannot be read, and an empty list of logging methods. -/
def validate : Except SettingsError Unit := do
  o.patterns.forM fun (name, pattern) ↦ discard (compile name pattern)
  if o.log = some [] then
    throw (.invalid "log_methods must not be empty; omit it to keep the defaults")

def toJson : Json :=
  .object (o.patterns.map (fun (name, pattern) ↦ (name, .string pattern)) ++
    o.methods.map fun (name, methods) ↦ (name, .ofList .string methods))

def ofJson? (j : Json) : Option NameOverrides := do
  let fields ← j.fields? (PatternSlot.all.map (·.name) ++ MethodSlot.all.map (·.name)) true
  let patterns ← PatternSlot.all.mapM fun slot ↦
    return (slot, ← fields.optional slot.name none (Json.nullable Json.string?))
  let methods ← MethodSlot.all.mapM fun slot ↦
    return (slot, ← fields.optional slot.name none (Json.nullable (Json.list? Json.string?)))
  return ofSlots (fun slot ↦ (patterns.lookup slot).join)
    (fun slot ↦ (methods.lookup slot).join)

end NameOverrides

end TaintFlow
