/-
  Region routing — configuration files.

  A configuration is read from a file in TOML or JSON; the extension of the
  file's name says which, whatever its case.  Fields that are missing have
  their defaults, but a retry budget must be complete.
-/
import RegionRouting.Serialized
import RegionRouting.Toml.Field

namespace RegionRouting

/-! ## Configurations in TOML -/

/-- The retry budget that a value describes. -/
def BackoffConfig.ofToml? (value : Toml.Value) : Option BackoffConfig := do
  match ← value.fields? ["max_attempts", "base_ms", "max_sleep_ms", "total_budget_ms"] with
  | [attempts, base, sleep, budget] =>
    return ⟨← attempts.uint32?, ← base.uint64?, ← sleep.uint64?, ← budget.uint64?⟩
  | _ => none

/-- The configuration that a document describes. -/
def RoutingConfig.ofToml? (document : Toml.Entries) : Option RoutingConfig := do
  let base : RoutingConfig := {}
  let field {α : Type} (name : String) (default : α) (read : Toml.Value → Option α) : Option α :=
    match document.lookup name with
    | none => some default
    | some value => read value
  return {
    healthCheckIntervalSecs :=
      ← field "health_check_interval_secs" base.healthCheckIntervalSecs Toml.Value.uint64?
    enableForwarding := ← field "enable_forwarding" base.enableForwarding Toml.Value.bool?
    defaultSelector := ← field "default_selector" base.defaultSelector Toml.Value.named?
    backoff := ← field "backoff" base.backoff BackoffConfig.ofToml? }

/-! ## Files -/

namespace ConfigFile

/-- Why a configuration file was not loaded. -/
inductive LoadError where
  /-- there is no such file, or it holds no text -/
  | unreadable
  | json
  | toml
  /-- the extension is neither of the two -/
  | unsupported (extension : String)
  deriving DecidableEq

def LoadError.message : LoadError → String
  | unreadable => "Unreadable config file"
  | json => "Invalid JSON in config file"
  | toml => "Invalid TOML in config file"
  | unsupported ext => s!"Unsupported config file extension: {ext}"

/-- What follows the last dot of a file's name, unless that dot is missing or
    begins the name. -/
def extension (name : List Char) : List Char :=
  let after := (name.reverse.takeWhile (· != '.')).reverse
  if after.length + 1 < name.length then after else []

/-- Reads a configuration from a text in the format of an extension.  Letters
    beyond ASCII need no care: none has a lower case within either name. -/
def parse (ext : List Char) (text : String) : Except LoadError RoutingConfig :=
  match String.ofList (ext.map Char.toLower) with
  | "toml" =>
    match Toml.Document.parse? text >>= RoutingConfig.ofToml? with
    | some config => .ok config
    | none => .error .toml
  | "json" =>
    match Json.Serial.parse? RoutingConfig text with
    | some config => .ok config
    | none => .error .json
  | _ => .error (.unsupported (String.ofList ext))

/-- Loads a configuration from a file with a name and, if the file exists, its
    content. -/
def load (name : String) (content : Option ByteArray) : Except LoadError RoutingConfig :=
  match content.bind String.fromUTF8? with
  | none => .error .unreadable
  | some text => parse (extension name.toList) text

end ConfigFile
end RegionRouting
