import MountKeys.Utf8

/-!
# Commands and flags

What may be asked of the program on its command line.  The flags belong to the program and to each
of its commands.
-/

namespace MountKeys

/-- What the program does. -/
inductive Command
  | apply
  | render
  | status
  deriving DecidableEq, Repr

namespace Command

/-- The word for the command. -/
def word : Command → String
  | .apply => "apply"
  | .render => "render"
  | .status => "status"

/-- What the command does, in a line. -/
def about : Command → String
  | .apply => "Create or replace the Secret and ConfigMap from the local key files"
  | .render => "Print the Secret and ConfigMap that \x60apply\x60 would submit, as YAML"
  | .status => "Show what the cluster holds and whether it matches the local key files"

/-- All commands. -/
def all : List Command :=
  [.apply, .render, .status]

end Command

/-- A flag with a value. -/
inductive Flag
  /-- The namespace. -/
  | ns
  | context
  | keyDir
  | secretName
  | configMapName
  | logLevel
  | logFormat
  deriving DecidableEq, Repr

namespace Flag

/-- The long name. -/
def long : Flag → String
  | .ns => "namespace"
  | .context => "context"
  | .keyDir => "key-dir"
  | .secretName => "secret-name"
  | .configMapName => "configmap-name"
  | .logLevel => "log-level"
  | .logFormat => "log-format"

/-- The letter. -/
def short? : Flag → Option Char
  | .ns => some 'n'
  | _ => none

/-- What the value is called. -/
def valueName : Flag → String
  | .ns => "NAMESPACE"
  | .context => "CONTEXT"
  | .keyDir => "DIR"
  | .secretName => "SECRET_NAME"
  | .configMapName => "CONFIG_MAP_NAME"
  | .logLevel => "LOG_LEVEL"
  | .logFormat => "LOG_FORMAT"

/-- What the flag sets, in a line. -/
def about : Flag → String
  | .ns => "Target namespace (default: swlabpods)"
  | .context => "Kubernetes context to use (defaults to the current context)"
  | .keyDir => "Directory containing the key files (default: directory of this executable)"
  | .secretName => "Secret name (default: backend-ssh-key)"
  | .configMapName => "ConfigMap name (default: backend-public-key)"
  | .logLevel => "Log level: error, warn, info, debug, trace"
  | .logFormat => "Log format: text or json"

/-- All flags. -/
def all : List Flag :=
  [.ns, .context, .keyDir, .secretName, .configMapName, .logLevel, .logFormat]

/-- The flag as messages show it. -/
def label (f : Flag) : String :=
  s!"--{f.long} <{f.valueName}>"

/-- Whether the value may be bytes that are no text; such a value is not empty. -/
def takesBytes : Flag → Bool
  | .keyDir => true
  | _ => false

end Flag

/-- The flags that were given, with their values; of two for one flag the first counts. -/
abbrev Flags := List (Flag × Bytes)

namespace Flags

/-- The value of a flag. -/
def bytes? (flags : Flags) (f : Flag) : Option Bytes :=
  (flags.find? fun g => g.1 == f).map Prod.snd

/-- The value of a flag whose values are text. -/
def text? (flags : Flags) (f : Flag) : Option String :=
  (flags.bytes? f).bind Utf8.decode?

end Flags

end MountKeys
