import MountKeys.Keys.Load
import MountKeys.Log.Format
import MountKeys.Names

/-!
# Settings

What a run works on, from variables of the environment with a default for each.  `Settings.ofLookup`
takes the variables from anywhere; `Environment` is where a process has them.
-/

namespace MountKeys

/-- Everything that can be set. -/
structure Settings where
  names : Names
  /-- The directory of the key files. -/
  keyDir : Path
  privateFile : String
  publicFile : String
  logLevel : String
  logFormat : LogFormat
  deriving DecidableEq

namespace Settings

/-- The directory of the key files where the one of the program is not known. -/
def fallbackKeyDir : Path :=
  .ofText "."

/-- The settings of a program in a directory when nothing is set. -/
def standard (programDir : Option Path) : Settings where
  names := .standard
  keyDir := programDir.getD fallbackKeyDir
  privateFile := "backend_ssh_key"
  publicFile := "backend_ssh_key.pub"
  logLevel := "INFO"
  logFormat := .text

/-- The format that a variable sets; a text that names none counts as not set. -/
def formatOf (setting : Option String) : LogFormat :=
  match setting.map LogFormat.read with
  | some (.ok format) => format
  | _ => .text

/-- The settings that variables make, each one over its default. -/
def ofLookup (programDir : Option Path) (lookup : String → Option String) : Settings :=
  let default := standard programDir
  { names :=
      { ns := (lookup "K8S_NAMESPACE").getD default.names.ns
        secret := (lookup "SSH_KEY_SECRET_NAME").getD default.names.secret
        configMap := (lookup "SSH_PUBLIC_KEY_CONFIGMAP_NAME").getD default.names.configMap }
    keyDir := ((lookup "SSH_KEY_DIR").map Path.ofText).getD default.keyDir
    privateFile := (lookup "SSH_PRIVATE_KEY_FILE").getD default.privateFile
    publicFile := (lookup "SSH_PUBLIC_KEY_FILE").getD default.publicFile
    logLevel := (lookup "LOG_LEVEL").getD default.logLevel
    logFormat := formatOf (lookup "LOG_FORMAT") }

/-- Where the key files are. -/
def keyFiles (s : Settings) : KeyFiles where
  privateKey := s.keyDir.join (.ofText s.privateFile)
  publicKey := s.keyDir.join (.ofText s.publicFile)

end Settings

/-- The variables of a process, by name.  A value is any bytes. -/
abbrev Environment := List (String × Bytes)

namespace Environment

/-- The value of a variable, if it is text; one that is not counts as not set. -/
def lookup (env : Environment) (name : String) : Option String :=
  (env.find? fun e => e.1 == name).bind fun e => Utf8.decode? e.2

end Environment

end MountKeys
