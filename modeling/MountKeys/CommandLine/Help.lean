import MountKeys.CommandLine.Flag

/-!
# Help

What the program prints when it is asked what it can do.
-/

namespace MountKeys.Help

/-- What help can be about. -/
inductive Topic
  /-- The program as a whole. -/
  | program
  | command (c : Command)
  /-- Help itself. -/
  | help
  deriving DecidableEq, Repr

/-- The name of the program. -/
def programName : String := "sshfs-keysync"

/-- Lines, each with its end. -/
def lines (ls : List String) : String :=
  String.join (ls.map (· ++ "\n"))

/-- The lines for an option. -/
def optionLines (short? : Option Char) (label about : String) : List String :=
  let letter :=
    match short? with
    | some c => "-" ++ String.singleton c ++ ", "
    | none => "    "
  ["  " ++ letter ++ label, "          " ++ about]

/-- The lines for all flags and for help. -/
def flagLines : List String :=
  (Flag.all.flatMap fun f => optionLines f.short? f.label f.about) ++
    optionLines (some 'h') "--help" "Print help"

/-- The line for a command, its word filled up to the longest. -/
def commandLine (word about : String) : String :=
  "  " ++ word ++ String.ofList (List.replicate (6 - word.length) ' ') ++ "  " ++ about

/-- What help says about itself. -/
def aboutHelp : String := "Print this message or the help of the given subcommand(s)"

/-- Help on the program. -/
def programLines : List String :=
  ["Reconcile the SSHFS key Secret and public-key ConfigMap", "",
    "Usage: " ++ programName ++ " [OPTIONS] [COMMAND]", "", "Commands:"] ++
  Command.all.map (fun c => commandLine c.word c.about) ++
  [commandLine "help" aboutHelp, "", "Options:"] ++ flagLines ++
  optionLines (some 'V') "--version" "Print version" ++
  ["",
    "Defaults can also be set through the environment:",
    "  K8S_NAMESPACE, SSH_KEY_SECRET_NAME, SSH_PUBLIC_KEY_CONFIGMAP_NAME,",
    "  SSH_KEY_DIR, SSH_PRIVATE_KEY_FILE, SSH_PUBLIC_KEY_FILE, LOG_LEVEL, LOG_FORMAT",
    "",
    "Examples:",
    "  sshfs-keysync",
    "  sshfs-keysync render > keys.yaml",
    "  sshfs-keysync status --namespace swlabpods"]

/-- Help on a topic. -/
def text : Topic → String
  | .program => lines programLines
  | .command c =>
    lines ([c.about, "", "Usage: " ++ programName ++ " " ++ c.word ++ " [OPTIONS]", "",
      "Options:"] ++ flagLines)
  | .help =>
    lines [aboutHelp, "", "Usage: " ++ programName ++ " help [COMMAND]...", "", "Arguments:",
      "  [COMMAND]...  Print help for the subcommand(s)"]

/-- The version of the program. -/
def version : String := "0.1.0"

/-- What the program was built from, and when. -/
def build : String := "0racle0, built 2026-01-02 03:04:05 UTC"

/-- The version as it is printed, at length or not. -/
def versionText (long : Bool) : String :=
  programName ++ " " ++ version ++ (if long then " (" ++ build ++ ")" else "") ++ "\n"

end MountKeys.Help
