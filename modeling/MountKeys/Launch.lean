import MountKeys.Api.Client
import MountKeys.Command
import MountKeys.CommandLine
import MountKeys.Log.Filter
import MountKeys.Settings

/-!
# From a command line to a session

Flags go over the variables of the environment, and those over the defaults.  What is left is a
command with its task, or an end before any command ran.
-/

namespace MountKeys

/-- The settings with flags over them; a format that is none is refused. -/
def Settings.withFlags (s : Settings) (flags : Flags) : Except LogFormat.Unknown Settings :=
  let s :=
    { s with
      names :=
        { ns := (flags.text? .ns).getD s.names.ns
          secret := (flags.text? .secretName).getD s.names.secret
          configMap := (flags.text? .configMapName).getD s.names.configMap }
      keyDir := ((flags.bytes? .keyDir).map Path.mk).getD s.keyDir
      logLevel := (flags.text? .logLevel).getD s.logLevel }
  match flags.text? .logFormat with
  | none => .ok s
  | some text => (LogFormat.read text).map fun format => { s with logFormat := format }

/-- A command that is ready to run. -/
structure Launch where
  command : Command
  task : Task
  settings : Settings
  /-- What is logged. -/
  filter : Filter

namespace Launch

/-- The outcome of a command line that ends before its command. -/
def ofStop : CommandLine.Stop → Outcome
  | .error e => ⟨2, "", s!"error: {e.message}\n\nFor more information, try '--help'.\n"⟩
  | .help topic => .success (Help.text topic)
  | .version long => .success (Help.versionText long)

/-- What a command line comes to. -/
def ofArguments (args : List Bytes) (env : Environment) (programDir : Option Path) :
    Except Outcome Launch :=
  match CommandLine.read args with
  | .error stop => .error (ofStop stop)
  | .ok invocation =>
    match (Settings.ofLookup programDir env.lookup).withFlags invocation.flags with
    | .error e => .error (.failure "" (.plain e.message))
    | .ok settings =>
      .ok
        { command := invocation.command
          task := ⟨settings.names, settings.keyFiles, invocation.flags.text? .context⟩
          settings
          filter := .ofSettings (env.lookup "RUST_LOG") settings.logLevel }

/-- The session of a command. -/
def session (l : Launch) (files : Files) (config : Kubeconfig) : Session Outcome :=
  match l.command with
  | .apply => Command.runApply l.task files config
  | .render => Command.runRender l.task files
  | .status => Command.runStatus l.task files config

/-- Whether a notice goes to the log. -/
def logs (l : Launch) (n : Notice) : Bool :=
  l.filter.allows n.scope n.level n.span

end Launch

/-- Send a request, and log that and whether there is no answer. -/
def Client.reporting (q : Request) : Exchange Reply := do
  Dialogue.log .requesting
  match ← (Dialogue.send q : Exchange Reply) with
  | .failed reason =>
    Dialogue.log (.unreachable reason)
    return .failed reason
  | .answered status body => return .answered status body

/-- A session with an API server in which failed connections are logged. -/
def Client.reportedSession (s : Session α) : Exchange α :=
  (Client.session s).expand Client.reporting

/-- The server that cannot be connected to. -/
def Reply.unreachable : Handler Request (fun _ => Reply) Unit :=
  fun _ s => (.failed "client error (Connect)", s)

end MountKeys
