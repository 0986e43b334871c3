import MountKeys.Launch
import MountKeys.Log.Line

/-!
# The program

What is left when everything else is a value: the arguments, the variables and the two key files are
read, the session is held, its log and its outcome are printed.  The program carries no client for
a network, so that it knows of no cluster: `render` does all it should, and the other commands end
where they would connect.
-/

namespace MountKeys

/-- The variables that the program looks at. -/
def variableNames : List String :=
  ["K8S_NAMESPACE", "SSH_KEY_SECRET_NAME", "SSH_PUBLIC_KEY_CONFIGMAP_NAME", "SSH_KEY_DIR",
    "SSH_PRIVATE_KEY_FILE", "SSH_PUBLIC_KEY_FILE", "LOG_LEVEL", "LOG_FORMAT", "RUST_LOG"]

/-- The variables of this process. -/
def currentEnvironment : IO Environment :=
  variableNames.filterMapM fun name => do
    return (← IO.getEnv name).map fun value => (name, textBytes value)

/-- The directory of this program. -/
def programDir : IO (Option Path) := do
  try
    return (← IO.appPath).parent.map fun dir => Path.ofText dir.toString
  catch _ =>
    return none

/-- The cause that a code of the system stands for.  Some codes come with their sign changed. -/
def FileFault.ofCode (code : UInt32) (details : String) : FileFault :=
  match (min code (-code)).toNat with
  | 20 => .notADirectory
  | 21 => .notRegular
  | 36 => .nameTooLong
  | 40 => .tooManyLinks
  | _ => .other details

/-- The cause behind an error of the system. -/
def FileFault.ofError : IO.Error → FileFault
  | .noFileOrDirectory .. => .notFound
  | .inappropriateType _ code details | .invalidArgument _ code details => .ofCode code details
  | e => .other (toString e)

/-- The file at a path.  Permissions are not asked for: the file counts as its owner's alone. -/
def readFile (p : Path) : IO (Except FileFault File) := do
  if p.bytes.contains 0 then return .error .zeroByte
  match Utf8.decode? p.bytes with
  | none => return .error .notFound
  | some name =>
    try
      return .ok ⟨0o600, (← IO.FS.readBinFile name).toList⟩
    catch e =>
      return .error (.ofError e)

/-- The two key files, as far as they can be read. -/
def readKeyFiles (paths : KeyFiles) : IO Files := do
  let privateFile ← readFile paths.privateKey
  let publicFile ← readFile paths.publicKey
  return fun p => if p = paths.privateKey then privateFile else publicFile

/-- Print an outcome and give its exit code. -/
def Outcome.print (o : Outcome) : IO UInt32 := do
  IO.print o.stdout
  IO.eprint o.stderr
  return o.exitCode.toUInt32

/-- Hold the session of a launch. -/
def Launch.execute (l : Launch) : IO UInt32 := do
  let files ← readKeyFiles l.task.keyFiles
  let r := (Client.reportedSession (l.session files .missing)).run Reply.unreachable ()
  for n in r.notices.filter l.logs do
    IO.eprintln (l.settings.logFormat.line n)
  r.value.print

end MountKeys

/-- The program. -/
def main (args : List String) : IO UInt32 := do
  match MountKeys.Launch.ofArguments (args.map MountKeys.textBytes)
      (← MountKeys.currentEnvironment) (← MountKeys.programDir) with
  | .error outcome => outcome.print
  | .ok launch => launch.execute
