import MountKeys.Launch
import MountKeys.Proofs.CommandLine

/-!
# Where settings come from

Flags go over variables, and variables over defaults.  `Setting.due` is that rule, for flags and
variables that hold any bytes.  A launch has what the rule gives without the variables that are not
text (`Launch.bytes_settings`), so that it follows the rule exactly if no such variable decides
(`settings_precedence`).

`Settings.ofLookup` puts variables over defaults and `Settings.withFlags` puts flags over both.
Either takes a text or else what is below it; `map_textBytes_bind` says which bytes that text has.
-/

namespace MountKeys

/-! ## Settings one by one -/

/-- A setting other than the format of the log. -/
inductive Setting
  /-- The namespace. -/
  | ns
  | secretName
  | configMapName
  | keyDir
  | privateFile
  | publicFile
  | logLevel
  deriving DecidableEq, Repr

/-- The value of a variable, whatever its bytes. -/
def Environment.value? (env : Environment) (name : String) : Option Bytes :=
  (env.find? fun e => e.1 == name).map Prod.snd

/-- The variables but one. -/
def Environment.without (env : Environment) (name : String) : Environment :=
  env.filter fun e => e.1 != name

namespace Setting

/-- The flag for a setting, if it has one. -/
def flag? : Setting → Option Flag
  | .ns => some .ns
  | .secretName => some .secretName
  | .configMapName => some .configMapName
  | .keyDir => some .keyDir
  | .privateFile => none
  | .publicFile => none
  | .logLevel => some .logLevel

/-- The variable for a setting. -/
def variableName : Setting → String
  | .ns => "K8S_NAMESPACE"
  | .secretName => "SSH_KEY_SECRET_NAME"
  | .configMapName => "SSH_PUBLIC_KEY_CONFIGMAP_NAME"
  | .keyDir => "SSH_KEY_DIR"
  | .privateFile => "SSH_PRIVATE_KEY_FILE"
  | .publicFile => "SSH_PUBLIC_KEY_FILE"
  | .logLevel => "LOG_LEVEL"

/-- What a setting is when nothing sets it, for a program in a directory. -/
def standard (programDir : Option Path) : Setting → Bytes
  | .ns => textBytes "swlabpods"
  | .secretName => textBytes "backend-ssh-key"
  | .configMapName => textBytes "backend-public-key"
  | .keyDir => (programDir.map Path.bytes).getD (textBytes ".")
  | .privateFile => textBytes "backend_ssh_key"
  | .publicFile => textBytes "backend_ssh_key.pub"
  | .logLevel => textBytes "INFO"

/-- What a setting is, in bytes. -/
def bytes (s : Settings) : Setting → Bytes
  | .ns => textBytes s.names.ns
  | .secretName => textBytes s.names.secret
  | .configMapName => textBytes s.names.configMap
  | .keyDir => s.keyDir.bytes
  | .privateFile => textBytes s.privateFile
  | .publicFile => textBytes s.publicFile
  | .logLevel => textBytes s.logLevel

/-- The setting that names the file of one half of a key pair. -/
def file : KeyHalf → Setting
  | .privateKey => .privateFile
  | .publicKey => .publicFile

/-- What flags give for a setting. -/
def given? (flags : Flags) (x : Setting) : Option Bytes :=
  x.flag?.bind flags.bytes?

/-- What a setting is to be: what its flag gives, else what its variable holds, else what it is when
nothing sets it. -/
def due (programDir : Option Path) (flags : Flags) (env : Environment) (x : Setting) : Bytes :=
  ((x.given? flags).or (env.value? x.variableName)).getD (x.standard programDir)

end Setting

/-! ## Variables -/

/-- Whether bytes are a text. -/
def isText (value : Bytes) : Bool :=
  (Utf8.decode? value).isSome

theorem isText_iff {value : Bytes} : isText value = true ↔ value.toByteArray.IsValidUTF8 :=
  Utf8.decode?_isSome_iff

/-- The text in a value has the bytes of the value, and a value that is no text is lost. -/
theorem map_textBytes_bind (value : Option Bytes) :
    (value.bind Utf8.decode?).map textBytes = value.filter isText := by
  cases value with
  | none => rfl
  | some v =>
    rw [Option.bind_some, Option.filter_some, isText]
    cases decoded : Utf8.decode? v with
    | none => rfl
    | some text => simp [Utf8.textBytes_of_decode? decoded]

namespace Environment

variable (env : Environment) (name : String)

theorem lookup_eq : env.lookup name = (env.value? name).bind Utf8.decode? := by
  rw [lookup, value?]
  cases env.find? fun e => e.1 == name <;> rfl

theorem map_textBytes_lookup :
    (env.lookup name).map textBytes = (env.value? name).filter isText := by
  rw [lookup_eq, map_textBytes_bind]

theorem value?_without (other : String) :
    (env.without name).value? other = if other = name then none else env.value? other := by
  rw [value?, value?, without, List.find?_filter]
  split
  next same =>
    subst same
    simp
  next differs =>
    congr 2
    funext e
    by_cases h : e.1 = other <;> simp [h, differs]

variable {env name}

/-- A variable that holds no text might as well not be set. -/
theorem lookup_without {value : Bytes} (held : env.value? name = some value)
    (noText : ¬value.toByteArray.IsValidUTF8) : (env.without name).lookup = env.lookup := by
  rw [← isText_iff, isText, Option.not_isSome_iff_eq_none] at noText
  funext other
  rw [lookup_eq, lookup_eq, value?_without]
  split
  next same => rw [same, held, Option.bind_some, noText, Option.bind_none]
  next => rfl

end Environment

/-! ## Flags over variables over defaults -/

/-- The text of a flag that has one is the value of the flag. -/
theorem Flags.map_textBytes_text? {flags : Flags} (fit : flags.Fit) {f : Flag}
    (text : f.takesBytes = false) : (flags.text? f).map textBytes = flags.bytes? f := by
  rw [text?, map_textBytes_bind]
  cases given : flags.bytes? f with
  | none => rfl
  | some value =>
    have takes := fit _ (mem_of_bytes? given)
    rw [Flag.Takes, text, if_neg Bool.false_ne_true] at takes
    rw [Option.filter_some, isText, takes, if_pos rfl]

/-- A format of the log is named by its flag, if that is given. -/
def Flags.NamesFormat (flags : Flags) : Prop :=
  ∀ text, flags.text? .logFormat = some text → ∃ format, LogFormat.read text = .ok format

namespace Settings

variable {s s' : Settings} {flags : Flags}

/-- All that flags do to settings. -/
theorem withFlags_cases (h : s.withFlags flags = .ok s') :
    ∃ format, s' =
      { names :=
          { ns := (flags.text? .ns).getD s.names.ns
            secret := (flags.text? .secretName).getD s.names.secret
            configMap := (flags.text? .configMapName).getD s.names.configMap }
        keyDir := ((flags.bytes? .keyDir).map Path.mk).getD s.keyDir
        privateFile := s.privateFile
        publicFile := s.publicFile
        logLevel := (flags.text? .logLevel).getD s.logLevel
        logFormat := format } := by
  rw [withFlags] at h
  dsimp only at h
  split at h
  next => exact ⟨_, (Except.ok.inj h).symm⟩
  next text _ =>
    cases read : LogFormat.read text with
    | error e =>
      rw [read] at h
      cases h
    | ok format =>
      rw [read] at h
      exact ⟨format, (Except.ok.inj h).symm⟩

/-- Flags go over settings exactly if they name a format. -/
theorem withFlags_ok_iff : (∃ s', s.withFlags flags = .ok s') ↔ flags.NamesFormat := by
  rw [withFlags, Flags.NamesFormat]
  dsimp only
  cases flags.text? .logFormat with
  | none => simp
  | some text => cases read : LogFormat.read text <;> simp [read, Except.map]

end Settings

namespace Setting

/-- Variables that are text go over the defaults. -/
theorem bytes_ofLookup (programDir : Option Path) (env : Environment) (x : Setting) :
    x.bytes (.ofLookup programDir env.lookup) =
      ((env.value? x.variableName).filter isText).getD (x.standard programDir) := by
  rw [← Environment.map_textBytes_lookup]
  cases x
  -- The directory is a path on either side, so that only the variable is read as text.
  case keyDir =>
    have default : (programDir.getD Settings.fallbackKeyDir).bytes =
        standard programDir .keyDir := by
      cases programDir <;> rfl
    rw [← default]
    change (((env.lookup "SSH_KEY_DIR").map Path.ofText).getD _).bytes =
      ((env.lookup "SSH_KEY_DIR").map textBytes).getD _
    cases env.lookup "SSH_KEY_DIR" <;> rfl
  all_goals exact (Option.getD_map textBytes _ _).symm

/-- Flags go over any settings. -/
theorem bytes_withFlags {s s' : Settings} {flags : Flags} (fit : flags.Fit)
    (h : s.withFlags flags = .ok s') (x : Setting) :
    x.bytes s' = (x.given? flags).getD (x.bytes s) := by
  -- A value that is no text would be passed over here too, but a flag for text never has one.
  have goesOver {f : Flag} (text : f.takesBytes = false) (below : String) :
      textBytes ((flags.text? f).getD below) = (flags.bytes? f).getD (textBytes below) := by
    rw [← Flags.map_textBytes_text? fit text, Option.getD_map]
  obtain ⟨format, rfl⟩ := Settings.withFlags_cases h
  cases x
  case keyDir =>
    change (((flags.bytes? .keyDir).map Path.mk).getD s.keyDir).bytes =
      (flags.bytes? .keyDir).getD s.keyDir.bytes
    cases flags.bytes? .keyDir <;> rfl
  case privateFile => rfl
  case publicFile => rfl
  all_goals exact goesOver rfl _

end Setting

/-! ## Launches -/

namespace Launch

variable {args : List Bytes} {env : Environment} {programDir : Option Path}
  {invocation : CommandLine.Invocation} {l : Launch}

/-- All that a launch consists of. -/
theorem ofArguments_eq_ok_iff (read : CommandLine.read args = .ok invocation) :
    ofArguments args env programDir = .ok l ↔
      ∃ settings,
        (Settings.ofLookup programDir env.lookup).withFlags invocation.flags = .ok settings ∧
        l =
          { command := invocation.command
            task := ⟨settings.names, settings.keyFiles, invocation.flags.text? .context⟩
            settings
            filter := .ofSettings (env.lookup "RUST_LOG") settings.logLevel } := by
  rw [ofArguments, read]
  dsimp only
  split
  next failed => simp [failed]
  next settings made => simp [made, eq_comm]

/-- Whether there is a launch is up to the flags. -/
theorem ofArguments_ok_iff (read : CommandLine.read args = .ok invocation) :
    (∃ l, ofArguments args env programDir = .ok l) ↔ invocation.flags.NamesFormat := by
  simp only [ofArguments_eq_ok_iff read, ← Settings.withFlags_ok_iff
    (s := Settings.ofLookup programDir env.lookup)]
  exact ⟨fun ⟨_, s, made, _⟩ => ⟨s, made⟩, fun ⟨s, made⟩ => ⟨_, s, made, rfl⟩⟩

/-- What a launch has of a setting: what its flag gives, else what its variable holds if that is
text, else what it is when nothing sets it. -/
theorem bytes_settings (read : CommandLine.read args = .ok invocation)
    (h : ofArguments args env programDir = .ok l) (x : Setting) :
    x.bytes l.settings =
      ((x.given? invocation.flags).or ((env.value? x.variableName).filter isText)).getD
        (x.standard programDir) := by
  obtain ⟨settings, made, rfl⟩ := (ofArguments_eq_ok_iff read).1 h
  rw [Option.getD_or, ← Setting.bytes_ofLookup,
    ← Setting.bytes_withFlags (CommandLine.read_fit read) made]

/-- A variable that holds no text might as well not be set, and nothing is said of it. -/
theorem ofArguments_without {name : String} {value : Bytes} (held : env.value? name = some value)
    (noText : ¬value.toByteArray.IsValidUTF8) :
    ofArguments args (env.without name) programDir = ofArguments args env programDir := by
  rw [ofArguments, ofArguments, Environment.lookup_without held noText]

end Launch

/-! ## Key files -/

namespace KeyFiles

variable {paths : KeyFiles} {files files' : Files}

/-- The keys that are loaded are in the two files. -/
theorem load_half {keys : KeyPair} {notices : List Notice}
    (loaded : paths.load files = .ok (keys, notices)) (half : KeyHalf) :
    ∃ file, files (paths.half half) = .ok file ∧ keys.half half = file.data := by
  have found {half : KeyHalf} {file : File} (h : paths.read files half = .ok file) :
      files (paths.half half) = .ok file := by
    rw [read] at h
    split at h
    next read =>
      cases h
      exact read
    next => cases h
  rw [load] at loaded
  split at loaded
  next => cases loaded
  next privateFile privateRead =>
    split at loaded
    next => cases loaded
    next publicFile publicRead =>
      cases loaded
      cases half with
      | privateKey => exact ⟨privateFile, found privateRead, rfl⟩
      | publicKey => exact ⟨publicFile, found publicRead, rfl⟩

/-- No other file is looked at. -/
theorem load_congr (same : ∀ half, files (paths.half half) = files' (paths.half half)) :
    paths.load files = paths.load files' := by
  simp only [load, read, same]

end KeyFiles

namespace Launch

/-- What a command does rests on the two key files only. -/
theorem session_congr (l : Launch) {files files' : Files}
    (same : ∀ half, files (l.task.keyFiles.half half) = files' (l.task.keyFiles.half half))
    (config : Kubeconfig) : l.session files config = l.session files' config := by
  have loads := KeyFiles.load_congr same
  have prepares : Command.prepare l.task files = Command.prepare l.task files' := by
    rw [Command.prepare, Command.prepare, loads]
  simp only [session, Command.runApply, Command.runRender, Command.runStatus, loads, prepares]

/-- What a launch does with its settings. -/
structure UsesSettings (l : Launch) (env : Environment) : Prop where
  names : l.task.names = l.settings.names
  filter : l.filter = .ofSettings (env.lookup "RUST_LOG") l.settings.logLevel
  /-- The key files are those that the names of files lead to from the directory. -/
  path (half : KeyHalf) : l.task.keyFiles.half half =
    (Path.mk (Setting.keyDir.bytes l.settings)).join ⟨(Setting.file half).bytes l.settings⟩
  /-- The keys are what these files hold. -/
  loaded (files : Files) (keys : KeyPair) (notices : List Notice) :
    l.task.keyFiles.load files = .ok (keys, notices) →
      ∀ half, ∃ file, files (l.task.keyFiles.half half) = .ok file ∧ keys.half half = file.data
  /-- No other file matters. -/
  only (files files' : Files) (config : Kubeconfig) :
    (∀ half, files (l.task.keyFiles.half half) = files' (l.task.keyFiles.half half)) →
      l.session files config = l.session files' config

theorem usesSettings {args : List Bytes} {env : Environment} {programDir : Option Path}
    {l : Launch} {invocation : CommandLine.Invocation}
    (read : CommandLine.read args = .ok invocation)
    (h : ofArguments args env programDir = .ok l) : l.UsesSettings env := by
  obtain ⟨settings, -, rfl⟩ := (ofArguments_eq_ok_iff read).1 h
  exact
    { names := rfl
      filter := rfl
      path half := by cases half <;> rfl
      loaded files keys notices := KeyFiles.load_half
      only files files' config same := session_congr _ same config }

end Launch

/-! ## The rule -/

/-- It makes no difference that a value counts only if it is text, unless nothing goes over it and it
is neither text nor what is below it. -/
theorem filter_getD_eq_iff (given value : Option Bytes) (standard : Bytes) :
    (given.or (value.filter isText)).getD standard = (given.or value).getD standard ↔
      given.isSome = true ∨
        ∀ v, value = some v → v.toByteArray.IsValidUTF8 ∨ v = standard := by
  cases given with
  | some => simp
  | none =>
    cases value with
    | none => simp
    | some v =>
      simp only [Option.none_or, Option.filter_some, Option.isSome_none, Bool.false_eq_true,
        false_or, Option.some.injEq, forall_eq', ← isText_iff]
      split
      next text => simp [text]
      next noText => simp [noText, eq_comm]

/-- What a command line with some flags comes to among some variables. -/
structure PrecedenceLaw (programDir : Option Path) (args : List Bytes) (flags : Flags)
    (env : Environment) : Prop where
  /-- Whether there is a launch is up to the flags. -/
  launches_iff : (∃ l, Launch.ofArguments args env programDir = .ok l) ↔ flags.NamesFormat
  /-- A setting follows the rule exactly if its flag is given, or if its variable is not set or
  holds text, or what the setting is without it. -/
  due_iff (l : Launch) : Launch.ofArguments args env programDir = .ok l → ∀ x : Setting,
    (x.bytes l.settings = x.due programDir flags env ↔
      (x.given? flags).isSome = true ∨ ∀ value, env.value? x.variableName = some value →
        value.toByteArray.IsValidUTF8 ∨ value = x.standard programDir)
  /-- A variable that holds no text changes nothing, neither the settings nor what is said. -/
  unheard (name : String) (value : Bytes) : env.value? name = some value →
    ¬value.toByteArray.IsValidUTF8 →
      Launch.ofArguments args (env.without name) programDir =
        Launch.ofArguments args env programDir
  /-- A setting rests on its own flag and its own variable only. -/
  own (l : Launch) : Launch.ofArguments args env programDir = .ok l →
    ∀ args' invocation' env' l', CommandLine.read args' = .ok invocation' →
      Launch.ofArguments args' env' programDir = .ok l' →
      ∀ x : Setting, x.given? invocation'.flags = x.given? flags →
        env'.value? x.variableName = env.value? x.variableName →
          x.bytes l'.settings = x.bytes l.settings
  /-- The settings are what the command works on. -/
  used (l : Launch) : Launch.ofArguments args env programDir = .ok l → l.UsesSettings env

/-- Flags go over variables and variables over defaults, setting by setting, but for variables that
are not text: these are passed over in silence. -/
theorem settings_precedence (programDir : Option Path) (env : Environment) {args : List Bytes}
    {invocation : CommandLine.Invocation} (read : CommandLine.read args = .ok invocation) :
    PrecedenceLaw programDir args invocation.flags env where
  launches_iff := Launch.ofArguments_ok_iff read
  due_iff l launched x := by
    rw [Launch.bytes_settings read launched, Setting.due]
    exact filter_getD_eq_iff _ _ _
  unheard name value held noText := Launch.ofArguments_without held noText
  own l launched args' invocation' env' l' read' launched' x flag held := by
    rw [Launch.bytes_settings read launched, Launch.bytes_settings read' launched', flag, held]
  used l launched := Launch.usesSettings read launched

/-- A flag, a variable and two defaults. -/
theorem settings_precedence_render :
    let args := CommandLine.spelled .render [(.ns, textBytes "pods")]
    let env : Environment :=
      [("K8S_NAMESPACE", textBytes "other"), ("SSH_KEY_SECRET_NAME", textBytes "key")]
    CommandLine.read args = .ok ⟨.render, [(.ns, textBytes "pods")]⟩ ∧
      ∃ l, Launch.ofArguments args env none = .ok l ∧
        Setting.ns.bytes l.settings = textBytes "pods" ∧
        Setting.secretName.bytes l.settings = textBytes "key" ∧
        Setting.keyDir.bytes l.settings = textBytes "." := by
  intro args env
  have read : CommandLine.read args = .ok ⟨.render, [(.ns, textBytes "pods")]⟩ :=
    CommandLine.read_spelled .render ⟨by decide, by decide⟩
  have law := settings_precedence none env read
  obtain ⟨l, launched⟩ := law.launches_iff.2 nofun
  have due := law.due_iff l launched
  refine ⟨read, l, launched, ?_, ?_, ?_⟩
  · exact (due .ns).2 (.inl rfl)
  · refine (due .secretName).2 (.inr ?_)
    rintro value ⟨⟩
    exact .inl (isText_iff.1 (by decide))
  · exact (due .keyDir).2 (.inr nofun)

/-- A directory in a variable gives way in silence to the directory of the program if its name is no
text.  In the flag the same bytes are taken. -/
theorem directory_in_variable_ignored :
    let dir : Bytes := textBytes "keys" ++ [0xFF]
    let env : Environment := [("SSH_KEY_DIR", dir)]
    let programDir := some (Path.ofText "/bin")
    (∃ l, Launch.ofArguments (CommandLine.spelled .render []) env programDir = .ok l ∧
      Setting.keyDir.due programDir [] env = dir ∧
      Setting.keyDir.bytes l.settings = textBytes "/bin" ∧ textBytes "/bin" ≠ dir) ∧
    ∃ l, Launch.ofArguments (CommandLine.spelled .render [(.keyDir, dir)]) [] programDir = .ok l ∧
      Setting.keyDir.bytes l.settings = dir := by
  intro dir env programDir
  have bare : CommandLine.read (CommandLine.spelled .render []) = .ok ⟨.render, []⟩ :=
    CommandLine.read_spelled .render ⟨by decide, by decide⟩
  have flagged : CommandLine.read (CommandLine.spelled .render [(.keyDir, dir)]) =
      .ok ⟨.render, [(.keyDir, dir)]⟩ :=
    CommandLine.read_spelled .render ⟨by decide, by decide⟩
  have launches : ∃ l, Launch.ofArguments (CommandLine.spelled .render []) env programDir = .ok l :=
    (Launch.ofArguments_ok_iff bare).2 nofun
  have launches' : ∃ l, Launch.ofArguments (CommandLine.spelled .render [(.keyDir, dir)]) []
      programDir = .ok l :=
    (Launch.ofArguments_ok_iff flagged).2 nofun
  obtain ⟨l, launched⟩ := launches
  obtain ⟨l', launched'⟩ := launches'
  refine ⟨⟨l, launched, rfl, ?_, by decide⟩, l', launched', ?_⟩
  · rw [Launch.bytes_settings bare launched]
    decide
  · rw [Launch.bytes_settings flagged launched']
    decide

end MountKeys
