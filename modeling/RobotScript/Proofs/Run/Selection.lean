import RobotScript.Files
import RobotScript.Run

/-! # What a run depends on

    Of all files a run looks at two: the settings file it selects and the file
    with its input.  Of what is in the settings file it uses the values that
    the command line leaves open.  Both follow from one description of a run
    (`withArguments_shows`): it prints its input under three values, each of
    which is the flag's, else the settings file's, else the default.

    Answers are compared without the log, whose filter depends on the
    environment too.  A host is taken as it stands, so its files and its
    standard input are plain values.  Nothing is asked of the libraries but
    that the reader of settings files takes an empty file to set nothing, and
    this only where an empty file is spoken of. -/

namespace RobotScript

/-! ### Files -/

/-- The bytes of a text stand for that text. -/
theorem textOfBytes_toUTF8 (text : String) : textOfBytes (.ok text.toUTF8) = .ok text := by
  have hread : String.fromUTF8? text.toUTF8 = some text := dif_pos text.isValidUTF8
  rw [textOfBytes, hread]

namespace FileSystem

/-- Looking for a regular file at some paths is searching the list of them. -/
theorem firstFile?_eq_find? (files : FileSystem Id) (paths : List String) :
    (files.firstFile? paths).run = paths.find? fun path => (files.isFile path).run := by
  induction paths with
  | nil => rfl
  | cons path more ih =>
    rw [List.find?_cons, ← ih]
    show Id.run (if (files.isFile path).run then pure (some path) else files.firstFile? more) = _
    cases (files.isFile path).run <;> rfl

end FileSystem

namespace FileTree

/-- A directory is no regular file. -/
theorem isFile_of_resolve_directory (t : FileTree) (path : String)
    (entries : List (String × FileNode)) (h : t.resolve path = .ok (.directory entries)) :
    t.isFile path = false := by
  rw [isFile, h]

/-- A file is a regular file. -/
theorem isFile_of_resolve_file (t : FileTree) (path : String) (content : ByteArray)
    (h : t.resolve path = .ok (.file content)) : t.isFile path = true := by
  rw [isFile, h]

/-- Where there is nothing, nothing can be read. -/
theorem read_of_resolve_error (t : FileTree) (path : String) (e : IoError)
    (h : t.resolve path = .error e) : t.read path = .error e := by
  rw [read, h]

/-- A name without slashes is looked up in the root directory, if that is the current one. -/
theorem resolve_name {entries : List (String × FileNode)} {name : String}
    (hrelative : name.startsWith "/" = false) (hparts : parts name = [name])
    (hname : name ∉ ["", ".", ".."]) :
    (⟨.directory entries, "/"⟩ : FileTree).resolve name =
      (entries.lookup name).elim (.error .notFound) .ok := by
  have hroot : parts "/" = ["", ""] := by decide +kernel
  simp only [List.mem_cons, List.not_mem_nil, or_false, not_or] at hname
  obtain ⟨hempty, hdot, hdots⟩ := hname
  rw [resolve, if_neg (by simpa using hempty), if_neg (by simpa using hrelative), hroot, hparts]
  simp only [List.cons_append, List.nil_append, FileNode.walk, hempty, hdot, hdots, true_or,
    or_self, if_true, if_false]
  cases entries.lookup name with
  | none => rfl
  | some node => rfl

/-- A file that holds a text is read as that text. -/
theorem readText_of_resolve_file (t : FileTree) (path text : String)
    (h : t.resolve path = .ok (.file text.toUTF8)) :
    (t.fileSystem.readText path).run = .ok text := by
  show textOfBytes (t.read path) = .ok text
  rw [read, h, textOfBytes_toUTF8]

end FileTree

/-- What reading the input comes to, from the named file or from standard input. -/
def Host.input (host : Host Id) (name : Option String) : Except IoError ByteArray :=
  match name with
  | some path => (host.files.read path).run
  | none => host.stdin.run

/-- The settings that write out every value which an answer depends on. -/
def Settings.explicit (input : Option String) (emit : Emit) (format : Format) (limit : Nat) :
    Settings where
  input := input
  emit := emit
  format := format
  maxDepth := some limit
  logLevel := none
  configFile := none

/-! ### Answers -/

/-- A reader for which every setting may be left out. -/
def SettingsReader.AllowsEmpty (reader : SettingsReader) : Prop := reader "" = .ok .none

namespace RunResult

/-- Two runs have the same exit code, the same standard output and the same report. -/
structure AnswersLike (r r' : RunResult) : Prop where
  exit : r.exit = r'.exit
  stdout : r.stdout = r'.stdout
  report : r.report = r'.report

/-- How a failure is reported: what was being done, and what caused the failure, indented. -/
def reportText (context cause : String) : String :=
  "Error: " ++ context ++ "\n\nCaused by:\n    " ++ Failure.indentTail cause ++ "\n"

/-- A run has failed with this report, and there is nothing on standard output. -/
structure FailsWith (r : RunResult) (report : String) : Prop where
  exit : r.exit = 1
  stdout : r.stdout = .empty
  report : r.report = report

/-- A run has put on standard output what printing has written, and it has ended as printing has. -/
structure Shows (r : RunResult) (output : Output Sink) : Prop where
  stdout : r.stdout = output.out.kept
  /-- Nothing is reported if all went well. -/
  success : output.result = .ok () → r.exit = 0 ∧ r.report = ""
  /-- A failure is reported with what caused it. -/
  failure : ∀ context cause, output.result = .error ⟨some context, cause⟩ →
    cause ≠ .lineTooWide →
    r.exit = 1 ∧ r.report = reportText context cause.message
  /-- A failure without a context is reported alone. -/
  bareFailure : ∀ cause, output.result = .error ⟨none, cause⟩ → cause ≠ .lineTooWide →
    r.exit = 1 ∧ r.report = "Error: " ++ cause.message ++ "\n"
  /-- A line that cannot be padded stops the run on the spot. -/
  tooWide : ∀ context, output.result = .error ⟨context, .lineTooWide⟩ →
    r.exit = 101 ∧ r.report = ""

theorem AnswersLike.refl (r : RunResult) : r.AnswersLike r := ⟨rfl, rfl, rfl⟩

/-- Runs that show the same answer alike. -/
theorem Shows.answersLike {r r' : RunResult} {output : Output Sink} (h : r.Shows output)
    (h' : r'.Shows output) : r.AnswersLike r' := by
  have hboth : ∀ {code : UInt32} {report : String}, r.exit = code ∧ r.report = report →
      r'.exit = code ∧ r'.report = report → r.AnswersLike r' := by
    rintro code report ⟨hexit, hreport⟩ ⟨hexit', hreport'⟩
    exact ⟨hexit.trans hexit'.symm, h.stdout.trans h'.stdout.symm, hreport.trans hreport'.symm⟩
  match hresult : output.result with
  | .ok () => exact hboth (h.success hresult) (h'.success hresult)
  | .error ⟨context, cause⟩ =>
    by_cases hwide : cause = .lineTooWide
    · subst hwide
      exact hboth (h.tooWide context hresult) (h'.tooWide context hresult)
    · cases context with
      | none => exact hboth (h.bareFailure cause hresult hwide) (h'.bareFailure cause hresult hwide)
      | some context =>
        exact hboth (h.failure context cause hresult hwide) (h'.failure context cause hresult hwide)

end RunResult

namespace Run

variable (lib : Libraries) (host host' : Host Id) (env env' : Environment) (args : Arguments)

/-- A failure of any cause but one ends a run in good order, with a report of it. -/
theorem exitCode_report_of_ne_lineTooWide {f : Failure} (h : f.cause ≠ .lineTooWide) :
    exitCode (.error f) = 1 ∧ report (.error f) = f.report := by
  obtain ⟨context, cause⟩ := f
  cases cause with
  | lineTooWide => exact absurd rfl h
  | parse error => exact ⟨rfl, rfl⟩
  | io error => exact ⟨rfl, rfl⟩
  | json error => exact ⟨rfl, rfl⟩
  | settings message => exact ⟨rfl, rfl⟩

/-- The exit code and the report of a run say how printing has ended. -/
theorem conclude_shows (s : Settings) (output : Output Sink) :
    (conclude lib env s output).Shows output where
  stdout := rfl
  success := by
    intro hresult
    rw [conclude, hresult]
    exact ⟨rfl, rfl⟩
  failure := by
    intro context cause hresult hwide
    rw [conclude, hresult]
    exact exitCode_report_of_ne_lineTooWide hwide
  bareFailure := by
    intro cause hresult hwide
    rw [conclude, hresult]
    exact exitCode_report_of_ne_lineTooWide hwide
  tooWide := by
    intro context hresult
    rw [conclude, hresult]
    exact ⟨rfl, rfl⟩

/-- A run that has to give up before it prints anything fails. -/
theorem refuse_failsWith (context : String) (cause : Cause) :
    (refuse (.inContext context cause)).FailsWith
      (RunResult.reportText context cause.message) :=
  ⟨rfl, rfl, rfl⟩

/-! ### The settings file -/

/-- The settings file of a run: the one that the command line names, else the first of the usual
    places at which there is a regular file. -/
def settingsFile : Option String :=
  args.config.or (env.defaultPaths.find? fun path => (host.files.isFile path).run)

/-- What the settings file of a run sets, if it can be loaded. -/
def fileSettings : Except Failure FileSettings :=
  (Settings.loadSelected lib.readSettings host.files (settingsFile host env args)).run

theorem selectFile_eq_settingsFile :
    (Settings.selectFile host.files env.defaultPaths args).run = settingsFile host env args := by
  unfold Settings.selectFile settingsFile
  cases args.config with
  | some path => rfl
  | none => exact FileSystem.firstFile?_eq_find? host.files env.defaultPaths

/-- A path at which there is no regular file is passed over. -/
theorem settingsFile_eq_filter (path : String) (h : (host.files.isFile path).run = false) :
    settingsFile host env args =
      args.config.or
        ((env.defaultPaths.filter (· ≠ path)).find? fun p => (host.files.isFile p).run) := by
  rw [settingsFile, List.find?_filter]
  congr 2
  funext p
  by_cases hp : p = path
  · simp [hp, h]
  · simp [hp]

/-- The project file is selected wherever there is one and no other file is named. -/
theorem settingsFile_project (hconfig : args.config = none)
    (hproject : (host.files.isFile "robot-cmd.toml").run = true) :
    settingsFile host env args = some "robot-cmd.toml" := by
  rw [settingsFile, hconfig, Option.none_or]
  exact List.find?_cons_of_pos hproject

theorem fileSettings_eq_ofContent (path : String) (h : settingsFile host env args = some path) :
    fileSettings lib host env args =
      FileSettings.ofContent lib.readSettings path (host.files.readText path).run := by
  rw [fileSettings, h]
  rfl

/-- Without a settings file nothing is set by one. -/
theorem fileSettings_of_none (h : settingsFile host env args = none) :
    fileSettings lib host env args = .ok .none := by
  rw [fileSettings, h]
  rfl

/-- An empty project file sets nothing, and no other file is asked. -/
theorem fileSettings_of_empty_project (hempty : lib.readSettings.AllowsEmpty)
    (hconfig : args.config = none) (hproject : (host.files.isFile "robot-cmd.toml").run = true)
    (hread : (host.files.readText "robot-cmd.toml").run = .ok "") :
    fileSettings lib host env args = .ok .none := by
  have hfile := settingsFile_project host env args hconfig hproject
  rw [fileSettings_eq_ofContent lib host env args _ hfile, hread, FileSettings.ofContent, hempty]

/-- What a settings file sets is decided by where it is and what is in it. -/
theorem fileSettings_congr (hfile : settingsFile host env args = settingsFile host' env' args)
    (hread : ∀ path ∈ settingsFile host env args,
      (host.files.read path).run = (host'.files.read path).run) :
    fileSettings lib host env args = fileSettings lib host' env' args := by
  cases hselected : settingsFile host env args with
  | none =>
    rw [fileSettings_of_none lib host env args hselected,
      fileSettings_of_none lib host' env' args (hfile ▸ hselected)]
  | some path =>
    have htext : (host.files.readText path).run = (host'.files.readText path).run :=
      congrArg textOfBytes (hread path hselected)
    rw [fileSettings_eq_ofContent lib host env args path hselected, htext,
      fileSettings_eq_ofContent lib host' env' args path (hfile ▸ hselected)]

/-! ### One run -/

/-- What is being done while the input is read. -/
def inputContext : Option String → String
  | some path => s!"failed to read {path}"
  | none => "failed to read stdin"

/-- Reading the program is decided by its name and by what reading the input comes to. -/
theorem readSource_eq_inContext (s : Settings) :
    (readSource host s).run =
      inContext (inputContext s.input) (textOfBytes (host.input s.input)) := by
  unfold readSource
  cases s.input <;> rfl

/-- Of the settings of a run, those that its answer depends on: each value is the flag's if it is
    given, else the settings file's, else the default. -/
def inForce (file : FileSettings) : Settings :=
  .explicit args.input ((args.emit.or file.emit).getD .trace)
    ((args.format.or file.format).getD .text) ((args.maxDepth.or file.maxDepth).getD 1000)

/-- What a run prints whose settings file sets `file`. -/
def printed (file : FileSettings) : Output Sink :=
  print (inForce args file) (readSource host (inForce args file)).run

/-- Neither the log filter nor the path of the settings file is used when a program is printed. -/
theorem print_merge (selected : Option String) (file : FileSettings)
    (source : Except Failure String) :
    print (Settings.merge args selected file) source = print (inForce args file) source := by
  cases source <;> rfl

theorem resolve_eq_map_merge :
    (Settings.resolve lib.readSettings host.files env.defaultPaths args).run =
      (fileSettings lib host env args).map (Settings.merge args (settingsFile host env args)) := by
  unfold fileSettings
  rw [← selectFile_eq_settingsFile]
  rfl

/-- A run whose settings file cannot be loaded gives up. -/
theorem withArguments_eq_refuse (failure : Failure)
    (h : fileSettings lib host env args = .error failure) :
    (withArguments lib host env args).run = refuse failure := by
  have hresolve : (Settings.resolve lib.readSettings host.files env.defaultPaths args).run =
      .error failure := by
    rw [resolve_eq_map_merge, h]
    rfl
  rw [withArguments, Id.run_bind, hresolve]
  rfl

/-- A run whose settings file loads goes on with the merged settings. -/
theorem withArguments_eq_conclude (file : FileSettings)
    (h : fileSettings lib host env args = .ok file) :
    let s := Settings.merge args (settingsFile host env args) file
    (withArguments lib host env args).run =
      conclude lib env s (print s (readSource host s).run) := by
  intro s
  have hresolve : (Settings.resolve lib.readSettings host.files env.defaultPaths args).run =
      .ok s := by
    rw [resolve_eq_map_merge, h]
    rfl
  rw [withArguments, Id.run_bind, hresolve]
  rfl

/-- A settings file that is named is loaded, and if that fails the run gives up. -/
theorem withArguments_named (path context : String) (cause : Cause)
    (hconfig : args.config = some path)
    (h : FileSettings.ofContent lib.readSettings path (host.files.readText path).run =
      .error (.inContext context cause)) :
    (withArguments lib host env args).run.log = [] ∧
      (withArguments lib host env args).run.FailsWith
        (RunResult.reportText context cause.message) := by
  have hfile : settingsFile host env args = some path := by
    rw [settingsFile, hconfig, Option.some_or]
  have hloaded : fileSettings lib host env args = .error (.inContext context cause) := by
    rw [fileSettings_eq_ofContent lib host env args path hfile, h]
  rw [withArguments_eq_refuse lib host env args _ hloaded]
  exact ⟨rfl, refuse_failsWith context cause⟩

/-- A run whose settings file loads prints its input under the settings in force. -/
theorem withArguments_shows (file : FileSettings) (h : fileSettings lib host env args = .ok file) :
    (withArguments lib host env args).run.Shows (printed host args file) := by
  rw [withArguments_eq_conclude lib host env args file h]
  -- the merged settings name the same input, so they read the same source
  have hprint := print_merge args (settingsFile host env args) file
    (readSource host (inForce args file)).run
  have hshows := conclude_shows lib env (Settings.merge args (settingsFile host env args) file)
    (printed host args file)
  rw [printed, ← hprint] at hshows ⊢
  exact hshows

/-- A run whose input is no text fails, and says which input it is. -/
theorem withArguments_failsWith_of_input (file : FileSettings) (e : IoError)
    (h : fileSettings lib host env args = .ok file)
    (hinput : textOfBytes (host.input args.input) = .error e) :
    (withArguments lib host env args).run.FailsWith
      (RunResult.reportText (inputContext args.input) e.message) := by
  have hshows := withArguments_shows lib host env args file h
  have hprinted : printed host args file =
      ⟨.error (.inContext (inputContext args.input) (.io e)), [], .empty none false⟩ := by
    rw [printed, readSource_eq_inContext]
    show print _ (inContext _ (textOfBytes (host.input args.input))) = _
    rw [hinput]
    rfl
  rw [hprinted] at hshows
  obtain ⟨hexit, hreport⟩ := hshows.failure _ _ rfl nofun
  exact ⟨hexit, hshows.stdout, hreport⟩

/-- A run whose input is a text shows what it comes to under the settings in force. -/
theorem withArguments_shows_process (file : FileSettings) (text : String)
    (h : fileSettings lib host env args = .ok file)
    (hinput : textOfBytes (host.input args.input) = .ok text) :
    (withArguments lib host env args).run.Shows
      (Output.process Sink.writer ((args.emit.or file.emit).getD .trace)
        ((args.format.or file.format).getD .text)
        (some ((args.maxDepth.or file.maxDepth).getD 1000)) (args.input.getD "<stdin>") text
        (.empty none false)) := by
  have hshows := withArguments_shows lib host env args file h
  rw [printed, readSource_eq_inContext] at hshows
  change RunResult.Shows _ (print _ (inContext _ (textOfBytes (host.input args.input)))) at hshows
  rw [hinput] at hshows
  exact hshows

/-! ### Two runs -/

/-- Runs answer alike if the same settings are in force and their inputs are the same. -/
theorem answersLike_of_inForce_eq (file file' : FileSettings)
    (hfile : fileSettings lib host env args = .ok file)
    (hfile' : fileSettings lib host' env' args = .ok file')
    (hforce : inForce args file = inForce args file')
    (hinput : host.input args.input = host'.input args.input) :
    (withArguments lib host env args).run.AnswersLike (withArguments lib host' env' args).run := by
  have hsource : (readSource host (inForce args file')).run =
      (readSource host' (inForce args file')).run := by
    rw [readSource_eq_inContext, readSource_eq_inContext]
    exact congrArg (fun input => inContext _ (textOfBytes input)) hinput
  have hshows := withArguments_shows lib host env args file hfile
  rw [printed, hforce, hsource] at hshows
  exact hshows.answersLike (withArguments_shows lib host' env' args file' hfile')

/-- Runs answer alike if their settings files come to the same and their inputs are the same. -/
theorem answersLike_of_fileSettings_eq
    (hfile : fileSettings lib host env args = fileSettings lib host' env' args)
    (hinput : host.input args.input = host'.input args.input) :
    (withArguments lib host env args).run.AnswersLike (withArguments lib host' env' args).run := by
  cases hloaded : fileSettings lib host env args with
  | error failure =>
    -- neither run gets to its input
    rw [withArguments_eq_refuse lib host env args failure hloaded,
      withArguments_eq_refuse lib host' env' args failure (hfile ▸ hloaded)]
    exact .refl _
  | ok file =>
    exact answersLike_of_inForce_eq lib host host' env env' args file file hloaded
      (hfile ▸ hloaded) rfl hinput

/-- Two runs that find a project file with the same content answer alike: the usual places behind
    it are not looked at. -/
theorem answersLike_of_project_file (hconfig : args.config = none)
    (hproject : (host.files.isFile "robot-cmd.toml").run = true)
    (hproject' : (host'.files.isFile "robot-cmd.toml").run = true)
    (hread : (host.files.read "robot-cmd.toml").run = (host'.files.read "robot-cmd.toml").run)
    (hinput : host.input args.input = host'.input args.input) :
    (withArguments lib host env args).run.AnswersLike (withArguments lib host' env' args).run := by
  have hfile := settingsFile_project host env args hconfig hproject
  have hfile' := settingsFile_project host' env' args hconfig hproject'
  refine answersLike_of_fileSettings_eq lib host host' env env' args
    (fileSettings_congr lib host host' env env' args (hfile.trans hfile'.symm) ?_) hinput
  -- the project file is the one path to be read
  intro path hpath
  rw [hfile] at hpath
  cases hpath
  exact hread

/-- With all three flags given, nothing in a settings file is in force. -/
theorem inForce_eq_of_flags_given (file file' : FileSettings) (hemit : args.emit.isSome)
    (hformat : args.format.isSome) (hlimit : args.maxDepth.isSome) :
    inForce args file = inForce args file' := by
  unfold inForce
  rw [Option.or_of_isSome hemit, Option.or_of_isSome hformat, Option.or_of_isSome hlimit,
    Option.or_of_isSome hemit, Option.or_of_isSome hformat, Option.or_of_isSome hlimit]

/-! ### What decides a run -/

/-- What a run does with its settings file and its input. -/
structure FollowsSettings : Prop where
  /-- The settings file is the one that the command line names, else the first of the usual places
      at which there is a regular file. -/
  selected : (Settings.selectFile host.files env.defaultPaths args).run =
    args.config.or (env.defaultPaths.find? fun path => (host.files.isFile path).run)
  /-- A directory at a usual place is passed over. -/
  directory : ∀ (t : FileTree) (path : String) (entries : List (String × FileNode)),
    host.files = t.fileSystem → t.resolve path = .ok (.directory entries) →
      (Settings.selectFile host.files env.defaultPaths args).run =
        args.config.or ((env.defaultPaths.filter (· ≠ path)).find? t.isFile)
  /-- If there is no settings file, none sets anything. -/
  noFile : settingsFile host env args = none → fileSettings lib host env args = .ok .none
  /-- If the project file is empty, none sets anything either. -/
  emptyProject : lib.readSettings.AllowsEmpty → args.config = none →
    (host.files.isFile "robot-cmd.toml").run = true →
    (host.files.readText "robot-cmd.toml").run = .ok "" →
    fileSettings lib host env args = .ok .none
  /-- A named settings file that cannot be read ends the run before any output. -/
  unreadable : ∀ path e, args.config = some path → (host.files.readText path).run = .error e →
    (withArguments lib host env args).run.log = [] ∧
      (withArguments lib host env args).run.FailsWith
        (RunResult.reportText s!"failed to read config file {path}" e.message)
  /-- So does a named settings file that the reader rejects, for the reason that it gives. -/
  rejected : ∀ path text message, args.config = some path →
    (host.files.readText path).run = .ok text → lib.readSettings text = .error message →
    (withArguments lib host env args).run.log = [] ∧
      (withArguments lib host env args).run.FailsWith
        (RunResult.reportText s!"failed to parse config file {path}" message)
  /-- An input that cannot be read ends the run, once the settings are known. -/
  noInput : ∀ file e, fileSettings lib host env args = .ok file →
    textOfBytes (host.input args.input) = .error e →
    (withArguments lib host env args).run.FailsWith
      (RunResult.reportText (inputContext args.input) e.message)
  /-- Any other input is printed under three values, each of them the flag's, else the settings
      file's, else the default. -/
  prints : ∀ file text, fileSettings lib host env args = .ok file →
    textOfBytes (host.input args.input) = .ok text →
    (withArguments lib host env args).run.Shows
      (Output.process Sink.writer ((args.emit.or file.emit).getD .trace)
        ((args.format.or file.format).getD .text)
        (some ((args.maxDepth.or file.maxDepth).getD 1000)) (args.input.getD "<stdin>") text
        (.empty none false))

/-- When two runs with the same command line answer alike. -/
structure AnswersTogether : Prop where
  /-- They select the same settings file, and it has the same content. -/
  sameFile : settingsFile host env args = settingsFile host' env' args →
    (∀ path ∈ settingsFile host env args,
      (host.files.read path).run = (host'.files.read path).run) →
    (withArguments lib host env args).run.AnswersLike (withArguments lib host' env' args).run
  /-- Both find a project file, and it has the same content; the user's files may differ. -/
  projectFile : args.config = none → (host.files.isFile "robot-cmd.toml").run = true →
    (host'.files.isFile "robot-cmd.toml").run = true →
    (host.files.read "robot-cmd.toml").run = (host'.files.read "robot-cmd.toml").run →
    (withArguments lib host env args).run.AnswersLike (withArguments lib host' env' args).run
  /-- All three flags are given, and both settings files load. -/
  flagsGiven : ∀ file file', args.emit.isSome → args.format.isSome → args.maxDepth.isSome →
    fileSettings lib host env args = .ok file → fileSettings lib host' env' args = .ok file' →
    (withArguments lib host env args).run.AnswersLike (withArguments lib host' env' args).run

/-- A directory in the place of a settings file is passed over. -/
theorem selectFile_eq_of_directory (t : FileTree) (path : String)
    (entries : List (String × FileNode)) (hfiles : host.files = t.fileSystem)
    (hdirectory : t.resolve path = .ok (.directory entries)) :
    (Settings.selectFile host.files env.defaultPaths args).run =
      args.config.or ((env.defaultPaths.filter (· ≠ path)).find? t.isFile) := by
  have hskip : (host.files.isFile path).run = false := by
    rw [hfiles]
    exact t.isFile_of_resolve_directory path entries hdirectory
  rw [selectFile_eq_settingsFile, settingsFile_eq_filter host env args path hskip, hfiles]
  rfl

/-- The selected settings file and the input decide a run, whatever the libraries are: a run follows
    them, and two runs with the same input answer alike if their settings files come to the same. -/
theorem withArguments_decided_by_settings_and_input :
    FollowsSettings lib host env args ∧
      (host.input args.input = host'.input args.input →
        AnswersTogether lib host host' env env' args) := by
  refine ⟨?_, fun hinput => ?_⟩
  · exact {
      selected := selectFile_eq_settingsFile host env args
      directory := selectFile_eq_of_directory host env args
      noFile := fileSettings_of_none lib host env args
      emptyProject := fileSettings_of_empty_project lib host env args
      unreadable := by
        intro path e hconfig hread
        refine withArguments_named lib host env args path _ (.io e) hconfig ?_
        rw [hread]
        rfl
      rejected := by
        intro path text message hconfig hread hrejected
        refine withArguments_named lib host env args path _ (.settings message) hconfig ?_
        rw [hread, FileSettings.ofContent, hrejected]
      noInput := withArguments_failsWith_of_input lib host env args
      prints := withArguments_shows_process lib host env args }
  · exact {
      sameFile := by
        intro hfile hread
        exact answersLike_of_fileSettings_eq lib host host' env env' args
          (fileSettings_congr lib host host' env env' args hfile hread) hinput
      projectFile := by
        intro hconfig hproject hproject' hread
        exact answersLike_of_project_file lib host host' env env' args hconfig hproject hproject'
          hread hinput
      flagsGiven := by
        intro file file' hemit hformat hlimit hfile hfile'
        exact answersLike_of_inForce_eq lib host host' env env' args file file' hfile hfile'
          (inForce_eq_of_flags_given args file file' hemit hformat hlimit) hinput }

/-- Two users with the same project file and different files of their own.  The values that the
    project file leaves open are the default ones; the user's file counts only if a directory is in
    the project file's place or if it is named.  A named file that is absent, that is no text or
    that sets something unknown is reported, and so is an input that is absent. -/
theorem withArguments_decided_by_project_file :
    let unknownField := "TOML parse error at line 1, column 1\n  |\n1 | speed = 3\n  | ^^^^^\n" ++
      "unknown field `speed`, expected one of `max_depth`, `emit`, `format`, `log_level`\n"
    let lib : Libraries := {
      readSettings := fun text =>
        if text = "" then .ok .none
        else if text = "emit = 'counts'" then .ok ⟨none, some .counts, none, none⟩
        else if text = "format = 'json'" then .ok ⟨none, none, some .json, none⟩
        else if text = "max_depth = 0" then .ok ⟨some 0, none, none, none⟩
        else .error unknownField
      shows := fun _ r => r.level.detail ≤ Log.Level.warn.detail }
    let tree (project user : FileNode) : FileTree :=
      ⟨.directory [("robot-cmd.toml", project), ("raw.toml", .file ⟨#[0xFF]⟩),
        ("c", .directory [("robot-cmd", .directory [("config.toml", user)])])], "/"⟩
    let host (project user : FileNode) : Host Id :=
      ⟨(tree project user).fileSystem, .ok "LEFT".toUTF8⟩
    let env : Environment := ⟨some "/c", none⟩
    let run (args : Arguments) (project user : FileNode) : RunResult :=
      (withArguments lib (host project user) env args).run
    let file (content : String) : FileNode := .file content.toUTF8
    let counts := file "emit = 'counts'"
    let json := file "format = 'json'"
    let bare : Arguments := ⟨none, none, none, none, none, none⟩
    let named (path : String) : Arguments := { bare with config := some path }
    let given : Arguments :=
      { bare with emit := some .counts, format := some .text, maxDepth := some 3 }
    (run bare counts json).AnswersLike (run bare counts .emptyDirectory) ∧
    ((run bare counts json).exit = 0 ∧ (run bare counts json).stdout =
      "move_forward: 0\nturn_left: 1\nturn_right: 0\ntotal: 1\n".toUTF8) ∧
    (run bare (file "") json).stdout = "turn_left\n".toUTF8 ∧
    (Settings.selectFile (host .emptyDirectory json).files env.defaultPaths bare).run =
      some "/c/robot-cmd/config.toml" ∧
    (run (named "/c/robot-cmd/config.toml") counts json).AnswersLike
      (run (named "/c/robot-cmd/config.toml") .emptyDirectory json) ∧
    (run (named "absent.toml") counts json).FailsWith
      ("Error: failed to read config file absent.toml\n\nCaused by:\n" ++
        "    No such file or directory (os error 2)\n") ∧
    (run (named "raw.toml") counts json).FailsWith
      ("Error: failed to read config file raw.toml\n\nCaused by:\n" ++
        "    stream did not contain valid UTF-8\n") ∧
    (run (named "robot-cmd.toml") (file "speed = 3") json).FailsWith
      ("Error: failed to parse config file robot-cmd.toml\n\nCaused by:\n" ++
        "    TOML parse error at line 1, column 1\n      |\n    1 | speed = 3\n      | ^^^^^\n" ++
        "    unknown field `speed`, expected one of `max_depth`, `emit`, `format`, `log_level`\n" ++
        "    \n") ∧
    (run { bare with input := some "absent.txt" } counts json).FailsWith
      ("Error: failed to read absent.txt\n\nCaused by:\n" ++
        "    No such file or directory (os error 2)\n") ∧
    (run given counts json).AnswersLike (run given (file "max_depth = 0") json) := by
  intro unknownField lib tree host env run file counts json bare named given
  have hcounts : lib.readSettings "emit = 'counts'" = .ok ⟨none, some .counts, none, none⟩ := by
    simp [lib]
  have hzero : lib.readSettings "max_depth = 0" = .ok ⟨some 0, none, none, none⟩ := by simp [lib]
  have hunknown : lib.readSettings "speed = 3" = .error unknownField := by simp [lib]
  have hnotText : textOfBytes (.ok ⟨#[0xFF]⟩) = .error .invalidData := by
    have hbytes : String.fromUTF8? ⟨#[0xFF]⟩ = none := by decide +kernel
    rw [textOfBytes, hbytes]
  have hreport {r : RunResult} {text text' : String} (h : r.FailsWith text)
      (htext : text = text') : r.FailsWith text' := htext ▸ h
  have hok {result : Except Failure Unit} (h : result.toBool = true) : result = .ok () := by
    cases result with
    | ok _ => rfl
    | error _ => cases h
  have hproject (project user : FileNode) :
      (tree project user).resolve "robot-cmd.toml" = .ok project :=
    FileTree.resolve_name (by decide +kernel) (by decide +kernel) (by decide)
  have hraw : (tree counts json).resolve "raw.toml" = .ok (.file ⟨#[0xFF]⟩) :=
    FileTree.resolve_name (by decide +kernel) (by decide +kernel) (by decide)
  have huser (project user : FileNode) :
      (tree project user).resolve "/c/robot-cmd/config.toml" = .ok user := by
    have habsolute : "/c/robot-cmd/config.toml".startsWith "/" = true := by decide +kernel
    have hparts : FileTree.parts "/c/robot-cmd/config.toml" =
      ["", "c", "robot-cmd", "config.toml"] := by decide +kernel
    simp [FileTree.resolve, habsolute, tree, hparts, FileNode.walk, List.lookup_cons]
  have hread (content : String) (user : FileNode) :=
    (tree (file content) user).readText_of_resolve_file "robot-cmd.toml" content (hproject _ user)
  have hfound (content : String) (user : FileNode) :
      (tree (file content) user).isFile "robot-cmd.toml" = true :=
    FileTree.isFile_of_resolve_file _ _ _ (hproject _ user)
  -- what the project file sets is what its text sets
  have hsettings (args : Arguments) (content : String) (f : FileSettings)
      (hconfig : args.config = none) (hcontent : lib.readSettings content = .ok f) :
      fileSettings lib (host (file content) json) env args = .ok f := by
    have hfile := settingsFile_project (host (file content) json) env args hconfig
      (hfound content json)
    rw [fileSettings_eq_ofContent lib _ env args _ hfile, hread content json,
      FileSettings.ofContent, hcontent]
  have hfollows (args : Arguments) (project user : FileNode) :
      FollowsSettings lib (host project user) env args :=
    (withArguments_decided_by_settings_and_input lib _ (host project user) env env args).1
  have htogether (args : Arguments) (project user project' user' : FileNode)
      (hinput : args.input = none) :
      AnswersTogether lib (host project user) (host project' user') env env args :=
    (withArguments_decided_by_settings_and_input lib _ _ env env args).2 (by rw [hinput]; rfl)
  refine ⟨?_, ?_, ?_, ?_, ?_, ?_, ?_, ?_, ?_, ?_⟩
  · refine (htogether bare _ _ _ _ rfl).projectFile rfl (hfound _ _) (hfound _ _) ?_
    show (tree counts json).read _ = (tree counts .emptyDirectory).read _
    rw [FileTree.read, FileTree.read, hproject, hproject]
  · have hshows := (hfollows bare counts json).prints _ "LEFT" (hsettings bare _ _ rfl hcounts)
      (textOfBytes_toUTF8 "LEFT")
    refine ⟨(hshows.success (hok (by decide +kernel))).1, hshows.stdout.trans ?_⟩
    decide +kernel
  · have hnone := (hfollows bare (file "") json).emptyProject rfl rfl (hfound _ _) (hread _ _)
    have hshows := (hfollows bare (file "") json).prints _ "LEFT" hnone (textOfBytes_toUTF8 "LEFT")
    refine hshows.stdout.trans ?_
    decide +kernel
  · have hselected := (hfollows bare .emptyDirectory json).directory (tree .emptyDirectory json)
      "robot-cmd.toml" [] rfl (hproject _ _)
    refine hselected.trans ?_
    decide +kernel
  · refine (htogether (named "/c/robot-cmd/config.toml") _ _ _ _ rfl).sameFile rfl ?_
    -- both runs select the named file, whatever is in the project file's place
    intro path hpath
    cases hpath
    show (tree counts json).read _ = (tree .emptyDirectory json).read _
    rw [FileTree.read, FileTree.read, huser, huser]
  · have hresolve : (tree counts json).resolve "absent.toml" = .error .notFound :=
      FileTree.resolve_name (by decide +kernel) (by decide +kernel) (by decide)
    have hfails := (hfollows (named "absent.toml") counts json).unreadable _ .notFound rfl
      (congrArg textOfBytes (FileTree.read_of_resolve_error _ _ _ hresolve))
    exact hreport hfails.2 (by decide +kernel)
  · have hread : textOfBytes ((tree counts json).read "raw.toml") = .error .invalidData := by
      rw [FileTree.read, hraw]
      exact hnotText
    have hfails := (hfollows (named "raw.toml") counts json).unreadable _ .invalidData rfl hread
    exact hreport hfails.2 (by decide +kernel)
  · have hfails := (hfollows (named "robot-cmd.toml") (file "speed = 3") json).rejected _
      "speed = 3" unknownField rfl (hread _ _) hunknown
    exact hreport hfails.2 (by decide +kernel)
  · have hresolve : (tree counts json).resolve "absent.txt" = .error .notFound :=
      FileTree.resolve_name (by decide +kernel) (by decide +kernel) (by decide)
    have hfails := (hfollows { bare with input := some "absent.txt" } counts json).noInput _
      .notFound (hsettings _ _ _ rfl hcounts)
      (congrArg textOfBytes (FileTree.read_of_resolve_error _ _ _ hresolve))
    exact hreport hfails (by decide +kernel)
  · exact (htogether given _ _ _ _ rfl).flagsGiven _ _ rfl rfl rfl
      (hsettings given _ _ rfl hcounts) (hsettings given _ _ rfl hzero)

end Run

end RobotScript
