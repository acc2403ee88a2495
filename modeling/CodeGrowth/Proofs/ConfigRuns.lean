import CodeGrowth.Proofs.FailedRuns

/-!
# What a run leaves behind

Only a request for a configuration where none is found makes a file, and its text is the standard
configuration. Whether one is found is looked up before the directories on the way are made, and
that is where the law stops: a path that steps up from a directory that is not there yet leads to
nothing at first, and once the directory is made to a file that was there all along, which is
replaced. No other run changes a file.
-/
namespace CodeGrowth.CommandLine

variable {invocation : Invocation} {input : Input} {files : Files}

/-- The run is asked for a configuration, and none is found. -/
structure Initializes (input : Input) (files : Files) (invocation : Invocation) : Prop where
  reading : readArguments input.args = .ok invocation
  command : invocation.command = .config true
  missing : files.has (Path.ofText (invocation.configPath input.environment)) = false

/-- The files after a run: no file is new unless a configuration was missing and was written. -/
lemma files_run_cases (input : Input) (files : Files) :
    let result := run input files
    (files.AddsDirectories result.files ∧
      ∀ invocation, Initializes input files invocation → result.code ≠ 0) ∨
    ∃ invocation location, Initializes input files invocation ∧ result.code = 0 ∧
      files.PutsFile result.files (Path.ofText (invocation.configPath input.environment)) location
        Config.standard.print.toUTF8 := by
  intro result
  cases hargs : readArguments input.args with
  | error halt =>
    have hresult : result = halt.result input.wording files := run_of_error hargs
    refine .inl ⟨?_, fun invocation h => ?_⟩
    · rw [hresult, Halt.files_result]
      exact .refl files
    · rw [h.reading] at hargs
      cases hargs
  | ok invocation =>
    have hresult : result = _ := run_of_ok hargs
    have hends := ends_runInvocation invocation input files
    rw [hresult, Effect.files_result, Effect.code_result]
    have honly : ∀ other, Initializes input files other → other = invocation := fun other h =>
      Except.ok.inj (h.reading.symm.trans hargs)
    generalize runInvocation invocation input files = effect at hends ⊢
    cases hends with
    | failed _ hadds => exact .inl ⟨hadds, fun _ _ => by simp⟩
    | reported hcommand =>
      refine .inl ⟨.refl files, fun other h => ?_⟩
      obtain rfl := honly other h
      exact absurd h.command (hcommand true)
    | shown hload hfound =>
      refine .inl ⟨.refl files, fun other h => ?_⟩
      obtain rfl := honly other h
      have hmissing := h.missing
      rw [hfound h.command] at hmissing
      cases hmissing
    | initialized hcommand hmissing hsave =>
      have hsaved := Config.saved_save .standard files (invocation.configPath input.environment)
      rw [hsave] at hsaved
      cases hsaved with
      | written hadds hpath =>
        exact .inr ⟨invocation, _, ⟨hargs, hcommand, hmissing⟩, rfl, hpath.putsFile hadds _⟩

lemma print_suffix_showConfig (path : String) (config : Config) :
    (config.print ++ "\n").toList <:+ showConfig path config := by
  have hsplit : showConfig path config =
      ("📁 Config path: " ++ path ++ "\n").toList ++ (config.print ++ "\n").toList := by
    rw [← String.toList_append, ← String.append_assoc]
    rfl
  rw [hsplit]
  exact List.suffix_append _ _

/-- The standard configuration is loaded as it was saved. -/
lemma load_save_standard {path : String} {after : Files}
    (h : Config.standard.save files path = (.ok (), after)) (reason : String → String) :
    Config.load reason after path = .ok (.standard, .configLoaded path) := by
  rw [Config.load_of_read (Config.read_save h),
    Config.ofText_of_some (Config.parse?_print (by decide)), if_pos (by decide)]
  rfl

/-- A configuration that is found is shown and left alone. -/
lemma run_of_has {config : Config} {event : Log.Event}
    (hargs : readArguments input.args = .ok invocation)
    (hcommand : invocation.command = .config true)
    (hfound : files.has (Path.ofText (invocation.configPath input.environment)) = true)
    (hload : Config.load input.wording.malformed files
      (invocation.configPath input.environment) = .ok (config, event)) :
    (run input files).code = 0 ∧ (run input files).files = files ∧
      (run input files).out = showConfig (invocation.configPath input.environment) config := by
  have heffect : runCommand invocation config input files =
      runConfig true (invocation.configPath input.environment) config files := by
    rw [runCommand, hcommand]
  rw [run_of_ok hargs, runInvocation_of_ok hload, heffect, runConfig_of_has hfound]
  exact ⟨rfl, rfl, rfl⟩

/-- A run that shows a configuration shows the one that is loaded after it. -/
lemma run_config {init : Bool} (hargs : readArguments input.args = .ok invocation)
    (hcommand : invocation.command = .config init) (hcode : (run input files).code = 0) :
    let after := (run input files).files
    let path := invocation.configPath input.environment
    ∃ config event, (∀ reason, Config.load reason after path = .ok (config, event)) ∧
      showConfig path config <:+ (run input files).out ∧
      (init = true → after.has (Path.ofText path) = true) := by
  rw [run_of_ok hargs, Effect.code_result] at hcode
  rw [run_of_ok hargs, Effect.files_result, Effect.out_result]
  have hends := ends_runInvocation invocation input files
  generalize runInvocation invocation input files = effect at hends hcode ⊢
  cases hends with
  | failed => cases hcode
  | reported hother => exact absurd hcommand (hother init)
  | shown hload hfound =>
    exact ⟨_, _, Config.load_of_load hload, List.suffix_refl _,
      fun hinit => hfound (hcommand.trans (by rw [hinit]))⟩
  | initialized hinit hmissing hsave =>
    exact ⟨_, _, load_save_standard hsave, List.suffix_append _ _,
      fun _ => Files.has_of_read (Config.read_save hsave)⟩

/-- What a run may do to the files, and what a run that shows a configuration has to show. -/
structure Frame (input : Input) (files : Files) (result : Result) : Prop where
  /-- What was there stays, but for a file that the standard configuration replaces because the path
  steps up. -/
  kept : ∀ location node, files.node? location = some node →
    result.files.node? location = some node ∨
    ∃ invocation, Initializes input files invocation ∧ result.code = 0 ∧
      let path := Path.ofText (invocation.configPath input.environment)
      ".." ∈ path.names ∧ result.files.LeadsToFile path location ∧ (∃ bytes, node = .file bytes) ∧
        result.files.node? location = some (.file Config.standard.print.toUTF8)
  /-- A file that was not there is the standard configuration, where the path leads. -/
  made : ∀ location bytes, result.files.node? location = some (.file bytes) →
    files.node? location = some (.file bytes) ∨
    ∃ invocation, Initializes input files invocation ∧ result.code = 0 ∧
      result.files.LeadsToFile (Path.ofText (invocation.configPath input.environment)) location ∧
        bytes = Config.standard.print.toUTF8
  written : ∀ invocation, Initializes input files invocation → result.code = 0 →
    result.files.read (Path.ofText (invocation.configPath input.environment)) =
      .ok Config.standard.print
  /-- The configuration that is shown last is loaded from the path afterwards. Asked for again, it
  is shown again, and the files stay. -/
  shown : ∀ invocation init, readArguments input.args = .ok invocation →
    invocation.command = .config init → result.code = 0 →
    let path := invocation.configPath input.environment
    ∃ config event, (∀ reason, Config.load reason result.files path = .ok (config, event)) ∧
      (config.print ++ "\n").toList <:+ result.out ∧
      (init = true → ∀ input' invocation', readArguments input'.args = .ok invocation' →
        invocation'.command = .config true → invocation'.configPath input'.environment = path →
        let again := run input' result.files
        again.code = 0 ∧ again.files = result.files ∧
          (config.print ++ "\n").toList <:+ again.out)

/-- A run changes no file and makes none, unless it is asked for a configuration and finds none. -/
theorem run_frame (input : Input) (files : Files) : Frame input files (run input files) where
  kept := by
    intro location node hnode
    obtain ⟨hadds, -⟩ | ⟨invocation, place, hinit, hcode, hputs⟩ := files_run_cases input files
    · exact .inl (hadds.kept hnode)
    · by_cases hplace : location = place
      · subst hplace
        obtain ⟨hfile, hup⟩ := hputs.replaced hnode
        exact .inr ⟨invocation, hinit, hcode, hup hinit.missing, hputs.leads, hfile, hputs.written⟩
      · exact .inl (hputs.kept hplace hnode)
  made := by
    intro location bytes hfile
    obtain ⟨hadds, -⟩ | ⟨invocation, place, hinit, hcode, hputs⟩ := files_run_cases input files
    · exact .inl (hadds.file hfile)
    · by_cases hplace : location = place
      · subst hplace
        have heq := hputs.written.symm.trans hfile
        exact .inr ⟨invocation, hinit, hcode, hputs.leads,
          (Node.file.inj (Option.some.inj heq)).symm⟩
      · exact .inl (hputs.file hplace hfile)
  written := by
    intro invocation hinit hcode
    obtain ⟨-, hnone⟩ | ⟨other, place, hother, -, hputs⟩ := files_run_cases input files
    · exact absurd hcode (hnone invocation hinit)
    · obtain rfl := Except.ok.inj (hinit.reading.symm.trans hother.reading)
      exact Files.read_of_find (hputs.leads.find hputs.written)
  shown := by
    intro invocation init hargs hcommand hcode path
    obtain ⟨config, event, hload, hout, hfound⟩ := run_config hargs hcommand hcode
    have hprint := print_suffix_showConfig path config
    refine ⟨config, event, hload, hprint.trans hout, ?_⟩
    intro hinit input' invocation' hargs' hcommand' hpath
    have hsame : invocation'.configPath input'.environment =
        invocation.configPath input.environment := hpath
    obtain ⟨hcode', hfiles, hout'⟩ := run_of_has hargs' hcommand' (hsame ▸ hfound hinit)
      (hsame ▸ hload input'.wording.malformed)
    exact ⟨hcode', hfiles, by rwa [hout', hsame]⟩

/-- A working directory with one file in it. -/
def oneFile : Files where
  working := Location.root.child "work"
  nodes := [((Location.root.child "work").child "x.json", .file "\x7b\x7d".toUTF8)]

/-- The path steps up from a directory that is missing, back to the file beside it. -/
def steppingUp : Input where
  args := ["config", "--init", "--config", "new/../x.json"]
  stdin := ByteArray.empty
  environment := ⟨none, none, none, none, none, none, none, none, none, false⟩
  clipboard := fun _ => .copied
  wording := ⟨fun _ => "", "", fun _ => "", ""⟩

/-- The number of bytes of a file. -/
def byteCount : Option Node → Nat
  | some (.file bytes) => bytes.size
  | _ => 0

/-- Not every run leaves every file. -/
theorem file_replaced : ¬∀ (input : Input) (files : Files) (location : Location) (node : Node),
    files.node? location = some node → (run input files).files.node? location = some node := by
  intro h
  have hkept := h steppingUp oneFile ((Location.root.child "work").child "x.json")
    (.file "\x7b\x7d".toUTF8) rfl
  have hcount : byteCount ((run steppingUp oneFile).files.node?
      ((Location.root.child "work").child "x.json")) = 62 := by decide +kernel
  rw [hkept] at hcount
  exact absurd hcount (by decide)

end CodeGrowth.CommandLine
