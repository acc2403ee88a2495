import CodeGrowth.Proofs.Runs

/-!
# Runs that fail

A run fails for one of three reasons: no configuration can be loaded, the source of an analysis
cannot be read, or a configuration that is missing cannot be written. It has printed nothing by then
and tells the reason last on the error stream. Directories that were made for a configuration stay.
-/
namespace CodeGrowth.CommandLine

variable {invocation : Invocation} {input : Input} {files : Files} {failure : Failure}

/-- Why the source of an analysis cannot be read. -/
inductive Unreadable (stdin : ByteArray) (files : Files) : Option String → Failure → Prop
  | file {path : String} {fault : FileFault} (hfile : isStandardInput (some path) = false)
      (h : files.read (Path.ofText path) = .error fault) :
      Unreadable stdin files (some path) (.sourceFile path fault)
  | standardInput {operand : Option String} (hstdin : isStandardInput operand = true)
      (h : String.fromUTF8? stdin = none) :
      Unreadable stdin files operand (.standardInput .notText)

lemma mapError_eq_error_iff {α ε ε' : Type} {x : Except ε α} {f : ε → ε'} {e' : ε'} :
    x.mapError f = .error e' ↔ ∃ e, x = .error e ∧ f e = e' := by
  cases x <;> simp [Except.mapError]

lemma readSource_eq_error_iff {operand : Option String} {stdin : ByteArray} :
    readSource operand stdin files = .error failure ↔ Unreadable stdin files operand failure := by
  constructor
  · intro h
    cases hstdin : isStandardInput operand with
    | true =>
      rw [readSource_of_standardInput hstdin, mapError_eq_error_iff] at h
      obtain ⟨fault, htext, rfl⟩ := h
      obtain ⟨hnone, rfl⟩ := Files.textOf_eq_error_iff.1 htext
      exact .standardInput hstdin hnone
    | false =>
      cases operand with
      | none => cases hstdin
      | some path =>
        rw [readSource_of_file hstdin, mapError_eq_error_iff] at h
        obtain ⟨fault, hread, rfl⟩ := h
        exact .file hstdin hread
  · intro h
    cases h with
    | file hfile hread =>
      rw [readSource_of_file hfile]
      exact mapError_eq_error_iff.2 ⟨_, hread, rfl⟩
    | standardInput hstdin hnone =>
      rw [readSource_of_standardInput hstdin]
      exact mapError_eq_error_iff.2 ⟨_, Files.textOf_eq_error_iff.2 ⟨hnone, rfl⟩, rfl⟩

/-- Why an invocation fails. -/
inductive Raises (invocation : Invocation) (input : Input) (files : Files) : Failure → Prop
  | load {failure : Failure}
      (h : Config.Unloadable input.wording.malformed files
        (invocation.configPath input.environment) failure) : Raises invocation input files failure
  | read {loaded : Config × Log.Event} {operand : Option String} {format : Option Display.Format}
      {dialect : Option Language.Dialect} {copy : Bool} {failure : Failure}
      (hload : Config.load input.wording.malformed files
        (invocation.configPath input.environment) = .ok loaded)
      (hcommand : invocation.command = .analyze operand format dialect copy)
      (h : Unreadable input.stdin files operand failure) : Raises invocation input files failure
  | save {failure : Failure} (hcommand : invocation.command = .config true)
      (hmissing : files.has (Path.ofText (invocation.configPath input.environment)) = false)
      (h : (Config.standard.save files (invocation.configPath input.environment)).1 =
        .error failure) : Raises invocation input files failure

lemma runAnalyze_of_error {operand : Option String}
    (h : readSource operand input.stdin files = .error failure) (writer : Display.Writer)
    (dialect : Language.Dialect) (copy : Bool) :
    runAnalyze operand writer dialect copy input files = .failed failure files := by
  rw [runAnalyze, h]

/-- What is said where a configuration was written. -/
def writtenLine (path : String) : List Char := ("✅ Config written to: " ++ path ++ "\n").toList

lemma runConfig_of_has {path : String} (h : files.has (Path.ofText path) = true) (config : Config) :
    runConfig true path config files =
      ⟨[.configKept path], .onOut (showConfig path config), none, files⟩ := by
  rw [runConfig, if_pos rfl, if_pos h]

lemma runConfig_of_not_has {path : String} (h : files.has (Path.ofText path) = false)
    (config : Config) : runConfig true path config files =
      match Config.standard.save files path with
      | (.error failure, after) => .failed failure after
      | (.ok (), after) =>
        ⟨[], .onOut (writtenLine path ++ showConfig path config), none, after⟩ := by
  rw [runConfig, if_pos rfl, if_neg (by simp [h])]
  rfl

/-- The ways in which a run can end. Only one of them leaves files that were not there: where none
was found, the standard configuration was asked for and written. -/
inductive Ends (invocation : Invocation) (input : Input) (files : Files) : Effect → Prop
  | failed {failure : Failure} {events : List Log.Event} {after : Files}
      (h : Raises invocation input files failure) (hadds : files.AddsDirectories after) :
      Ends invocation input files ⟨events, .none, some failure, after⟩
  | reported {events : List Log.Event} {printed : Display.Printed}
      (hcommand : ∀ init, invocation.command ≠ .config init) :
      Ends invocation input files ⟨events, printed, none, files⟩
  | shown {config : Config} {event : Log.Event} {events : List Log.Event}
      (hload : Config.load input.wording.malformed files
        (invocation.configPath input.environment) = .ok (config, event))
      (hfound : invocation.command = .config true →
        files.has (Path.ofText (invocation.configPath input.environment)) = true) :
      Ends invocation input files
        ⟨events, .onOut (showConfig (invocation.configPath input.environment) config), none, files⟩
  | initialized {events : List Log.Event} {after : Files}
      (hcommand : invocation.command = .config true)
      (hmissing : files.has (Path.ofText (invocation.configPath input.environment)) = false)
      (hsave : Config.standard.save files (invocation.configPath input.environment) =
        (.ok (), after)) :
      Ends invocation input files
        ⟨events, .onOut (writtenLine (invocation.configPath input.environment) ++
          showConfig (invocation.configPath input.environment) .standard), none, after⟩

theorem ends_runInvocation (invocation : Invocation) (input : Input) (files : Files) :
    Ends invocation input files (runInvocation invocation input files) := by
  cases hload : Config.load input.wording.malformed files
      (invocation.configPath input.environment) with
  | error failure =>
    rw [runInvocation_of_error hload]
    exact .failed (.load (Config.load_eq_error_iff.1 hload)) (.refl files)
  | ok loaded =>
    obtain ⟨config, event⟩ := loaded
    rw [runInvocation_of_ok hload, runCommand]
    split
    · next operand format dialect copy hcommand =>
      cases hsource : readSource operand input.stdin files with
      | error failure =>
        rw [runAnalyze_of_error hsource]
        exact .failed (.read hload hcommand (readSource_eq_error_iff.1 hsource)) (.refl files)
      | ok source =>
        rw [runAnalyze, hsource]
        exact .reported fun init => by simp [hcommand]
    · next dialect format hcommand => exact .reported fun init => by simp [hcommand]
    · next init hcommand =>
      cases init with
      | false => exact .shown hload fun htrue => by simp [hcommand] at htrue
      | true =>
        cases hfound : files.has (Path.ofText (invocation.configPath input.environment)) with
        | true =>
          rw [runConfig_of_has hfound]
          exact .shown hload fun _ => hfound
        | false =>
          rw [Config.load_of_not_has hfound] at hload
          obtain ⟨rfl, -⟩ := Prod.mk.inj (Except.ok.inj hload)
          rw [runConfig_of_not_has hfound]
          have hsaved := Config.saved_save .standard files (invocation.configPath input.environment)
          split
          · next failure after hsave =>
            have hraises := Raises.save hcommand hfound (congrArg Prod.fst hsave)
            rw [hsave] at hsaved
            cases hsaved with
            | failed fault hadds => exact .failed hraises hadds
          · next after hsave => exact .initialized hcommand hfound hsave

end CodeGrowth.CommandLine
