import CodeGrowth.CommandLine.Run
import CodeGrowth.Proofs.Arguments
import CodeGrowth.Proofs.ConfigFiles

/-!
# What a run prints

A run notes events on the way, but they decide about the error stream alone: two runs that differ
only in their log print the same, exit alike and leave the same files. An analysis prints the report
on its text. Where the text comes from makes no difference to that, and of everything else only the
chosen dialect and the writer do, both of them found from the flags, the configuration and the
environment, in this order.
-/
namespace CodeGrowth.CommandLine
open Display (Format Writer)

variable {invocation : Invocation} {input input' : Input} {files files' : Files}

namespace Effect
variable (effect : Effect) (events : List Log.Event) (filter : Log.Filter) (trace : String)

@[simp] lemma printed_after : (effect.after events).printed = effect.printed := rfl

@[simp] lemma failure_after : (effect.after events).failure = effect.failure := rfl

@[simp] lemma out_result : (effect.result filter trace).out = effect.printed.out := by
  rw [result]
  split <;> rfl

@[simp] lemma files_result : (effect.result filter trace).files = effect.files := by
  rw [result]
  split <;> rfl

@[simp] lemma code_result :
    (effect.result filter trace).code = if effect.failure.isSome then 1 else 0 := by
  rw [result]
  split
  · next h => rw [h]; rfl
  · next h => rw [h]; rfl

end Effect

lemma run_of_ok (h : readArguments input.args = .ok invocation) : run input files =
    (runInvocation invocation input files).result
      (input.environment.filter invocation.verbose) input.trace := by
  rw [run, h]

/-- What comes of arguments that name no command to run. -/
def Halt.result (wording : Wording) (files : Files) : Halt → Result
  | .version => ⟨0, versionText.toList, [], files⟩
  | .help => ⟨0, wording.help.toList, [], files⟩
  | .fault misuse => ⟨2, [], (wording.fault misuse).toList, files⟩

@[simp] lemma Halt.files_result (halt : Halt) (wording : Wording) :
    (halt.result wording files).files = files := by
  cases halt <;> rfl

lemma run_of_error {halt : Halt} (h : readArguments input.args = .error halt) :
    run input files = halt.result input.wording files := by
  rw [run, h]
  cases halt <;> rfl

lemma runInvocation_of_error {failure : Failure} (h : Config.load input.wording.malformed files
      (invocation.configPath input.environment) = .error failure) :
    runInvocation invocation input files = .failed failure files := by
  rw [runInvocation, h]

lemma runInvocation_of_ok {config : Config} {event : Log.Event}
    (h : Config.load input.wording.malformed files
      (invocation.configPath input.environment) = .ok (config, event)) :
    runInvocation invocation input files =
      (runCommand invocation config input files).after [event, .configEffective config] := by
  rw [runInvocation, h]

/-- The invocation without its say in the log. -/
def Invocation.unlogged (invocation : Invocation) : Invocation :=
  { invocation with verbose := false }

/-- The environment without its say in the log. -/
def Environment.unlogged (env : Environment) : Environment := { env with logFilter := none }

/-- The inputs differ in what is logged at most. -/
structure SameButLog (input input' : Input) : Prop where
  arguments : (readArguments input.args).map Invocation.unlogged =
    (readArguments input'.args).map Invocation.unlogged
  environment : input.environment.unlogged = input'.environment.unlogged
  stdin : input.stdin = input'.stdin
  clipboard : input.clipboard = input'.clipboard
  wording : input.wording = input'.wording

/-- Nothing that a command does depends on the log. -/
lemma runInvocation_unlogged (invocation : Invocation) (input : Input) (files : Files) :
    runInvocation invocation input files = runInvocation invocation.unlogged
      ⟨[], input.stdin, input.environment.unlogged, input.clipboard, input.wording⟩ files := rfl

theorem SameButLog.run_eq (h : SameButLog input input') (files : Files) :
    (run input files).out = (run input' files).out ∧
      (run input files).code = (run input' files).code ∧
      (run input files).files = (run input' files).files := by
  have harguments := h.arguments
  cases hargs : readArguments input.args with
  | error halt =>
    cases hargs' : readArguments input'.args with
    | error halt' =>
      rw [hargs, hargs'] at harguments
      obtain rfl := Except.error.inj harguments
      rw [run_of_error hargs, run_of_error hargs', h.wording]
      exact ⟨rfl, rfl, rfl⟩
    | ok invocation' => simp [hargs, hargs', Except.map] at harguments
  | ok invocation =>
    cases hargs' : readArguments input'.args with
    | error halt' => simp [hargs, hargs', Except.map] at harguments
    | ok invocation' =>
      rw [hargs, hargs'] at harguments
      have hinvocation : invocation.unlogged = invocation'.unlogged := Except.ok.inj harguments
      have heffect :
          runInvocation invocation input files = runInvocation invocation' input' files := by
        rw [runInvocation_unlogged, runInvocation_unlogged invocation', hinvocation, h.environment,
          h.stdin, h.clipboard, h.wording]
      rw [run_of_ok hargs, run_of_ok hargs', heffect]
      simp only [Effect.out_result, Effect.code_result, Effect.files_result, and_self]

/-- The text is given as the source: in a file, or by standard input behind a dash or without an
operand. -/
inductive Gives (text : String) (stdin : ByteArray) (files : Files) : Option String → Prop
  | file {path : String} (hfile : isStandardInput (some path) = false)
      (h : files.read (Path.ofText path) = .ok text) : Gives text stdin files (some path)
  | dash (h : stdin = text.toUTF8) : Gives text stdin files (some "-")
  | nothing (h : stdin = text.toUTF8) : Gives text stdin files none

lemma readSource_of_standardInput {operand : Option String} (h : isStandardInput operand = true)
    (stdin : ByteArray) (files : Files) :
    readSource operand stdin files = (Files.textOf stdin).mapError .standardInput := by
  cases operand with
  | none => rfl
  | some path => rw [readSource, if_pos h]

lemma readSource_of_file {path : String} (h : isStandardInput (some path) = false)
    (stdin : ByteArray) (files : Files) : readSource (some path) stdin files =
      (files.read (Path.ofText path)).mapError (.sourceFile path) := by
  rw [readSource, if_neg (by simp [h])]

lemma Gives.readSource_eq {text : String} {stdin : ByteArray} {operand : Option String}
    (h : Gives text stdin files operand) : readSource operand stdin files = .ok text := by
  cases h with
  | file hfile h => rw [readSource_of_file hfile, h]; rfl
  | dash h => rw [readSource_of_standardInput (by decide), h, Files.textOf_toUTF8]; rfl
  | nothing h => rw [readSource_of_standardInput rfl, h, Files.textOf_toUTF8]; rfl

/-- The options of an analysis that does not copy, apart from those for the log. -/
structure Options where
  format : Option Format
  dialect : Option Language.Dialect
  config : Option String
  noColour : Bool
  deriving DecidableEq, Repr

namespace Options

def toInvocation (options : Options) (operand : Option String) (verbose : Bool) : Invocation :=
  ⟨.analyze operand options.format options.dialect false, verbose, options.config,
    options.noColour⟩

/-- The configuration that holds, and the event that tells where it comes from. -/
def load (options : Options) (input : Input) (files : Files) :
    Except Failure (Config × Log.Event) :=
  Config.load input.wording.malformed files (options.config.getD input.environment.configPath)

lemma load_eq (options : Options) (input : Input) (files : Files) (operand : Option String)
    (verbose : Bool) : options.load input files = Config.load input.wording.malformed files
      ((options.toInvocation operand verbose).configPath input.environment) := rfl

/-- The configuration that holds, if one can be loaded. -/
def config? (options : Options) (input : Input) (files : Files) : Option Config :=
  (options.load input files).toOption.map Prod.fst

end Options

/-- The input asks for the analysis of a text. -/
def Analyzes (options : Options) (text : String) (input : Input) (files : Files) : Prop :=
  ∃ operand verbose, readArguments input.args = .ok (options.toInvocation operand verbose) ∧
    Gives text input.stdin files operand

/-- The step of the session that analyzes a text. -/
def analysisStep (options : Options) (config : Config) (text : String) : Session.Step :=
  (Session.start (options.dialect.getD config.dialect)).run text.toList

/-- The writer of the report. -/
def reportWriter (options : Options) (config : Config) (env : Environment) : Writer where
  format := (options.format.or config.format).getD
    (if env.jsonOutput.isSome then .json else if env.terminal then .human else .plain)
  gaugeWidth := config.gaugeWidth
  colours := env.admitsColours && !options.noColour && config.colours

lemma out_printAll_singleton (writer : Writer) (step : Display.Step) :
    (writer.printAll [step]).out = (writer.print step).out := by
  rw [Writer.printAll, List.map_singleton, Display.Printed.all_cons, Display.Printed.append_out,
    Display.Printed.all_nil, Display.Printed.none, List.append_nil]

lemma runAnalyze_of_ok {operand : Option String} {source : String}
    (h : readSource operand input.stdin files = .ok source) (writer : Writer)
    (dialect : Language.Dialect) :
    let effect := runAnalyze operand writer dialect false input files
    let step := (Session.start dialect).run source.toList
    effect.failure = none ∧
      effect.printed.out = (writer.print (.report step.outcome step.session.dialect.name)).out := by
  intro effect step
  have heffect : effect = ⟨.sourceRead source.utf8ByteSize :: step.events,
      writer.printAll [.report step.outcome step.session.dialect.name], none, files⟩ := by
    rw [show effect = runAnalyze operand writer dialect false input files from rfl, runAnalyze, h]
    rfl
  rw [heffect]
  exact ⟨rfl, out_printAll_singleton _ _⟩

lemma runCommand_toInvocation (options : Options) (operand : Option String) (verbose : Bool)
    (config : Config) : runCommand (options.toInvocation operand verbose) config input files =
      runAnalyze operand (reportWriter options config input.environment)
        (options.dialect.getD config.dialect) false input files := rfl

variable {options : Options} {text : String}

/-- What an analysis prints and how it exits, by the configuration that was loaded for it. -/
def analysisShown (options : Options) (text : String) (env : Environment) :
    Option Config → List Char × Nat
  | none => ([], 1)
  | some config =>
    let step := analysisStep options config text
    (((reportWriter options config env).print
      (.report step.outcome step.session.dialect.name)).out, 0)

lemma analysisShown_unlogged (options : Options) (text : String) (env : Environment) :
    analysisShown options text env.unlogged = analysisShown options text env := by
  funext config?
  cases config? <;> rfl

/-- The settings and the text decide about what an analysis shows, and not the route by which the
text comes. -/
lemma Analyzes.run_eq (h : Analyzes options text input files) :
    ((run input files).out, (run input files).code) =
      analysisShown options text input.environment (options.config? input files) := by
  obtain ⟨operand, verbose, hargs, hgives⟩ := h
  rw [run_of_ok hargs, Options.config?, options.load_eq _ _ operand verbose]
  cases hload : Config.load input.wording.malformed files
      ((options.toInvocation operand verbose).configPath input.environment) with
  | error failure =>
    rw [runInvocation_of_error hload]
    simp [Effect.failed, Display.Printed.none, analysisShown, Except.toOption]
  | ok loaded =>
    obtain ⟨config, event⟩ := loaded
    obtain ⟨hfailure, hout⟩ := runAnalyze_of_ok hgives.readSource_eq
      (reportWriter options config input.environment) (options.dialect.getD config.dialect)
    rw [runInvocation_of_ok hload, Effect.out_result, Effect.code_result, Effect.printed_after,
      Effect.failure_after, runCommand_toInvocation, hfailure, hout]
    rfl

/-- The settings are the same if the configuration that holds is, and the environment but for its
say in the log. -/
lemma Analyzes.run_eq_run (h : Analyzes options text input files)
    (h' : Analyzes options text input' files')
    (henv : input'.environment.unlogged = input.environment.unlogged)
    (hconfig : options.config? input' files' = options.config? input files) :
    (run input' files').out = (run input files).out ∧
      (run input' files').code = (run input files).code := by
  have heq := h'.run_eq
  rw [hconfig, ← analysisShown_unlogged, henv, analysisShown_unlogged, ← h.run_eq] at heq
  exact Prod.mk.inj heq

lemma Analyzes.run_of_config? (h : Analyzes options text input files) {config : Config}
    (hconfig : options.config? input files = some config) :
    let step := analysisStep options config text
    (run input files).code = 0 ∧
      (run input files).out = ((reportWriter options config input.environment).print
        (.report step.outcome step.session.dialect.name)).out := by
  have heq := h.run_eq
  rw [hconfig] at heq
  exact (Prod.mk.inj heq).symm

variable {args : List String} (stdin : ByteArray) (env : Environment)
  (clipboard : String → CopyOutcome) (wording : Wording)

/-- Asking for more of the log in front of an accepted command line changes the log at most. -/
lemma sameButLog_verbose_cons (h : readArguments args = .ok invocation)
    (hquiet : invocation.verbose = false) :
    SameButLog ⟨"--verbose" :: args, stdin, env, clipboard, wording⟩
      ⟨args, stdin, env, clipboard, wording⟩ := by
  refine ⟨?_, rfl, rfl, rfl, rfl⟩
  rw [readArguments_verbose_cons h hquiet, h]
  rfl

/-- A command line for an analysis can end with a dash, or with a file of the text, instead of
leaving the text to standard input. -/
lemma analyzes_append_operand {verbose : Bool} {path : String}
    (h : readArguments args = .ok (options.toInvocation none verbose)) (hempty : path ≠ "")
    (hoption : looksLikeOption path = false) (hfile : isStandardInput (some path) = false)
    (hread : files.read (Path.ofText path) = .ok text) :
    Analyzes options text ⟨args, text.toUTF8, env, clipboard, wording⟩ files ∧
      Analyzes options text ⟨args ++ ["-"], text.toUTF8, env, clipboard, wording⟩ files ∧
      Analyzes options text ⟨args ++ [path], stdin, env, clipboard, wording⟩ files := by
  refine ⟨⟨none, verbose, h, .nothing rfl⟩, ⟨some "-", verbose, ?_, .dash rfl⟩,
    ⟨some path, verbose, ?_, .file hfile hread⟩⟩
  · exact readArguments_append_operand (by decide) (by decide) h rfl
  · exact readArguments_append_operand hoption hempty h rfl

/-- A run shows the same whatever is logged, and with `--verbose` in front of its arguments. An
analysis shows the same by whatever route its text comes: from standard input, behind a dash at the
end of the arguments, or in a file that is named there. If its configuration can be loaded, it shows
the report on the text. -/
theorem run_eq_of_settings :
    (∀ input input' files, SameButLog input input' →
      (run input files).out = (run input' files).out ∧
        (run input files).code = (run input' files).code ∧
        (run input files).files = (run input' files).files) ∧
    (∀ args invocation stdin env clipboard wording, readArguments args = .ok invocation →
      invocation.verbose = false →
        SameButLog ⟨"--verbose" :: args, stdin, env, clipboard, wording⟩
          ⟨args, stdin, env, clipboard, wording⟩) ∧
    (∀ (options : Options) text input files, Analyzes options text input files →
      (∀ input' files', Analyzes options text input' files' →
        input'.environment.unlogged = input.environment.unlogged →
        options.config? input' files' = options.config? input files →
        (run input' files').out = (run input files).out ∧
          (run input' files').code = (run input files).code) ∧
      ∀ config, options.config? input files = some config →
        let step := analysisStep options config text
        (run input files).code = 0 ∧
          (run input files).out = ((reportWriter options config input.environment).print
            (.report step.outcome step.session.dialect.name)).out) ∧
    ∀ (options : Options) args verbose path text stdin env clipboard wording files,
      readArguments args = .ok (options.toInvocation none verbose) → path ≠ "" →
      looksLikeOption path = false → isStandardInput (some path) = false →
      files.read (Path.ofText path) = .ok text →
        let shown (args : List String) (stdin : ByteArray) :=
          let result := run ⟨args, stdin, env, clipboard, wording⟩ files
          (result.out, result.code)
        shown (args ++ ["-"]) text.toUTF8 = shown args text.toUTF8 ∧
          shown (args ++ [path]) stdin = shown args text.toUTF8 := by
  refine ⟨fun input input' files h => h.run_eq files, ?_, ?_, ?_⟩
  · intro args invocation stdin env clipboard wording h hquiet
    exact sameButLog_verbose_cons stdin env clipboard wording h hquiet
  · intro options text input files h
    exact ⟨fun input' files' h' => h.run_eq_run h', fun config => h.run_of_config?⟩
  · intro options args verbose path text stdin env clipboard wording files h hempty hoption hfile
      hread shown
    obtain ⟨hbare, hdash, hnamed⟩ := analyzes_append_operand stdin env clipboard wording h hempty
      hoption hfile hread
    exact ⟨hdash.run_eq.trans hbare.run_eq.symm, hnamed.run_eq.trans hbare.run_eq.symm⟩

def loopText : String := "while (x) x--;"

def loopFile : Files := ⟨.root, [(Location.root.child "loop.c", .file loopText.toUTF8)]⟩

/-- The text stands on standard input as well, and nothing is set in the environment. -/
def loopInput (args : List String) : Input where
  args
  stdin := loopText.toUTF8
  environment := ⟨none, none, none, none, none, none, none, none, none, false⟩
  clipboard := fun _ => .copied
  wording := ⟨fun _ => "", "", fun _ => "", ""⟩

def javaOptions : Options := ⟨none, some .java, none, false⟩

/-- A text from standard input and from a file, with more of the log and without. -/
theorem run_eq_of_settings_loop :
    readArguments ["analyze", "-djava"] = .ok (javaOptions.toInvocation none false) ∧
    SameButLog (loopInput ["--verbose", "analyze", "-djava"]) (loopInput ["analyze", "-djava"]) ∧
    Analyzes javaOptions loopText (loopInput ["analyze", "-djava", "loop.c"]) loopFile ∧
    javaOptions.config? (loopInput ["analyze", "-djava", "loop.c"]) loopFile = some .standard ∧
    let result (args : List String) := run (loopInput args) loopFile
    let step := (Session.start .java).run loopText.toList
    (result ["--verbose", "analyze", "-djava"]).out = (result ["analyze", "-djava"]).out ∧
      (result ["analyze", "-djava", "loop.c"]).out = (result ["analyze", "-djava"]).out ∧
      (result ["analyze", "-djava", "loop.c"]).code = 0 ∧
      (result ["analyze", "-djava", "loop.c"]).out =
        (Writer.print ⟨.plain, 30, false⟩
          (.report step.outcome step.session.dialect.name)).out := by
  obtain ⟨hlog, hverbose, hanalysis, hoperand⟩ := run_eq_of_settings
  have hargs : readArguments ["analyze", "-djava"] = .ok (javaOptions.toInvocation none false) := by
    decide +kernel
  have hread : loopFile.read (Path.ofText "loop.c") = .ok loopText := Files.read_of_find rfl
  have hsame := hverbose _ _ loopText.toUTF8 (loopInput []).environment (loopInput []).clipboard
    (loopInput []).wording hargs rfl
  have hasks : Analyzes javaOptions loopText (loopInput ["analyze", "-djava", "loop.c"]) loopFile :=
    ⟨some "loop.c", false, by decide +kernel, .file (by decide) hread⟩
  have hconfig : javaOptions.config? (loopInput ["analyze", "-djava", "loop.c"]) loopFile =
      some .standard := rfl
  have hshown := hoperand javaOptions ["analyze", "-djava"] false "loop.c" loopText
    loopText.toUTF8 (loopInput []).environment (loopInput []).clipboard (loopInput []).wording
    loopFile hargs (by decide) (by decide) (by decide) hread
  obtain ⟨hcode, hout⟩ := (hanalysis _ _ _ _ hasks).2 _ hconfig
  exact ⟨hargs, hsame, hasks, hconfig, (hlog _ _ loopFile hsame).1,
    (Prod.mk.inj hshown.2).1, hcode, hout⟩

end CodeGrowth.CommandLine
