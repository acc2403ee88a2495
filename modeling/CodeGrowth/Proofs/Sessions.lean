import CodeGrowth.Proofs.Comments
import CodeGrowth.Session

/-!
# Histories of a session

A session is asked again and again to run a snippet, or the example of the selected dialect. Which
text an example is depends on the selection, and that on the texts before it. So the texts of a
history are found by going through its states; what the session shows and selects in the end is
then read off those texts alone.
-/
namespace CodeGrowth
open Text

namespace Language

/-- Neither example has an idiom of one of the languages, but both have semicolons. -/
theorem Dialect.steered?_analyze_sample (dialect : Dialect) :
    (analyze dialect.sample.toList).steered? = some .c := by
  delta Dialect.sample
  -- The parts of the text are evaluated one by one, not the text that they are joined to.
  cases dialect <;> simp only [String.toList_append] <;> decide +kernel

end Language

namespace Log

lemma Event.message_dialectSwitched_inj {d e : Language.Dialect} :
    (dialectSwitched d).message = (dialectSwitched e).message ↔ d = e := by
  cases d <;> cases e <;> decide

/-- What is found in a text is noted for debugging only. -/
lemma level_of_mem_ofAnalysis {analysis : Analysis} {event : Event}
    (h : event ∈ ofAnalysis analysis) : event.level = .debug := by
  cases analysis with
  | empty =>
    obtain rfl := List.mem_singleton.1 h
    rfl
  | report findings =>
    rw [ofAnalysis, List.mem_append, List.mem_map] at h
    obtain hfixed | ⟨kind, -, rfl⟩ := h
    · simp only [List.mem_cons, List.not_mem_nil, or_false] at hfixed
      obtain rfl | rfl | rfl := hfixed <;> rfl
    · rfl

end Log

namespace Session
variable (session : Session)

/-- A session notes for information that its selection moved, and nothing else. -/
lemma mem_notes_iff {outcome : Outcome} {event : Log.Event} (h : event.level = .info) :
    event ∈ session.notes outcome ↔
      event = .dialectSwitched (session.accept outcome).dialect ∧
        (session.accept outcome).dialect ≠ session.dialect := by
  obtain ⟨analysis, explanation⟩ := outcome
  cases analysis with
  | empty =>
    have hne : event ≠ .displayReset := by
      rintro rfl
      exact absurd h (by decide)
    simp [notes, accept, Analysis.steered?, Analysis.findings?, hne]
  | report findings =>
    simp only [notes, accept, Analysis.steered?, Analysis.findings?, Option.bind_some]
    cases findings.language.label.steered? with
    | none => simp
    | some dialect =>
      by_cases heq : dialect = session.dialect <;> simp [heq]

lemma mem_events_run_iff {source : List Char} {event : Log.Event} (h : event.level = .info) :
    event ∈ (session.run source).events ↔
      event = .dialectSwitched (session.run source).session.dialect ∧
        (session.run source).session.dialect ≠ session.dialect := by
  have hfound : event ∉ Log.ofAnalysis (Outcome.ofSource source).analysis := by
    intro hmem
    have hdebug := Log.level_of_mem_ofAnalysis hmem
    rw [h] at hdebug
    exact absurd hdebug (by decide)
  rw [run, List.mem_append, or_iff_right hfound, mem_notes_iff session h]

/-- The line that tells of a move stands in the log just if the selection moved there. -/
lemma exists_switch_iff (source : List Char) (dialect : Language.Dialect) :
    (∃ event ∈ (session.run source).events, event.level = .info ∧
        event.message = "Dialect selector switched to " ++ dialect.name) ↔
      (session.run source).session.dialect = dialect ∧
        (session.run source).session.dialect ≠ session.dialect := by
  constructor
  · rintro ⟨event, hmem, hinfo, hmessage⟩
    obtain ⟨rfl, hne⟩ := (session.mem_events_run_iff hinfo).1 hmem
    exact ⟨Log.Event.message_dialectSwitched_inj.1 hmessage, hne⟩
  · rintro ⟨rfl, hne⟩
    exact ⟨.dialectSwitched _, (session.mem_events_run_iff rfl).2 ⟨rfl, hne⟩, rfl, rfl⟩

lemma outcome_run (source : List Char) : (session.run source).outcome = .ofSource source := rfl

lemma last_run (source : List Char) :
    (session.run source).session.last = explain (analyze source) := rfl

lemma dialect_run (source : List Char) : (session.run source).session.dialect =
    (analyze source).steered?.getD session.dialect := rfl

/-- An example leaves C selected. -/
lemma dialect_runSample : session.runSample.session.dialect = .c := by
  rw [runSample, dialect_run, Language.Dialect.steered?_analyze_sample, Option.getD_some]

/-- Blank text resets what is shown and leaves the selection alone. -/
lemma session_run_allBlank {source : List Char} (h : AllBlank source) :
    (session.run source).session = ⟨session.dialect, .empty⟩ := by
  have hanalysis : analyze source = .empty := by rw [analyze_eq, if_pos h]
  rw [run, accept, Outcome.ofSource, hanalysis]
  rfl

/-- What a session is asked for. -/
inductive Act where
  | run (code : List Char)
  | sample
  deriving DecidableEq, Repr

/-- The text that the session analyzes. -/
def source : Act → List Char
  | .run code => code
  | .sample => session.dialect.sample.toList

def perform : Act → Step
  | .run code => session.run code
  | .sample => session.runSample

/-- The session after a history. -/
def after (acts : List Act) : Session :=
  acts.foldl (fun session act => (session.perform act).session) session

/-- The texts that are analyzed in a history, in their order. -/
def sources (session : Session) : List Act → List (List Char)
  | [] => []
  | act :: acts => session.source act :: (session.perform act).session.sources acts

lemma perform_eq (act : Act) : session.perform act = session.run (session.source act) := by
  cases act <;> rfl

lemma after_cons (act : Act) (acts : List Act) :
    session.after (act :: acts) = (session.perform act).session.after acts := rfl

theorem last_after (acts : List Act) : (session.after acts).last =
    ((session.sources acts).map fun source => explain (analyze source)).getLastD session.last := by
  induction acts generalizing session with
  | nil => rfl
  | cons act acts ih =>
    rw [after_cons, ih, sources, List.map_cons, List.getLastD_cons, perform_eq, last_run]

theorem dialect_after (acts : List Act) : (session.after acts).dialect =
    ((session.sources acts).filterMap fun source => (analyze source).steered?).getLastD
      session.dialect := by
  induction acts generalizing session with
  | nil => rfl
  | cons act acts ih =>
    rw [after_cons, ih, sources, List.filterMap_cons, perform_eq, dialect_run]
    cases (analyze (session.source act)).steered? with
    | none => rw [Option.getD_none]
    | some dialect => rw [Option.getD_some, List.getLastD_cons]

/-- What a session shows and selects after a history, and what its next step does. -/
theorem after_start (dialect : Language.Dialect) (acts : List Act) :
    let session := (start dialect).after acts
    let sources := (start dialect).sources acts
    session.last = (sources.map fun source => explain (analyze source)).getLastD .empty ∧
    session.dialect =
      (sources.filterMap fun source => (analyze source).steered?).getLastD dialect ∧
    (session.runSample.outcome = .ofSource session.dialect.sample.toList ∧
      session.runSample.session.dialect = .c) ∧
    ∀ act,
      (session.perform act).outcome = .ofSource (session.source act) ∧
      (AllBlank (session.source act) →
        (session.perform act).session = ⟨session.dialect, .empty⟩) ∧
      ∀ next,
        (∃ event ∈ (session.perform act).events, event.level = .info ∧
          event.message = "Dialect selector switched to " ++ next.name) ↔
        (session.perform act).session.dialect = next ∧
          (session.perform act).session.dialect ≠ session.dialect := by
  intro session sources
  refine ⟨last_after _ acts, dialect_after _ acts,
    ⟨session.outcome_run _, session.dialect_runSample⟩, fun act => ?_⟩
  rw [perform_eq]
  exact ⟨session.outcome_run _, session.session_run_allBlank, session.exists_switch_iff _⟩

end Session

end CodeGrowth
