import CodeGrowth.Display.Writer
import CodeGrowth.Proofs.Records
import Mathlib.Data.List.Nodup
import Mathlib.Data.Option.Basic

/-!
# Reports in JSON

In JSON a writer prints the documents of its reports and nothing else on the output stream. Each
document is a record in which the analysis, the explanation and the dialect stand side by side. No
key of one part is a key of another, so all three are read back from the record as they were.
-/
namespace CodeGrowth
open Json (record ofText)

namespace Analysis

/-- The numbers have the widths that the format gives them. -/
def Fits (analysis : Analysis) : Prop := ∀ findings ∈ analysis.findings?, findings.Fits

/-- The keys under which an analysis stands in a record. -/
def keys : List String := "state" :: Findings.keys

lemma keys_members_sublist (analysis : Analysis) :
    (analysis.members.map Prod.fst).Sublist keys := by
  cases analysis with
  | empty => exact .cons_cons "state" (List.nil_sublist _)
  | report findings => exact findings.keys_members_sublist.cons_cons "state"

lemma written_members (analysis : Analysis) : ∀ m ∈ analysis.members, Json.Written m.2 := by
  cases analysis with
  | empty => simp [members, Json.Written.text]
  | report findings => simpa [members, Json.Written.text] using findings.written_members

end Analysis

/-- The members that stand beside an analysis in a report. -/
def besideMembers (analysis : Analysis) (explanation : Explanation) (dialect : String) :
    List (String × Json) :=
  Json.member? "explanation" (analysis.findings?.map fun _ => explanation.toJson) ++
    [("dialect", ofText dialect)]

/-- All members of a report. -/
def reportMembers (analysis : Analysis) (explanation : Explanation) (dialect : String) :
    List (String × Json) :=
  analysis.members ++ besideMembers analysis explanation dialect

section Report
variable (analysis : Analysis) (explanation : Explanation) (dialect : String)

lemma reportRecord_eq : reportRecord analysis explanation dialect =
    record (reportMembers analysis explanation dialect) := by
  rw [reportRecord, reportMembers, besideMembers, List.append_assoc]

lemma keys_besideMembers_sublist :
    ((besideMembers analysis explanation dialect).map Prod.fst).Sublist
      ["explanation", "dialect"] := by
  rw [besideMembers, List.map_append]
  exact (Json.keys_member?_sublist _ _).append (List.Sublist.refl ["dialect"])

/-- No two parts of a report share a key. -/
lemma nodup_keys_reportMembers :
    ((reportMembers analysis explanation dialect).map Prod.fst).Nodup := by
  have hall : (Analysis.keys ++ ["explanation", "dialect"]).Nodup := by decide
  rw [reportMembers, List.map_append]
  exact hall.sublist (analysis.keys_members_sublist.append
    (keys_besideMembers_sublist analysis explanation dialect))

lemma written_reportRecord : Json.Written (reportRecord analysis explanation dialect) := by
  have hexplanation := Json.written_member? "explanation" (x := analysis.findings?)
    fun _ => explanation.written
  rw [reportRecord_eq]
  refine .record ?_
  simp only [reportMembers, besideMembers, List.forall_mem_append]
  exact ⟨analysis.written_members, hexplanation, by simp [Json.Written.text]⟩

lemma lookup_explanation : (reportMembers analysis explanation dialect).lookup "explanation" =
    analysis.findings?.map fun _ => explanation.toJson := by
  have hmembers : analysis.members.lookup "explanation" = none :=
    Json.lookup_eq_none analysis.keys_members_sublist (by decide)
  simp [reportMembers, besideMembers, List.lookup_append, hmembers, Json.lookup_member?,
    List.lookup_cons]

lemma lookup_dialect : (reportMembers analysis explanation dialect).lookup "dialect" =
    some (ofText dialect) := by
  have hmembers : analysis.members.lookup "dialect" = none :=
    Json.lookup_eq_none analysis.keys_members_sublist (by decide)
  simp [reportMembers, besideMembers, List.lookup_append, hmembers, Json.lookup_member?]

end Report

namespace Analysis

/-- What is left of a record without its mark. -/
lemma filter_state {others : List (String × Json)} (h : "state" ∉ others.map Prod.fst) :
    (others.map fun m => (some m.1, m.2)).filter (·.1 != some "state") =
      others.map fun m => (some m.1, m.2) := by
  rw [List.filter_eq_self]
  intro m hm
  obtain ⟨m, hmem, rfl⟩ := List.mem_map.1 hm
  have hne : m.1 ≠ "state" := by
    intro heq
    exact h (heq ▸ List.mem_map_of_mem hmem)
  simpa using hne

/-- A record that starts with the mark of the state and has no key twice. -/
lemma ofJson?_state {state : String} {others : List (String × Json)}
    (h : ((("state", ofText state) :: others).map Prod.fst).Nodup) :
    ofJson? (record (("state", ofText state) :: others)) = ofState? state (record others) := by
  have hstate : "state" ∉ others.map Prod.fst := (List.nodup_cons.1 h).1
  have hkeys : Json.byKey? ["state"]
      ((("state", ofText state) :: others).map fun m => (some m.1, m.2)) =
        some [some (.string (some state))] := by
    rw [Json.byKey?_keyed h, List.map_singleton, List.lookup_cons_self]
    rfl
  rw [record, ofJson?, hkeys]
  simp only [List.map_cons]
  rw [List.filter_cons_of_neg (by simp), filter_state hstate, record]

lemma ofState?_report (contents : Json) :
    ofState? "report" contents = (Findings.ofJson? contents).map report := by
  unfold ofState?
  rw [if_neg (by decide), if_pos rfl]

/-- An analysis is read back from its report. -/
theorem ofJson?_reportRecord {analysis : Analysis} (h : analysis.Fits) (explanation : Explanation)
    (dialect : String) : ofJson? (reportRecord analysis explanation dialect) = some analysis := by
  have hnodup := nodup_keys_reportMembers analysis explanation dialect
  have hbeside := keys_besideMembers_sublist analysis explanation dialect
  rw [reportRecord_eq, reportMembers]
  rw [reportMembers] at hnodup
  cases analysis with
  | empty => exact ofJson?_state hnodup
  | report findings =>
    have hdistinct : ∀ key ∈ Findings.keys, key ∉ ["explanation", "dialect"] := by decide
    have hfindings := Findings.ofJson?_members_append (h findings rfl) (List.nodup_cons.1 hnodup).2
      fun key hkey => Json.lookup_eq_none hbeside (hdistinct key hkey)
    rw [members, List.cons_append] at hnodup ⊢
    rw [ofJson?_state hnodup, ofState?_report, hfindings, Option.map_some]

end Analysis

namespace Display

/-- The step prints a report. -/
def Step.isReport : Step → Bool
  | .report _ _ => true
  | _ => false

namespace Writer
variable {writer : Writer}

lemma line_eq (text : List Char) : line text = ⟨text ++ ['\n'], []⟩ := rfl

lemma printReport_json (hjson : writer.format = .json) (outcome : Outcome) (dialect : String) :
    writer.printReport outcome dialect =
      line (reportRecord outcome.analysis outcome.explanation dialect).print := by
  obtain ⟨format, _, _⟩ := writer
  obtain rfl : format = .json := hjson
  -- opened as it stands: its equations would be those of every format
  delta printReport
  dsimp only

lemma print_report (hjson : writer.format = .json) (outcome : Outcome) (dialect : String) :
    writer.print (.report outcome dialect) =
      ⟨(reportRecord outcome.analysis outcome.explanation dialect).print ++ ['\n'], []⟩ := by
  rw [← line_eq, ← printReport_json hjson]
  rfl

lemma out_unlessJson (hjson : writer.format = .json) (printed : Printed) :
    (writer.unlessJson printed).out = [] := by
  rw [unlessJson, if_pos hjson]
  rfl

/-- What is no report leaves the output stream alone. -/
lemma out_print_of_not_isReport (hjson : writer.format = .json) {step : Step}
    (h : step.isReport = false) : (writer.print step).out = [] := by
  -- a match on the hypothesis as well would evaluate what the report prints
  revert h
  match step with
  | .section _ => exact fun _ => out_unlessJson hjson _
  | .success _ => exact fun _ => out_unlessJson hjson _
  | .warning _ => exact fun _ => rfl
  | .info _ => exact fun _ => out_unlessJson hjson _
  | .source _ => exact fun _ => out_unlessJson hjson _
  | .table _ => exact fun _ => out_unlessJson hjson _
  | .gauge _ => exact fun _ => rfl
  | .report _ _ => exact fun h => Bool.noConfusion h

lemma out_printAll (hjson : writer.format = .json) (steps : List Step) :
    (writer.printAll steps).out =
      (steps.filter Step.isReport).flatMap fun step => (writer.print step).out := by
  rw [printAll]
  induction steps with
  | nil => rfl
  | cons step steps ih =>
    rw [List.map_cons, Printed.all_cons, Printed.append_out, ih, List.filter_cons]
    split
    · rw [List.flatMap_cons]
    · next h => rw [out_print_of_not_isReport hjson (by simpa using h), List.nil_append]

/-- A report is one document and a line feed, and the document holds all that was reported. -/
theorem read_print_report (hjson : writer.format = .json) {analysis : Analysis}
    {explanation : Explanation} (hanalysis : analysis.Fits) (hexplanation : explanation.Fits)
    (dialect : String) :
    (∃ text members,
      writer.print (.report ⟨analysis, explanation⟩ dialect) = ⟨text ++ ['\n'], []⟩ ∧
      Json.read? text = some (.object members) ∧ (members.map Prod.fst).Nodup ∧
      Analysis.ofJson? (.object members) = some analysis ∧
      (members.lookup (some "explanation")).map Explanation.ofJson? =
        analysis.findings?.map (fun _ => some explanation) ∧
      (members.lookup (some "dialect")).map Json.text? = some (some dialect)) ∧
    ∀ steps, (writer.printAll steps).out =
      (steps.filter Step.isReport).flatMap fun step => (writer.print step).out := by
  refine ⟨⟨_, (reportMembers analysis explanation dialect).map fun m => (some m.1, m.2),
    print_report hjson ⟨analysis, explanation⟩ dialect, ?_, ?_, ?_, ?_, ?_⟩, out_printAll hjson⟩
  · rw [Json.read?_print (written_reportRecord analysis explanation dialect), reportRecord_eq,
      record]
  · have hnodup := nodup_keys_reportMembers analysis explanation dialect
    have hsome := hnodup.map (Option.some_injective String)
    rwa [List.map_map] at hsome ⊢
  · have hread := Analysis.ofJson?_reportRecord hanalysis explanation dialect
    rwa [reportRecord_eq, record] at hread
  · rw [Json.lookup_keyed, lookup_explanation, Option.map_map]
    simp [Function.comp_def, Explanation.ofJson?_toJson hexplanation]
  · rw [Json.lookup_keyed, lookup_dialect]
    rfl

/-- Findings on functions whose names are to be escaped, or reach beyond the basic plane. -/
def oddlyNamed : Findings where
  language := ⟨.mixed, 3, 3⟩
  loops := ⟨1, 0, 2⟩
  nestDepth := 2
  recursion := ⟨true, ["a\"b\\c\n\u0001", "größe", "𝑓"], ["𝑓"]⟩
  endlessLoop := true
  endless := some .emptyFor
  growth := none

/-- Neither the findings nor the explanation know a growth, and the dialect is to be escaped. -/
theorem read_print_report_oddlyNamed :
    (⟨.json, 20, true⟩ : Writer).format = .json ∧ (Analysis.report oddlyNamed).Fits ∧
      (Explanation.endless oddlyNamed).Fits ∧
      ∃ text members,
        (⟨.json, 20, true⟩ : Writer).print
          (.report ⟨.report oddlyNamed, .endless oddlyNamed⟩ "\t\"") = ⟨text ++ ['\n'], []⟩ ∧
        Json.read? text = some (.object members) ∧
        Analysis.ofJson? (.object members) = some (.report oddlyNamed) ∧
        (members.lookup (some "explanation")).map Explanation.ofJson? =
          some (some (.endless oddlyNamed)) ∧
        (members.lookup (some "dialect")).map Json.text? = some (some "\t\"") := by
  have hanalysis : (Analysis.report oddlyNamed).Fits := by
    rintro findings ⟨⟩
    exact ⟨⟨by decide, by decide⟩, ⟨by decide, by decide, by decide⟩, by decide,
      by simp [oddlyNamed]⟩
  have hexplanation : (Explanation.endless oddlyNamed).Fits :=
    ⟨by decide, ⟨by decide, by decide, by decide⟩, by decide, by simp [Explanation.endless],
      by decide⟩
  have hjson : (⟨.json, 20, true⟩ : Writer).format = .json := rfl
  obtain ⟨⟨text, members, hprint, hread, -, hmembers⟩, -⟩ :=
    read_print_report hjson hanalysis hexplanation "\t\""
  exact ⟨hjson, hanalysis, hexplanation, text, members, hprint, hread, hmembers⟩

end Writer

end Display

end CodeGrowth
