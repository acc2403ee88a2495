import CodeGrowth.Display.Writer
import Mathlib.Data.List.Forall2
import Mathlib.Data.List.Infix

/-!
# Colour is decoration

What a writer prints in colours is what it prints without them, decorated with control sequences.
Every part of its output is, down to the padded cells of a table: a cell is filled up by the length
of its text, and no control sequence is counted. So whoever deletes the control sequences has the
output without colours, provided that no text brings escape characters of its own.
-/
namespace CodeGrowth.Display
open Text

/-- The text after the first `m`, which ends a control sequence. -/
def afterFinal? : List Char → Option (List Char)
  | [] => none
  | c :: rest => if c = 'm' then some rest else afterFinal? rest

lemma length_afterFinal?_lt {cs rest : List Char} (h : afterFinal? cs = some rest) :
    rest.length < cs.length := by
  fun_induction afterFinal? cs with
  | case1 => contradiction
  | case2 =>
    cases h
    exact Nat.lt_succ_self _
  | case3 c cs _ ih => exact Nat.lt_succ_of_lt (ih h)

lemma afterFinal?_append {codes : List Char} (h : 'm' ∉ codes) (rest : List Char) :
    afterFinal? (codes ++ 'm' :: rest) = some rest := by
  induction codes with
  | nil => rfl
  | cons c codes ih =>
    rw [List.mem_cons, not_or] at h
    rw [List.cons_append, afterFinal?, if_neg (Ne.symm h.1), ih h.2]

/-- The text without its control sequences. Each starts with an escape and a bracket and ends with
the first `m` behind them; if there is none, it is no control sequence. -/
def uncoloured (text : List Char) : List Char :=
  match text with
  | [] => []
  | '\x1b' :: '[' :: rest =>
    match _ : afterFinal? rest with
    | some rest => uncoloured rest
    | none => '\x1b' :: '[' :: rest
  | c :: rest => c :: uncoloured rest
termination_by text.length
decreasing_by
  · have := length_afterFinal?_lt ‹afterFinal? _ = some _›
    simp only [List.length_cons]
    omega
  · simp

/-- The text has no escape character. -/
def EscapeFree (text : List Char) : Prop := '\x1b' ∉ text

instance (text : List Char) : Decidable (EscapeFree text) :=
  inferInstanceAs (Decidable ('\x1b' ∉ text))

/-- The first text is the second with control sequences put in. -/
inductive Decorates : List Char → List Char → Prop
  | nil : Decorates [] []
  | char {c : Char} {cs ds : List Char} (hc : c ≠ '\x1b') (h : Decorates cs ds) :
      Decorates (c :: cs) (c :: ds)
  | sequence {codes cs ds : List Char} (hcodes : 'm' ∉ codes) (h : Decorates cs ds) :
      Decorates ('\x1b' :: '[' :: (codes ++ 'm' :: cs)) ds

lemma EscapeFree.decorates {text : List Char} (h : EscapeFree text) : Decorates text text := by
  induction text with
  | nil => exact .nil
  | cons c cs ih =>
    rw [EscapeFree, List.mem_cons, not_or] at h
    exact .char (Ne.symm h.1) (ih h.2)

lemma Decorates.append {cs ds cs' ds' : List Char} (h : Decorates cs ds) (h' : Decorates cs' ds') :
    Decorates (cs ++ cs') (ds ++ ds') := by
  induction h with
  | nil => exact h'
  | char hc _ ih => exact .char hc ih
  | sequence hcodes _ ih =>
    rw [List.cons_append, List.cons_append, List.append_assoc]
    exact .sequence hcodes ih

theorem Decorates.uncoloured_eq {cs ds : List Char} (h : Decorates cs ds) : uncoloured cs = ds := by
  induction h with
  | nil => rw [uncoloured]
  | @char c cs ds hc _ ih =>
    rw [uncoloured, ih]
    exact fun _ heq => absurd heq hc
  | @sequence codes cs ds hcodes _ ih =>
    have hend := afterFinal?_append hcodes cs
    rw [uncoloured]
    split
    · next heq =>
      rw [hend] at heq
      cases heq
      exact ih
    · next heq =>
      rw [hend] at heq
      contradiction

@[simp] lemma escapeFree_nil : EscapeFree [] := List.not_mem_nil

@[simp] lemma escapeFree_cons {c : Char} {cs : List Char} :
    EscapeFree (c :: cs) ↔ c ≠ '\x1b' ∧ EscapeFree cs := by
  rw [EscapeFree, List.mem_cons, not_or, eq_comm (a := '\x1b')]
  rfl

@[simp] lemma escapeFree_append {a b : List Char} :
    EscapeFree (a ++ b) ↔ EscapeFree a ∧ EscapeFree b := by
  rw [EscapeFree, List.mem_append, not_or]
  rfl

lemma escapeFree_replicate {c : Char} (h : c ≠ '\x1b') (n : Nat) :
    EscapeFree (List.replicate n c) := fun hmem => h (List.eq_of_mem_replicate hmem).symm

lemma escapeFree_intercalate {separator : List Char} (h : EscapeFree separator)
    {parts : List (List Char)} :
    EscapeFree (separator.intercalate parts) ↔ ∀ part ∈ parts, EscapeFree part := by
  induction parts with
  | nil => simp
  | cons part parts ih =>
    cases parts with
    | nil => simp
    | cons second parts =>
      rw [List.intercalate_cons_cons, escapeFree_append, escapeFree_append, ih,
        List.forall_mem_cons (a := part), and_iff_left h]

lemma escapeFree_toDigits (n : Nat) : EscapeFree (Nat.toDigits 10 n) := fun hmem =>
  absurd (Nat.isDigit_of_mem_toDigits (by omega) (by omega) hmem) (by decide)

lemma escapeFree_dropReturn {line : List Char} (h : EscapeFree line) :
    EscapeFree (dropReturn line) := by
  rw [dropReturn]
  split
  · exact fun hmem => h (List.mem_of_mem_dropLast hmem)
  · exact h

lemma escapeFree_listed {pieces : List (List Char)} (h : ∀ piece ∈ pieces, EscapeFree piece) :
    ∀ line ∈ listed pieces, EscapeFree line := by
  fun_induction listed pieces with
  | case1 => exact h
  | case2 => simp
  | case3 => exact h
  | case4 piece second pieces ih =>
    obtain ⟨hpiece, hrest⟩ := List.forall_mem_cons.1 h
    exact List.forall_mem_cons.2 ⟨escapeFree_dropReturn hpiece, ih hrest⟩

lemma escapeFree_listing {text : List Char} (h : EscapeFree text) :
    ∀ line ∈ listing text, EscapeFree line := by
  rw [← intercalate_lines text, escapeFree_intercalate (by decide)] at h
  exact escapeFree_listed h

lemma resumed_of_escapeFree {text : List Char} (h : EscapeFree text) (ink : Ink) :
    resumed ink text = text := by
  induction text with
  | nil => rfl
  | cons c cs ih =>
    rw [escapeFree_cons] at h
    rw [resumed, ih h.2]
    exact fun _ heq => absurd heq h.1

lemma Decorates.sequence_append {cs ds : List Char} (ink : Ink) (h : Decorates cs ds) :
    Decorates (ink.sequence ++ cs) ds := by
  have hcodes : 'm' ∉ ink.codes.toList := by cases ink <;> decide
  have hsequence : ink.sequence ++ cs = '\x1b' :: '[' :: (ink.codes.toList ++ 'm' :: cs) := by
    simp [Ink.sequence]
  rw [hsequence]
  exact .sequence hcodes h

lemma decorates_reset : Decorates reset [] := by
  have hcodes : 'm' ∉ ['0'] := by decide
  exact .sequence hcodes .nil

/-- Text and padding stand between the control sequences. -/
lemma decorates_paint {text : List Char} (h : EscapeFree text) (ink : Ink) (width : Nat) :
    Decorates (paint true ink width text) (paint false ink width text) := by
  have hpadded : EscapeFree (padded width text) :=
    escapeFree_append.2 ⟨h, escapeFree_replicate (by decide) _⟩
  have hinked := (hpadded.decorates.append decorates_reset).sequence_append ink
  rw [List.append_nil, ← List.append_assoc] at hinked
  rw [paint, if_pos rfl, inked, resumed_of_escapeFree h]
  exact hinked

/-- What is printed in colours decorates what is printed without, on either stream. -/
structure Printed.Decorates (coloured plain : Printed) : Prop where
  out : Display.Decorates coloured.out plain.out
  err : Display.Decorates coloured.err plain.err

namespace Printed.Decorates
variable {a b a' b' : Printed}

lemma none : Decorates .none .none := ⟨.nil, .nil⟩

lemma append (h : Decorates a b) (h' : Decorates a' b') : Decorates (a ++ a') (b ++ b') :=
  ⟨h.out.append h'.out, h.err.append h'.err⟩

lemma all {parts parts' : List Printed} (h : List.Forall₂ Decorates parts parts') :
    Decorates (.all parts) (.all parts') := by
  induction h with
  | nil => exact none
  | cons hpart _ ih => exact hpart.append ih

lemma all_map {α : Type} {items : List α} {print print' : α → Printed}
    (h : ∀ item ∈ items, Decorates (print item) (print' item)) :
    Decorates (.all (items.map print)) (.all (items.map print')) := by
  refine all ?_
  rw [List.forall₂_map_left_iff, List.forall₂_map_right_iff, List.forall₂_same]
  exact h

end Printed.Decorates

namespace Writer

/-- The writer for readers, with colours. -/
def inColours (gaugeWidth : Nat) : Writer := ⟨.human, gaugeWidth, true⟩

/-- The writer for readers, without colours. -/
def withoutColours (gaugeWidth : Nat) : Writer := ⟨.human, gaugeWidth, false⟩

variable {width : Nat}

lemma decorates_line {a b : List Char} (h : Decorates a b) :
    Printed.Decorates (line a) (line b) :=
  ⟨h.append (EscapeFree.decorates (by decide)), .nil⟩

lemma decorates_indented {a b : List Char} (h : Decorates a b) :
    Printed.Decorates (indented a) (indented b) :=
  decorates_line ((EscapeFree.decorates (by decide)).append h)

lemma decorates_ink {text : List Char} (h : EscapeFree text) (ink : Ink) :
    Decorates ((inColours width).ink ink text) ((withoutColours width).ink ink text) :=
  decorates_paint h ink 0

lemma decorates_printSection {title : List Char} (h : EscapeFree title) :
    Printed.Decorates ((inColours width).printSection title)
      ((withoutColours width).printSection title) := by
  have hline : EscapeFree (List.replicate title.length '═') := escapeFree_replicate (by decide) _
  exact ((decorates_line .nil).append (decorates_line (decorates_ink h _))).append
    (decorates_line (decorates_ink hline _))

lemma decorates_printInfo {message : List Char} (h : EscapeFree message) :
    Printed.Decorates ((inColours width).printInfo message)
      ((withoutColours width).printInfo message) := decorates_indented h.decorates

lemma decorates_printSuccess {message : List Char} (h : EscapeFree message) :
    Printed.Decorates ((inColours width).printSuccess message)
      ((withoutColours width).printSuccess message) :=
  decorates_indented ((decorates_ink (by decide) .green).append
    (EscapeFree.decorates (escapeFree_cons.2 ⟨by decide, h⟩)))

lemma decorates_printWarning {message : List Char} (h : EscapeFree message) :
    Printed.Decorates ((inColours width).printWarning message)
      ((withoutColours width).printWarning message) := by
  have hindent : EscapeFree "  ".toList := by decide
  have hend : EscapeFree ['\n'] := by decide
  have hmessage : EscapeFree (' ' :: message) := escapeFree_cons.2 ⟨by decide, h⟩
  exact ⟨.nil, ((hindent.decorates.append (decorates_ink (by decide) .yellow)).append
    hmessage.decorates).append hend.decorates⟩

/-- The key is padded inside the control sequences to the same width. -/
lemma decorates_printTable {rows : List (List Char × List Char)}
    (h : ∀ row ∈ rows, EscapeFree row.1 ∧ EscapeFree row.2) :
    Printed.Decorates ((inColours width).printTable rows)
      ((withoutColours width).printTable rows) := by
  refine .all_map fun row hrow => decorates_indented ?_
  have hseparator : EscapeFree " │ ".toList := by decide
  exact ((decorates_paint (h row hrow).1 .yellow (keyWidth rows)).append
    hseparator.decorates).append (h row hrow).2.decorates

lemma decorates_printSource {code : List Char} (h : EscapeFree code) :
    Printed.Decorates ((inColours width).printSource code)
      ((withoutColours width).printSource code) :=
  (decorates_printSection (by decide)).append <|
    .all_map fun _ hline => decorates_indented (decorates_ink (escapeFree_listing h _ hline) .dim)

lemma decorates_gauge (width percent : Nat) :
    Decorates ((inColours width).gauge percent) ((withoutColours width).gauge percent) := by
  have hbar : EscapeFree (bar '█' '░' percent width) :=
    escapeFree_append.2 ⟨escapeFree_replicate (by decide) _, escapeFree_replicate (by decide) _⟩
  have hleft : EscapeFree ['│'] := by decide
  have hright : EscapeFree ['│', ' '] := by decide
  have hfigure := escapeFree_toDigits percent
  have hsign : EscapeFree ['%'] := by decide
  exact (((hleft.decorates.append (decorates_ink hbar (gaugeInk percent))).append
    hright.decorates).append hfigure.decorates).append hsign.decorates

lemma decorates_badge {headline : Headline} (h : EscapeFree headline.text.toList) :
    Decorates ((inColours width).badge headline) ((withoutColours width).badge headline) :=
  decorates_ink (escapeFree_cons.2 ⟨by decide, escapeFree_append.2 ⟨h, by decide⟩⟩) _

lemma escapeFree_draw {rule : Rule} (h : EscapeFree [rule.left, rule.line, rule.joint, rule.right])
    (columns : List Column) : EscapeFree (rule.draw columns) := by
  simp only [escapeFree_cons, escapeFree_nil, and_true] at h
  obtain ⟨hleft, hline, hjoint, hright⟩ := h
  have hjoints : EscapeFree [rule.joint] := escapeFree_cons.2 ⟨hjoint, escapeFree_nil⟩
  rw [Rule.draw, escapeFree_append, escapeFree_append, escapeFree_intercalate hjoints]
  refine ⟨⟨escapeFree_cons.2 ⟨hleft, escapeFree_nil⟩, ?_⟩,
    escapeFree_cons.2 ⟨hright, escapeFree_nil⟩⟩
  rw [List.forall_mem_map]
  exact fun column _ => escapeFree_replicate hline _

lemma escapeFree_cellLine {cell : Column → List Char} {columns : List Column}
    (h : ∀ column ∈ columns, EscapeFree (cell column)) :
    EscapeFree (cellLine .drawn cell columns) := by
  rw [cellLine, escapeFree_append, escapeFree_append, escapeFree_intercalate (by decide),
    List.forall_mem_map]
  refine ⟨⟨by decide, fun column hcolumn => ?_⟩, by decide⟩
  rw [escapeFree_append, escapeFree_append, escapeFree_append]
  exact ⟨⟨⟨by decide, h column hcolumn⟩, escapeFree_replicate (by decide) _⟩, by decide⟩

lemma escapeFree_loopTable (explanation : Explanation) :
    EscapeFree (grid .drawn (loopColumns explanation)) := by
  have hcells : ∀ column ∈ loopColumns explanation,
      EscapeFree column.heading ∧ EscapeFree column.cell := by
    simp only [loopColumns, List.forall_mem_cons, escapeFree_toDigits, and_true]
    decide
  rw [grid, escapeFree_intercalate (by decide)]
  simp only [gridLines, List.forall_mem_cons, List.not_mem_nil, false_implies, implies_true,
    and_true]
  exact ⟨escapeFree_draw (by decide) _, escapeFree_cellLine fun column h => (hcells column h).1,
    escapeFree_draw (by decide) _, escapeFree_cellLine fun column h => (hcells column h).2,
    escapeFree_draw (by decide) _⟩

lemma escapeFree_scoresText (explanation : Explanation) :
    EscapeFree (scoresText explanation).toList := by
  have hrepr : ∀ n : Nat, EscapeFree n.repr.toList := fun n => by
    rw [Nat.repr, String.toList_ofList]
    exact escapeFree_toDigits n
  rw [scoresText]
  split
  · simp only [String.toList_append, escapeFree_append, hrepr, and_true]
    decide
  · decide

/-- No text that is shown of the explanation has an escape character. -/
structure TextsEscapeFree (explanation : Explanation) : Prop where
  language : EscapeFree explanation.language.toList
  growth : EscapeFree explanation.growth.text.toList
  growthDetails : EscapeFree explanation.growthDetails.toList
  recursion : EscapeFree explanation.recursion.text.toList
  recursionDetails : EscapeFree explanation.recursionDetails.toList
  prose : EscapeFree explanation.prose.toList

lemma decorates_printFindings {explanation : Explanation} (h : TextsEscapeFree explanation)
    {dialect : String} (hdialect : EscapeFree dialect.toList) :
    Printed.Decorates ((inColours width).printFindings explanation dialect)
      ((withoutColours width).printFindings explanation dialect) := by
  have hrows : ∀ row ∈ [("Detected".toList, explanation.language.toList),
      ("Scores".toList, (scoresText explanation).toList), ("Dialect".toList, dialect.toList)],
      EscapeFree row.1 ∧ EscapeFree row.2 := by
    simp only [List.forall_mem_cons, h.language, escapeFree_scoresText, hdialect, and_true]
    decide
  have hdetails : Printed.Decorates
      (if explanation.recursionDetails.isEmpty then .none
        else (inColours width).printInfo explanation.recursionDetails.toList)
      (if explanation.recursionDetails.isEmpty then .none
        else (withoutColours width).printInfo explanation.recursionDetails.toList) := by
    split
    · exact .none
    · exact decorates_printInfo h.recursionDetails
  exact .all <|
    .cons (decorates_printSection (by decide)) <|
    .cons (decorates_printTable hrows) <|
    .cons (decorates_printSection (by decide)) <|
    .cons (decorates_line (escapeFree_loopTable explanation).decorates) <|
    .cons (decorates_printSection (by decide)) <|
    .cons (decorates_indented (decorates_badge h.recursion)) <|
    .cons hdetails <|
    .cons (decorates_printSection (by decide)) <|
    .cons (decorates_indented (decorates_badge h.growth)) <|
    .cons (decorates_printInfo h.growthDetails) <|
    .cons (decorates_indented (decorates_gauge width explanation.percent)) <|
    .cons (decorates_printSection (by decide)) <|
    .cons (decorates_printInfo h.prose) .nil

lemma decorates_printReport {outcome : Outcome} (h : TextsEscapeFree outcome.explanation)
    {dialect : String} (hdialect : EscapeFree dialect.toList) :
    Printed.Decorates ((inColours width).printReport outcome dialect)
      ((withoutColours width).printReport outcome dialect) := by
  -- opened as it stands: its equations would be those of every format
  delta printReport
  dsimp only [inColours, withoutColours]
  cases outcome.analysis with
  | empty => exact (decorates_printSection (by decide)).append (decorates_printInfo h.prose)
  | report => exact decorates_printFindings h hdialect

end Writer

/-- No text of the step has an escape character. -/
def Step.TextsEscapeFree : Step → Prop
  | .section text | .success text | .warning text | .info text | .source text => EscapeFree text
  | .table rows => ∀ row ∈ rows, EscapeFree row.1 ∧ EscapeFree row.2
  | .gauge _ => True
  | .report outcome dialect =>
    Writer.TextsEscapeFree outcome.explanation ∧ EscapeFree dialect.toList

namespace Writer

/-- One step: a case for each kind. -/
lemma decorates_print {step : Step} (h : step.TextsEscapeFree) (width : Nat) :
    Printed.Decorates ((inColours width).print step) ((withoutColours width).print step) := by
  -- a match on the hypothesis as well would evaluate what is printed
  revert h
  match step with
  | .section _ => exact decorates_printSection
  | .success _ => exact decorates_printSuccess
  | .warning _ => exact decorates_printWarning
  | .info _ => exact decorates_printInfo
  | .source _ => exact decorates_printSource
  | .table _ => exact decorates_printTable
  | .gauge _ => exact fun _ => .none
  | .report _ _ => exact fun h => decorates_printReport h.1 h.2

/-- Without its control sequences, coloured output is the output without colours: on both streams,
for any steps, and for a gauge by itself. -/
theorem uncoloured_printAll {steps : List Step} (h : ∀ step ∈ steps, step.TextsEscapeFree)
    (width : Nat) :
    uncoloured ((inColours width).printAll steps).out =
        ((withoutColours width).printAll steps).out ∧
      uncoloured ((inColours width).printAll steps).err =
        ((withoutColours width).printAll steps).err ∧
      ∀ percent, uncoloured ((inColours width).gauge percent) =
        (withoutColours width).gauge percent := by
  have hall : Printed.Decorates ((inColours width).printAll steps)
      ((withoutColours width).printAll steps) := .all_map fun step hstep =>
    decorates_print (h step hstep) width
  exact ⟨hall.out.uncoloured_eq, hall.err.uncoloured_eq,
    fun percent => (decorates_gauge width percent).uncoloured_eq⟩

/-- An explanation without details on recursion. -/
def brief : Explanation where
  language := "Java"
  scores := some (0, 4)
  loops := ⟨1, 0, 0⟩
  nestDepth := 1
  functions := ["größer"]
  growth := ⟨"O(n²)", .warn⟩
  growthLevel := some 2
  growthDetails := "One loop."
  recursion := ⟨"No recursion found", .good⟩
  recursionDetails := ""
  prose := "…"
  percent := 75

/-- Steps of every kind, with a key that takes more bytes than characters, empty texts, a text like
the end of a control sequence, and line ends of both kinds. -/
def decoratedSteps : List Step :=
  [.section "Übersicht".toList, .success "m".toList, .warning [], .info "[0m".toList,
    .source "for (;;)\r\n\n".toList, .table [("größe".toList, "1".toList), ([], [])], .gauge 50,
    .report ⟨.empty, brief⟩ "c",
    .report ⟨.report ⟨⟨.java, 0, 4⟩, ⟨1, 0, 0⟩, 1, ⟨false, ["größer"], []⟩, false, none, none⟩,
      brief⟩ "java"]

theorem uncoloured_printAll_decoratedSteps :
    (∀ step ∈ decoratedSteps, step.TextsEscapeFree) ∧
      uncoloured ((inColours 20).printAll decoratedSteps).out =
        ((withoutColours 20).printAll decoratedSteps).out ∧
      uncoloured ((inColours 20).printAll decoratedSteps).err =
        ((withoutColours 20).printAll decoratedSteps).err ∧
      uncoloured ((inColours 20).gauge 101) = (withoutColours 20).gauge 101 := by
  have hsteps : ∀ step ∈ decoratedSteps, step.TextsEscapeFree := by
    simp only [decoratedSteps, List.forall_mem_cons, List.not_mem_nil, false_implies, implies_true,
      and_true, true_and, Step.TextsEscapeFree]
    have hbrief : TextsEscapeFree brief :=
      ⟨by decide, by decide, by decide, by decide, by decide, by decide⟩
    exact ⟨by decide, by decide, by decide, by decide, by decide, by decide, ⟨hbrief, by decide⟩,
      hbrief, by decide⟩
  obtain ⟨hout, herr, hgauge⟩ := uncoloured_printAll hsteps 20
  exact ⟨hsteps, hout, herr, hgauge 101⟩

end Writer

end CodeGrowth.Display
