import CodeGrowth.Proofs.Outlines
import CodeGrowth.Proofs.SplitHeaders
import CodeGrowth.Proofs.Wrapping

/-!
# Levels that no brace opens

A loop header without a brace on its line opens a level for the body on a later line. Only a closing
brace takes a level back, so this one stays open behind the body and to the end of the text. Where
braces never close more than is open, the depth is the sum of all levels opened so, and of all
braces. Without any braces it only grows, and the greatest depth is the number of the lines with a
loop header: loops in sequence are as deep as if each stood in the one before it. With braces around
their bodies they are not.
-/
namespace CodeGrowth.Loop
open Text

/-- A line with a loop header whose body opens on a later line. -/
def opensLevel (line : List Char) : Bool := hasHeader line && !line.contains '{'

/-- The levels that are opened in a text without a brace. -/
def openLevels (text : List Char) : Nat := (lines text).countP opensLevel

namespace Nesting
variable {nesting : Nesting} {line : List Char}

lemma depth_enter (nesting : Nesting) (line : List Char) :
    (nesting.enter line).depth = nesting.depth + if opensLevel line then 1 else 0 := by
  rw [enter, opensLevel]
  cases hasHeader line with
  | false => rfl
  | true => cases line.contains '{' <;> rfl

lemma depth_afterLine (nesting : Nesting) (line : List Char) :
    (nesting.afterLine line).depth =
      (nesting.depth + if opensLevel line then 1 else 0) + line.count '{' - line.count '}' := by
  rw [← depth_enter]
  rfl

/-- Every brace and every level opened without one counts, if no brace closes more than is open. -/
theorem depth_afterLines (nesting : Nesting) {text : List Char} (h : Covered nesting.depth text) :
    (nesting.afterLines (lines text)).depth + text.count '}' =
      nesting.depth + openLevels text + text.count '{' := by
  induction text using line_induction generalizing nesting with
  | last cs hcs =>
    have hcount := h.count_le
    have hdepth := nesting.depth_afterLine cs
    rw [openLevels, lines_of_notMem hcs, afterLines_cons, List.countP_singleton]
    show (nesting.afterLine cs).depth + _ = _
    omega
  | line cs ds hcs ih =>
    have hcount := h.left.count_le
    have hdepth := nesting.depth_afterLine cs
    have hrest := ih _ (covered_afterLine h)
    rw [openLevels] at hrest ⊢
    rw [lines_line_append hcs, afterLines_cons, List.countP_cons, List.count_append,
      List.count_append, List.count_cons_of_ne (by decide), List.count_cons_of_ne (by decide)]
    omega

lemma afterLine_of_braceFree (nesting : Nesting) (hfree : BraceFree line) :
    nesting.afterLine line =
      ⟨nesting.depth + (if hasHeader line then 1 else 0),
        max nesting.peak (nesting.depth + if hasHeader line then 1 else 0)⟩ := by
  have hcontains : line.contains '{' = false := by simpa using hfree.1
  rw [afterLine, enter, hcontains]
  cases hasHeader line with
  | false => simp [settle, hfree.count_open, hfree.count_close]
  | true => simp [settle, hfree.count_open, hfree.count_close]

/-- Without braces the depth only grows, by one level for each line with a loop header. -/
theorem afterLines_of_braceFree (h : nesting.depth ≤ nesting.peak) {ls : List (List Char)}
    (hfree : ∀ line ∈ ls, BraceFree line) :
    nesting.afterLines ls =
      ⟨nesting.depth + ls.countP hasHeader,
        max nesting.peak (nesting.depth + ls.countP hasHeader)⟩ := by
  induction ls generalizing nesting with
  | nil =>
    rw [List.countP_nil, Nat.add_zero, Nat.max_eq_left h]
    rfl
  | cons line ls ih =>
    obtain ⟨hline, hrest⟩ := List.forall_mem_cons.1 hfree
    have hnext := ih (nesting.depth_le_peak_afterLine line) hrest
    rw [afterLines_cons, hnext, afterLine_of_braceFree nesting hline, List.countP_cons,
      Nesting.mk.injEq]
    dsimp only
    omega

end Nesting

end CodeGrowth.Loop

namespace CodeGrowth.Outlines
open Text Loop

/-- The header line of a for or while loop whose body begins on a later line. -/
structure Head extends Plain where
  header : Header
  header_mem : header ∈ [forHead, whileHead]
  indent : List Char
  gap : List Char
  control : List Char
  trailing : List Char
  allBlank : AllBlank indent ∧ AllBlank gap ∧ AllBlank trailing
  text_eq : text =
    indent ++ (header.keyword ++ (gap ++ header.bracket :: (control ++ ')' :: trailing)))

/-- A loop over a simple statement on the next line. -/
structure SimpleLoop where
  head : Head
  body : Statement

/-- No word runs out of white space. -/
lemma getLast?_any_isWord_of_allBlank {g : List Char} (h : AllBlank g) :
    g.getLast?.any isWord = false := by
  cases hlast : g.getLast? with
  | none => rfl
  | some c => exact isWord_of_isBlank (h c (List.mem_of_getLast? hlast))

lemma Head.hasHeader_text (head : Head) : hasHeader head.text = true := by
  obtain ⟨hindent, hgap, -⟩ := head.allBlank
  have hheader : head.header ∈ loopHeads := by
    have hmem := head.header_mem
    simp only [loopHeads, List.mem_cons, List.not_mem_nil, or_false] at hmem ⊢
    exact hmem.imp_right .inl
  exact hasHeader_iff.2 ⟨head.header, hheader, head.indent, head.gap, _,
    getLast?_any_isWord_of_allBlank hindent, hgap, head.text_eq⟩

namespace SimpleLoop

/-- The loop without braces. -/
def bare (loop : SimpleLoop) : List (List Char) := [loop.head.text, loop.body.text]

/-- The loop with braces around its statement. -/
def braced (loop : SimpleLoop) : List (List Char) :=
  [loop.head.text ++ ['{'], loop.body.text, ['}']]

/-- Loops written in one of these forms, one after another. -/
def sequence (form : SimpleLoop → List (List Char)) (loops : List SimpleLoop) : List Char :=
  ['\n'].intercalate (loops.flatMap form)

lemma nestDepth_sequence_eq {form : SimpleLoop → List (List Char)} {loops : List SimpleLoop}
    (hne : loops.flatMap form ≠ []) (hfeed : ∀ loop, ∀ line ∈ form loop, '\n' ∉ line)
    (hquote : ∀ loop, ∀ line ∈ form loop, ∀ c ∈ line, Literal.isQuote c = false) :
    nestDepth (sequence form loops) = (Nesting.afterLines ⟨0, 0⟩ (loops.flatMap form)).peak := by
  have hlines : lines (sequence form loops) = loops.flatMap form := by
    refine List.splitOn_intercalate _ (fun line hline => ?_) hne
    obtain ⟨loop, -, hloop⟩ := List.mem_flatMap.1 hline
    exact hfeed loop line hloop
  have hmask : Literal.mask (sequence form loops) = sequence form loops := by
    refine Literal.mask_of_no_quotes (no_quote_intercalate fun line hline => ?_)
    obtain ⟨loop, -, hloop⟩ := List.mem_flatMap.1 hline
    exact hquote loop line hloop
  rw [nestDepth, hmask, hlines]

section Bare
variable (loops : List SimpleLoop)

lemma countP_bare : (loops.flatMap bare).countP hasHeader = loops.length := by
  induction loops with
  | nil => rfl
  | cons loop loops ih =>
    rw [List.flatMap_cons, List.countP_append, ih, bare, List.countP_cons, List.countP_singleton,
      loop.head.hasHeader_text, loop.body.no_header, List.length_cons, Nat.add_comm]
    rfl

/-- Each loop without braces leaves the depth one level deeper. -/
lemma afterLines_bare : Nesting.afterLines ⟨0, 0⟩ (loops.flatMap bare) =
    ⟨loops.length, loops.length⟩ := by
  have hfree : ∀ line ∈ loops.flatMap bare, BraceFree line := by
    intro line hline
    obtain ⟨loop, -, hloop⟩ := List.mem_flatMap.1 hline
    rw [bare, List.mem_cons, List.mem_singleton] at hloop
    rcases hloop with rfl | rfl
    · exact loop.head.braceFree
    · exact loop.body.braceFree
  rw [Nesting.afterLines_of_braceFree (Nat.le_refl 0) hfree, countP_bare, Nat.zero_add,
    Nat.zero_max]

end Bare

section Braced

lemma afterLines_braced (loop : SimpleLoop) (peak : Nat) :
    Nesting.afterLines ⟨0, peak⟩ loop.braced = ⟨0, max peak 1⟩ := by
  have hone : 0 + 1 ≤ max peak (0 + 1) := Nat.le_max_right _ _
  rw [braced, Nesting.afterLines_cons, afterLine_opening (Nat.zero_le peak),
    Nesting.afterLines_cons, afterLine_statement hone, Nesting.afterLines_cons,
    afterLine_closing hone]
  rfl

/-- Each loop with braces gives back its level. -/
lemma afterLines_flatMap_braced {peak : Nat} (h : 1 ≤ peak) (loops : List SimpleLoop) :
    Nesting.afterLines ⟨0, peak⟩ (loops.flatMap braced) = ⟨0, peak⟩ := by
  induction loops with
  | nil => rfl
  | cons loop loops ih =>
    rw [List.flatMap_cons, Nesting.afterLines_append, afterLines_braced, Nat.max_eq_left h, ih]

end Braced

/-- Loops in sequence without braces are as deep as there are loops, and with braces their depth is
one. -/
theorem nestDepth_sequence (first : SimpleLoop) (loops : List SimpleLoop) :
    nestDepth (sequence bare (first :: loops)) = (first :: loops).length ∧
      nestDepth (sequence braced (first :: loops)) = 1 := by
  constructor
  · have hfeed : ∀ loop : SimpleLoop, ∀ line ∈ loop.bare, '\n' ∉ line := by
      intro loop
      simp [bare, loop.head.no_lineFeed, loop.body.no_lineFeed]
    have hquote : ∀ loop : SimpleLoop, ∀ line ∈ loop.bare, ∀ c ∈ line,
        Literal.isQuote c = false := by
      intro loop
      simpa [bare] using ⟨loop.head.no_quote, loop.body.no_quote⟩
    have hne : (first :: loops).flatMap bare ≠ [] := List.cons_ne_nil _ _
    rw [nestDepth_sequence_eq hne hfeed hquote, afterLines_bare]
  · have hfeed : ∀ loop : SimpleLoop, ∀ line ∈ loop.braced, '\n' ∉ line := by
      intro loop
      simp [braced, loop.head.no_lineFeed, loop.body.no_lineFeed]
    have hquote : ∀ loop : SimpleLoop, ∀ line ∈ loop.braced, ∀ c ∈ line,
        Literal.isQuote c = false := by
      intro loop
      simp only [braced, List.forall_mem_cons, List.forall_mem_append]
      exact ⟨⟨loop.head.no_quote, by decide, by simp⟩, loop.body.no_quote, ⟨by decide, by simp⟩,
        by simp⟩
    have hne : (first :: loops).flatMap braced ≠ [] := List.cons_ne_nil _ _
    rw [nestDepth_sequence_eq hne hfeed hquote, List.flatMap_cons, Nesting.afterLines_append,
      afterLines_braced, afterLines_flatMap_braced (Nat.le_max_right _ _)]
    rfl

/-- Two counters, each with a loop of its own. -/
def counters : List SimpleLoop :=
  [⟨⟨.ofString "for (i = 0; i < n; i++)" (by decide),
      forHead, List.mem_cons_self, [], " ".toList, "i = 0; i < n; i++".toList, [], by decide, rfl⟩,
    ⟨.ofString "  x++;" (by decide), by decide⟩⟩,
  ⟨⟨.ofString "while (y)" (by decide),
      whileHead, List.mem_cons_of_mem _ List.mem_cons_self, [], " ".toList, "y".toList, [],
      by decide, rfl⟩,
    ⟨.ofString "  y--;" (by decide), by decide⟩⟩]

/-- Loops in sequence without braces need not have depth one: two are enough. -/
theorem nestDepth_sequence_ne_one :
    ¬ ∀ loops : List SimpleLoop, loops ≠ [] → nestDepth (sequence bare loops) = 1 := by
  intro h
  have hone := h counters (List.cons_ne_nil _ _)
  revert hone
  decide +kernel

end SimpleLoop

end CodeGrowth.Outlines
