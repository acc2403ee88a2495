import CodeGrowth.Proofs.Comments
import CodeGrowth.Proofs.StringData

/-!
# Line ends

A line may end in a line feed alone or in a carriage return and a line feed. The pair is white space
with a line feed in it, so putting the carriage returns in is a respacing, and a line comment ends
at either character. Language, recursion and endless loops are therefore found alike in both forms
of a source.

Masking can tell them apart in one place. A backslash in a literal takes the next character along,
which may be the carriage return but not the line feed. So a literal with a backslash at the end of
a line is masked only if the lines end in pairs, and loops and nesting may then be counted
differently.
-/
namespace CodeGrowth
open Text

namespace Text

/-- The text with a carriage return before every line feed. -/
def withReturns (text : List Char) : List Char :=
  text.flatMap fun c => if c = '\n' then ['\r', '\n'] else [c]

variable {c : Char} {cs : List Char}

@[simp] theorem withReturns_nil : withReturns [] = [] := rfl

lemma withReturns_lineFeed (cs : List Char) :
    withReturns ('\n' :: cs) = '\r' :: '\n' :: withReturns cs := rfl

lemma withReturns_cons (hc : c ≠ '\n') (cs : List Char) :
    withReturns (c :: cs) = c :: withReturns cs := by
  rw [withReturns, List.flatMap_cons, if_neg hc]
  rfl

lemma withReturns_append (cs ds : List Char) :
    withReturns (cs ++ ds) = withReturns cs ++ withReturns ds := List.flatMap_append

theorem respaced_withReturns (text : List Char) : Respaced (withReturns text) text := by
  induction text with
  | nil => exact .refl []
  | cons c cs ih =>
    by_cases hc : c = '\n'
    · subst hc
      exact .turn (g := ['\r', '\n']) (h := ['\n'])
        (by decide) (by decide) (by decide) (by decide) ih
    · rw [withReturns_cons hc]
      exact .keep c ih

/-- The character at the start is another only if it was a line feed. -/
lemma head?_withReturns {y : Char} (hreturn : y ≠ '\r') (hfeed : y ≠ '\n') (cs : List Char) :
    (withReturns cs).head? = some y ↔ cs.head? = some y := by
  cases cs with
  | nil => rfl
  | cons c cs =>
    by_cases hc : c = '\n'
    · subst hc
      simp [withReturns_lineFeed, hreturn.symm, hfeed.symm]
    · rw [withReturns_cons hc, List.head?_cons, List.head?_cons]

end Text

namespace Comment
variable {c : Char} {cs : List Char}

lemma pair_prefix_withReturns {x y : Char} (hreturn : y ≠ '\r') (hfeed : y ≠ '\n') :
    [x, y] <+: c :: withReturns cs ↔ [x, y] <+: c :: cs := by
  rw [pair_prefix_cons, pair_prefix_cons, head?_withReturns hreturn hfeed]

/-- A pair of characters neither of which ends a line does not stand at a line end. -/
lemma not_opens_of_endsLine {x y : Char} (hc : endsLine c = true) (hx : endsLine x = false) :
    ¬ [x, y] <+: c :: cs := by
  rw [pair_prefix_cons]
  rintro ⟨rfl, -⟩
  rw [hc] at hx
  contradiction

lemma afterClose?_withReturns (cs : List Char) :
    afterClose? (withReturns cs) = (afterClose? cs).map withReturns := by
  fun_induction afterClose? cs with
  | case1 => rfl
  | case2 cs =>
    rw [withReturns_cons (by decide), withReturns_cons (by decide), afterClose?_close,
      Option.map_some]
  | case3 c cs hclose ih =>
    by_cases hc : c = '\n'
    · subst hc
      rw [withReturns_lineFeed, afterClose?_cons (not_opens_of_endsLine rfl rfl),
        afterClose?_cons (not_opens_of_endsLine rfl rfl), ih]
    · rw [withReturns_cons hc, afterClose?_cons, ih]
      rw [pair_prefix_withReturns (by decide) (by decide)]
      exact not_pair_prefix hclose

lemma removeBlocks_withReturns (cs : List Char) :
    removeBlocks (withReturns cs) = withReturns (removeBlocks cs) := by
  fun_induction removeBlocks cs with
  | case1 => exact removeBlocks_nil
  | case2 cs rest hsome ih =>
    have hafter : afterClose? (withReturns cs) = some (withReturns rest) := by
      rw [afterClose?_withReturns, hsome, Option.map_some]
    rw [withReturns_cons (by decide), withReturns_cons (by decide), removeBlocks_of_some hafter, ih]
  | case3 cs hnone =>
    have hafter : afterClose? (withReturns cs) = none := by
      rw [afterClose?_withReturns, hnone, Option.map_none]
    rw [withReturns_cons (by decide), withReturns_cons (by decide), removeBlocks_of_none hafter]
  | case4 c cs hopen ih =>
    by_cases hc : c = '\n'
    · subst hc
      rw [withReturns_lineFeed, removeBlocks_cons (not_opens_of_endsLine rfl rfl),
        removeBlocks_cons (not_opens_of_endsLine rfl rfl), ih, withReturns_lineFeed]
    · rw [withReturns_cons hc, removeBlocks_cons, ih, withReturns_cons hc]
      rw [pair_prefix_withReturns (by decide) (by decide)]
      exact not_pair_prefix hopen

/-- A line comment stops at the carriage return, which is outside it like the line feed. -/
lemma removeLinesFrom_withReturns (inside : Bool) (cs : List Char) :
    removeLinesFrom inside (withReturns cs) = withReturns (removeLinesFrom inside cs) := by
  have hline : ∀ inside rest, removeLinesFrom inside ('\r' :: '\n' :: rest) =
      '\r' :: '\n' :: removeLinesFrom false rest := by
    intro inside rest
    have hpair : ¬ ['/', '/'] <+: '\n' :: rest := not_opens_of_endsLine rfl rfl
    have hfeed := removeLinesFrom_cons hpair
    cases inside with
    | true => rw [removeLinesFrom_inside_end rfl, hfeed]
    | false => rw [removeLinesFrom_cons (not_opens_of_endsLine rfl rfl), hfeed]
  fun_induction removeLinesFrom inside cs with
  | case1 => rfl
  | case2 c cs hend ih =>
    by_cases hc : c = '\n'
    · subst hc
      rw [withReturns_lineFeed, hline, ih, withReturns_lineFeed]
    · rw [withReturns_cons hc, removeLinesFrom_inside_end hend, ih, withReturns_cons hc]
  | case3 c cs hend ih =>
    have hc : c ≠ '\n' := by
      rintro rfl
      exact hend rfl
    rw [withReturns_cons hc, removeLinesFrom_inside_cons (by simpa using hend), ih]
  | case4 inside c cs hinside hopen ih =>
    obtain rfl : inside = false := by simpa using hinside
    obtain ⟨rfl, hhead⟩ := hopen
    have hpair : ['/', '/'] <+: '/' :: withReturns cs := by
      rw [pair_prefix_withReturns (by decide) (by decide)]
      exact pair_prefix_cons.2 ⟨rfl, hhead⟩
    rw [withReturns_cons (by decide), removeLinesFrom_open hpair, ih]
  | case5 inside c cs hinside hopen ih =>
    obtain rfl : inside = false := by simpa using hinside
    by_cases hc : c = '\n'
    · subst hc
      rw [withReturns_lineFeed, hline, ih, withReturns_lineFeed]
    · have hpair : ¬ ['/', '/'] <+: c :: withReturns cs := by
        rw [pair_prefix_withReturns (by decide) (by decide), pair_prefix_cons]
        exact fun hpair => hopen ⟨hpair.1.symm, hpair.2⟩
      rw [withReturns_cons hc, removeLinesFrom_cons hpair, ih, withReturns_cons hc]

theorem strip_withReturns (text : List Char) :
    strip (withReturns text) = withReturns (strip text) := by
  rw [strip, removeBlocks_withReturns, removeLines, removeLinesFrom_withReturns]
  rfl

end Comment

namespace Literal
variable {c quote : Char} {cs body : List Char}

/-- A text in which no literal is left open at a backslash before a line feed. Of the quotes that
masking comes to, each one opens a complete literal, or is stray for want of another quote. -/
inductive Unbroken : List Char → Prop
  | empty : Unbroken []
  | char {c : Char} {cs : List Char} (hc : isQuote c = false) (h : Unbroken cs) :
      Unbroken (c :: cs)
  | literal {quote : Char} {body cs : List Char} (hquote : isQuote quote = true)
      (hbody : Body quote body) (h : Unbroken cs) : Unbroken (quote :: (body ++ quote :: cs))
  | stray {quote : Char} {cs : List Char} (hquote : isQuote quote = true)
      (hopen : ∀ body rest, Body quote body →
        cs ≠ body ++ quote :: rest ∧ cs ≠ body ++ '\\' :: '\n' :: rest)
      (h : Unbroken cs) : Unbroken (quote :: cs)

lemma Closed.unbroken (h : Closed cs) : Unbroken cs := by
  induction h with
  | empty => exact .empty
  | char hc _ ih => exact .char hc ih
  | literal hquote hbody _ ih => exact .literal hquote hbody ih

lemma ne_lineEnd_of_isQuote (h : isQuote quote = true) : quote ≠ '\r' ∧ quote ≠ '\n' := by
  constructor
  · rintro rfl
    contradiction
  · rintro rfl
    contradiction

lemma Body.withReturns (hquote : isQuote quote = true) (h : Body quote body) :
    Body quote (withReturns body) := by
  have hends := ne_lineEnd_of_isQuote hquote
  induction h with
  | empty => exact .empty
  | @char c cs hc hescape _ ih =>
    by_cases hfeed : c = '\n'
    · subst hfeed
      exact .char hends.1.symm (by decide) (.char hends.2.symm (by decide) ih)
    · rw [withReturns_cons hfeed]
      exact .char hc hescape ih
  | escape hc _ ih =>
    rw [withReturns_cons (by decide), withReturns_cons hc]
    exact .escape hc ih

/-- Where no escaped line feed stops the search, it ends in the same place. -/
lemma afterBody?_withReturns (hquote : isQuote quote = true)
    (hescaped : ∀ body rest, Body quote body → cs ≠ body ++ '\\' :: '\n' :: rest) :
    afterBody? quote (withReturns cs) = (afterBody? quote cs).map withReturns := by
  have hends := ne_lineEnd_of_isQuote hquote
  have hbackslash := ne_backslash_of_isQuote hquote
  fun_induction afterBody? quote cs with
  | case1 => rfl
  | case2 cs => rw [withReturns_cons hends.2, afterBody?_close, Option.map_some]
  | case3 =>
    rw [withReturns_cons (by decide)]
    exact afterBody?_of_notMem (by simpa using hbackslash)
  | case4 cs => exact absurd rfl (hescaped [] cs .empty)
  | case5 e cs he _ ih =>
    rw [withReturns_cons (by decide), withReturns_cons he, afterBody?_escape hbackslash he, ih]
    intro body rest hbody hcs
    exact hescaped ('\\' :: e :: body) rest (.escape he hbody) (by rw [hcs]; rfl)
  | case6 c cs hc hescape ih =>
    have hafter : afterBody? quote (withReturns cs) = (afterBody? quote cs).map withReturns := by
      refine ih fun body rest hbody hcs => ?_
      exact hescaped (c :: body) rest (.char hc hescape hbody) (by rw [hcs]; rfl)
    by_cases hfeed : c = '\n'
    · subst hfeed
      rw [withReturns_lineFeed, afterBody?_cons hends.1.symm (by decide),
        afterBody?_cons hc hescape, hafter]
    · rw [withReturns_cons hfeed, afterBody?_cons hc hescape, hafter]

theorem Unbroken.mask_withReturns (h : Unbroken cs) :
    mask (withReturns cs) = withReturns (mask cs) := by
  induction h with
  | empty => rw [withReturns_nil, mask_nil, withReturns_nil]
  | @char c cs hc _ ih =>
    by_cases hfeed : c = '\n'
    · subst hfeed
      rw [withReturns_lineFeed, mask_cons_of_not_isQuote (by decide), mask_cons_of_not_isQuote hc,
        ih, mask_cons_of_not_isQuote hc, withReturns_lineFeed]
    · rw [withReturns_cons hfeed, mask_cons_of_not_isQuote hc, ih, mask_cons_of_not_isQuote hc,
        withReturns_cons hfeed]
  | literal hquote hbody _ ih =>
    have hfeed := (ne_lineEnd_of_isQuote hquote).2
    rw [withReturns_cons hfeed, withReturns_append, withReturns_cons hfeed,
      mask_literal_append hquote (hbody.withReturns hquote), ih, mask_literal_append hquote hbody]
  | @stray quote cs hquote hopen _ ih =>
    have hfeed := (ne_lineEnd_of_isQuote hquote).2
    have hnone : afterBody? quote cs = none := by
      by_contra hne
      obtain ⟨rest, hsome⟩ := Option.ne_none_iff_exists'.1 hne
      obtain ⟨body, hbody, hcs⟩ := exists_body_of_afterBody? hsome
      exact (hopen body rest hbody).1 hcs
    have hnone' : afterBody? quote (withReturns cs) = none := by
      rw [afterBody?_withReturns hquote fun body rest hbody => (hopen body rest hbody).2, hnone,
        Option.map_none]
    rw [withReturns_cons hfeed, mask_cons_of_none hquote hnone', ih, mask_cons_of_none hquote hnone,
      withReturns_cons hfeed]

end Literal

theorem Findings.ofCleaned_withReturns {cleaned : List Char} (h : Literal.Unbroken cleaned) :
    ofCleaned (withReturns cleaned) = ofCleaned cleaned := by
  refine ofCleaned_relaid (respaced_withReturns cleaned).relaid ?_
  rw [h.mask_withReturns]
  exact (respaced_withReturns _).relaid

/-- Line ends change nothing but the counts of loops and levels, and those only where a backslash
at the end of a line stands in a literal. -/
theorem analyze_withReturns (source : List Char) :
    (analyze source = .empty ∧ analyze (withReturns source) = .empty) ∨
      ∃ findings findings', analyze source = .report findings ∧
        analyze (withReturns source) = .report findings' ∧
        findings'.language = findings.language ∧ findings'.recursion = findings.recursion ∧
        findings'.endless = findings.endless ∧ findings'.endlessLoop = findings.endlessLoop ∧
        (Literal.Unbroken (Comment.strip source) → findings' = findings) := by
  have hblank : AllBlank (withReturns source) ↔ AllBlank source :=
    respaced_allBlank_iff (respaced_withReturns source)
  rw [analyze_eq, analyze_eq, Comment.strip_withReturns]
  simp only [hblank]
  by_cases hsource : AllBlank source
  · rw [if_pos hsource, if_pos hsource]
    exact .inl ⟨rfl, rfl⟩
  · have hlayout := (respaced_withReturns (Comment.strip source)).relaid
    have hendless := Loop.findEndless?_relaid hlayout
    rw [if_neg hsource, if_neg hsource]
    exact .inr ⟨_, _, rfl, rfl, Language.classify_relaid hlayout, Recursion.detect_relaid hlayout,
      hendless, congrArg Option.isSome hendless, Findings.ofCleaned_withReturns⟩

/-- A macro and a string over two lines each, with a lone quote in the string and in a comment. -/
def continuedMacro : List Char := "#define M \\\n f(\"\n'\")\nwhile (M) g(); // don't".toList

theorem analyze_withReturns_continuedMacro :
    Literal.Unbroken (Comment.strip continuedMacro) ∧
      analyze (withReturns continuedMacro) = analyze continuedMacro := by
  have hclosed : Literal.Closed (Comment.strip continuedMacro) :=
    Literal.closed_iff.2 (forall_eq_false_of_all (by decide +kernel))
  refine ⟨hclosed.unbroken, ?_⟩
  obtain ⟨hempty, hempty'⟩ | ⟨findings, findings', hreport, hreport', -, -, -, -, hsame⟩ :=
    analyze_withReturns continuedMacro
  · rw [hempty, hempty']
  · rw [hreport, hreport', hsame hclosed.unbroken]

/-- A string that goes on behind a backslash at the end of its first line. -/
def continuedString : List Char := "f(\"\\\nwhile (x) \");".toList

/-- A loop in a string that is broken at the end of a line counts unless the line ends in a pair. -/
theorem analyze_withReturns_ne :
    ¬ ∀ source, '\r' ∉ source → analyze (withReturns source) = analyze source := by
  intro h
  have hsame := h continuedString (by decide)
  revert hsame
  decide +kernel

end CodeGrowth
