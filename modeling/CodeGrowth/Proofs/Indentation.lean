import CodeGrowth.Proofs.Comments

/-!
# Indentation

A line is indented with spaces and tabs. Two snippets differ in their indentation alone if they are
the same once it is taken away from every line but the first, inside comments and literals too.

Comment markers, quotes and backslashes are no indentation, and what a marker or a backslash is
followed by does not stand at the start of a line. So removing comments and masking literals read
the same spans in both snippets. They may bring new indentation about, where a span at the start of
a line is removed, but the results differ in no more than that again. To the detectors this is a
matter of layout.
-/
namespace CodeGrowth
open Text

namespace Text

def isIndent (c : Char) : Bool := c == ' ' || c == '\t'

/-- The text without the indentation of its lines, read from the start of a line if `start`. -/
def dedentFrom (start : Bool) : List Char → List Char
  | [] => []
  | c :: cs => if start && isIndent c then dedentFrom true cs else c :: dedentFrom (c == '\n') cs

/-- The text with its first line as it is and all others moved to the left. -/
def dedent (text : List Char) : List Char := dedentFrom false text

variable {start outer : Bool} {c : Char} {cs ds : List Char}

lemma isBlank_of_isIndent (h : isIndent c = true) : isBlank c = true := by
  rw [isIndent, Bool.or_eq_true, beq_iff_eq, beq_iff_eq] at h
  rcases h with rfl | rfl
  · decide
  · decide

lemma dedentFrom_indent (h : isIndent c = true) (cs : List Char) :
    dedentFrom true (c :: cs) = dedentFrom true cs := by
  rw [dedentFrom, if_pos (by simp [h])]

lemma dedentFrom_keep (h : (start && isIndent c) = false) (cs : List Char) :
    dedentFrom start (c :: cs) = c :: dedentFrom (c == '\n') cs := by
  rw [dedentFrom, if_neg (by simp [h])]

/-- Behind a character that is no white space no line starts. -/
lemma dedentFrom_cons (h : isBlank c = false) (start : Bool) (cs : List Char) :
    dedentFrom start (c :: cs) = c :: dedent cs := by
  have hindent : isIndent c = false := by
    by_contra hne
    rw [isBlank_of_isIndent (by simpa using hne)] at h
    contradiction
  have hfeed : (c == '\n') = false := beq_false_of_ne (ne_of_isBlank (by decide) h).symm
  rw [dedentFrom_keep (by simp [hindent]), hfeed, dedent]

/-- Two texts that are the same without indentation are so behind one more character. -/
lemma dedentFrom_cons_congr
    (h : ∀ outer, ((c == '\n') = true → outer = true) → dedentFrom outer cs = dedentFrom outer ds)
    (outer : Bool) : dedentFrom outer (c :: cs) = dedentFrom outer (c :: ds) := by
  cases hc : outer && isIndent c with
  | true =>
    obtain ⟨rfl, hindent⟩ := Bool.and_eq_true_iff.1 hc
    rw [dedentFrom_indent hindent, dedentFrom_indent hindent, h true fun _ => rfl]
  | false => rw [dedentFrom_keep hc, dedentFrom_keep hc, h _ id]

/-- One step of a pass that keeps a character and reads on: a pass over the text without its
indentation keeps it as well, or the character is indentation itself. -/
lemma dedentFrom_pass_cons {f : List Char → List Char}
    (hpass : ∀ {start outer}, (start = true → outer = true) →
      dedentFrom outer (f (dedentFrom start cs)) = dedentFrom outer (f cs))
    (hkeep : f (c :: dedentFrom (c == '\n') cs) = c :: f (dedentFrom (c == '\n') cs))
    (h : start = true → outer = true) :
    dedentFrom outer (f (dedentFrom start (c :: cs))) = dedentFrom outer (c :: f cs) := by
  cases hc : start && isIndent c with
  | true =>
    obtain ⟨rfl, hindent⟩ := Bool.and_eq_true_iff.1 hc
    obtain rfl := h rfl
    rw [dedentFrom_indent hindent, dedentFrom_indent hindent, hpass h]
  | false =>
    rw [dedentFrom_keep hc, hkeep]
    exact dedentFrom_cons_congr (fun outer houter => hpass houter) outer

lemma dedentFrom_dedentFrom (h : start = true → outer = true) (cs : List Char) :
    dedentFrom outer (dedentFrom start cs) = dedentFrom outer cs := by
  induction cs generalizing start outer with
  | nil => rfl
  | cons c cs ih => exact dedentFrom_pass_cons (f := id) ih rfl h

lemma dedent_congr {f : List Char → List Char} (hf : ∀ cs, dedent (f (dedent cs)) = dedent (f cs))
    (h : dedent cs = dedent ds) : dedent (f cs) = dedent (f ds) := by
  rw [← hf cs, h, hf ds]

lemma dedentFrom_true (cs : List Char) :
    dedentFrom true cs = dedent (cs.dropWhile isIndent) := by
  induction cs with
  | nil => rfl
  | cons c cs ih =>
    cases hc : isIndent c with
    | true => rw [dedentFrom_indent hc, ih, List.dropWhile_cons_of_pos hc]
    | false =>
      rw [dedentFrom_keep (by simp [hc]), List.dropWhile_cons_of_neg (by simp [hc]), dedent,
        dedentFrom_keep (by simp)]

lemma allBlank_takeWhile_isIndent (cs : List Char) :
    AllBlank ('\n' :: cs.takeWhile isIndent) := by
  rw [allBlank_cons]
  exact ⟨by decide, fun c hc => isBlank_of_isIndent (List.mem_takeWhile_imp hc)⟩

/-- Texts that differ in their indentation alone are respacings of each other. -/
theorem respaced_of_dedent_eq {s t : List Char} (h : dedent s = dedent t) : Respaced s t := by
  have hcons : ∀ c cs, dedent (c :: cs) = c :: dedentFrom (c == '\n') cs :=
    fun c cs => dedentFrom_keep (by simp) cs
  -- on the length, since a line feed goes together with the whole indentation behind it
  induction hn : s.length using Nat.strong_induction_on generalizing s t with
  | _ n ih =>
    match s, t with
    | [], [] => exact .refl []
    | [], d :: t =>
      rw [hcons] at h
      contradiction
    | c :: s, [] =>
      rw [hcons] at h
      contradiction
    | c :: s, d :: t =>
      rw [hcons, hcons, List.cons.injEq] at h
      obtain ⟨rfl, htail⟩ := h
      rw [List.length_cons] at hn
      by_cases hfeed : c = '\n'
      · subst hfeed
        have hrest : dedent (s.dropWhile isIndent) = dedent (t.dropWhile isIndent) := by
          rw [← dedentFrom_true, ← dedentFrom_true]
          exact htail
        have hlen := (List.dropWhile_sublist (p := isIndent) (l := s)).length_le
        have hturn := Respaced.turn (allBlank_takeWhile_isIndent s)
          (allBlank_takeWhile_isIndent t) List.mem_cons_self List.mem_cons_self
          (ih _ (by omega) hrest rfl)
        rwa [List.cons_append, List.cons_append, List.takeWhile_append_dropWhile,
          List.takeWhile_append_dropWhile] at hturn
      · rw [beq_false_of_ne hfeed] at htail
        exact .keep c (ih s.length (by omega) htail rfl)

end Text

namespace Comment
variable {start outer : Bool} {c : Char} {cs : List Char}

/-- A pair of characters that are no white space stands in the same places. -/
lemma pair_prefix_dedentFrom {x y : Char} (hx : isBlank x = false) :
    [x, y] <+: c :: dedentFrom (c == '\n') cs ↔ [x, y] <+: c :: cs := by
  rw [pair_prefix_cons, pair_prefix_cons]
  refine and_congr_right ?_
  rintro rfl
  have hfeed : (x == '\n') = false := beq_false_of_ne (ne_of_isBlank (by decide) hx).symm
  rw [hfeed]
  cases cs with
  | nil => rfl
  | cons d cs => rw [dedentFrom_keep (by simp), List.head?_cons, List.head?_cons]

lemma afterClose?_dedentFrom (start : Bool) (cs : List Char) :
    afterClose? (dedentFrom start cs) = (afterClose? cs).map dedent := by
  fun_induction afterClose? cs generalizing start with
  | case1 => rfl
  | case2 cs =>
    rw [dedentFrom_cons (by decide), dedent, dedentFrom_cons (by decide), afterClose?_close,
      Option.map_some]
  | case3 c cs hclose ih =>
    cases hc : start && isIndent c with
    | true =>
      obtain ⟨rfl, hindent⟩ := Bool.and_eq_true_iff.1 hc
      rw [dedentFrom_indent hindent, ih]
    | false =>
      rw [dedentFrom_keep hc, afterClose?_cons, ih]
      rw [pair_prefix_dedentFrom (by decide)]
      exact not_pair_prefix hclose

lemma removeBlocks_dedentFrom (h : start = true → outer = true) (cs : List Char) :
    dedentFrom outer (removeBlocks (dedentFrom start cs)) = dedentFrom outer (removeBlocks cs) := by
  fun_induction removeBlocks cs generalizing start outer with
  | case1 => exact congrArg (dedentFrom outer) removeBlocks_nil
  | case2 cs rest hsome ih =>
    have hafter : afterClose? (dedent cs) = some (dedent rest) := by
      rw [dedent, afterClose?_dedentFrom, hsome, Option.map_some]
    rw [dedentFrom_cons (by decide), dedent, dedentFrom_cons (by decide),
      removeBlocks_of_some hafter, dedent, ih (by simp)]
  | case3 cs hnone =>
    -- a marker that is never closed keeps the rest, so that indentation is taken away only once
    have hafter : afterClose? (dedent cs) = none := by
      rw [dedent, afterClose?_dedentFrom, hnone, Option.map_none]
    have hopen : dedentFrom start ('/' :: '*' :: cs) = '/' :: '*' :: dedent cs := by
      rw [dedentFrom_cons (by decide), dedent, dedentFrom_cons (by decide)]
    rw [hopen, removeBlocks_of_none hafter, ← hopen, dedentFrom_dedentFrom h]
  | case4 c cs hopen ih =>
    have hpair : ¬ ['/', '*'] <+: c :: dedentFrom (c == '\n') cs := by
      rw [pair_prefix_dedentFrom (by decide)]
      exact not_pair_prefix hopen
    exact dedentFrom_pass_cons ih (removeBlocks_cons hpair) h

lemma removeLinesFrom_dedentFrom (h : start = true → outer = true) (inside : Bool)
    (cs : List Char) :
    dedentFrom outer (removeLinesFrom inside (dedentFrom start cs)) =
      dedentFrom outer (removeLinesFrom inside cs) := by
  fun_induction removeLinesFrom inside cs generalizing start outer with
  | case1 => rfl
  | case2 c cs hend ih =>
    have hindent : isIndent c = false := by
      rw [endsLine, Bool.or_eq_true, beq_iff_eq, beq_iff_eq] at hend
      rcases hend with rfl | rfl
      · decide
      · decide
    rw [dedentFrom_keep (by simp [hindent]), removeLinesFrom_inside_end hend]
    exact dedentFrom_cons_congr (fun outer houter => ih houter) outer
  | case3 c cs hend ih =>
    have hinside : endsLine c = false := by simpa using hend
    cases hc : start && isIndent c with
    | true =>
      obtain ⟨rfl, hindent⟩ := Bool.and_eq_true_iff.1 hc
      rw [dedentFrom_indent hindent, ih h]
    | false =>
      have hfeed : (c == '\n') = false := by
        rw [endsLine, Bool.or_eq_false_iff] at hinside
        exact hinside.1
      rw [dedentFrom_keep hc, removeLinesFrom_inside_cons hinside, hfeed, ih (by simp)]
  | case4 inside c cs hinside hopen ih =>
    obtain rfl : inside = false := by simpa using hinside
    obtain ⟨rfl, hhead⟩ := hopen
    have hpair : ['/', '/'] <+: '/' :: dedent cs := by
      refine (pair_prefix_dedentFrom (by decide)).2 ?_
      exact pair_prefix_cons.2 ⟨rfl, hhead⟩
    rw [dedentFrom_cons (by decide), removeLinesFrom_open hpair, dedent, ih (by simp)]
  | case5 inside c cs hinside hopen ih =>
    obtain rfl : inside = false := by simpa using hinside
    have hpair : ¬ ['/', '/'] <+: c :: dedentFrom (c == '\n') cs := by
      rw [pair_prefix_dedentFrom (by decide), pair_prefix_cons]
      exact fun hpair => hopen ⟨hpair.1.symm, hpair.2⟩
    exact dedentFrom_pass_cons ih (removeLinesFrom_cons hpair) h

theorem dedent_strip_congr {s t : List Char} (h : dedent s = dedent t) :
    dedent (strip s) = dedent (strip t) := by
  have hblocks : dedent (removeBlocks s) = dedent (removeBlocks t) :=
    dedent_congr (removeBlocks_dedentFrom id) h
  exact dedent_congr (f := removeLines) (removeLinesFrom_dedentFrom id false) hblocks

end Comment

namespace Literal
variable {start outer : Bool} {quote : Char}

lemma afterBody?_dedentFrom (hquote : isQuote quote = true) (start : Bool) (cs : List Char) :
    afterBody? quote (dedentFrom start cs) = (afterBody? quote cs).map dedent := by
  have hescape : quote ≠ '\\' := by
    rintro rfl
    contradiction
  fun_induction afterBody? quote cs generalizing start with
  | case1 => rfl
  | case2 cs =>
    rw [dedentFrom_cons (isBlank_of_isQuote hquote), afterBody?_close, Option.map_some]
  | case3 h =>
    rw [dedentFrom_cons (by decide)]
    exact afterBody?_of_notMem (by simpa [dedent, dedentFrom] using hescape)
  | case4 cs h =>
    rw [dedentFrom_cons (by decide), dedent, dedentFrom_keep (by simp),
      afterBody?_escape_lineFeed hescape, Option.map_none]
  | case5 e cs he h ih =>
    have hfeed : (e == '\n') = false := beq_false_of_ne he
    rw [dedentFrom_cons (by decide), dedent, dedentFrom_keep (by simp), hfeed,
      afterBody?_escape hescape he, ih]
  | case6 c cs hc hne ih =>
    cases hindent : start && isIndent c with
    | true =>
      obtain ⟨rfl, hindent⟩ := Bool.and_eq_true_iff.1 hindent
      rw [dedentFrom_indent hindent, ih]
    | false => rw [dedentFrom_keep hindent, afterBody?_cons hc hne, ih]

lemma mask_dedentFrom (h : start = true → outer = true) (cs : List Char) :
    dedentFrom outer (mask (dedentFrom start cs)) = dedentFrom outer (mask cs) := by
  fun_induction mask cs generalizing start outer with
  | case1 => exact congrArg (dedentFrom outer) mask_nil
  | case2 c cs hc rest hsome ih =>
    have hafter : afterBody? c (dedent cs) = some (dedent rest) := by
      rw [dedent, afterBody?_dedentFrom hc, hsome, Option.map_some]
    rw [dedentFrom_cons (isBlank_of_isQuote hc), mask_cons_of_some hc hafter, dedent,
      ih (by simp)]
  | case3 c cs hc hnone ih =>
    have hafter : afterBody? c (dedent cs) = none := by
      rw [dedent, afterBody?_dedentFrom hc, hnone, Option.map_none]
    have hblank := isBlank_of_isQuote hc
    rw [dedentFrom_cons hblank, mask_cons_of_none hc hafter, dedentFrom_cons hblank,
      dedentFrom_cons hblank, dedent, dedent, dedent, ih id]
  | case4 c cs hc ih =>
    exact dedentFrom_pass_cons ih (mask_cons_of_not_isQuote (by simpa using hc) _) h

theorem dedent_mask_congr {s t : List Char} (h : dedent s = dedent t) :
    dedent (mask s) = dedent (mask t) :=
  dedent_congr (mask_dedentFrom id) h

end Literal

theorem Findings.ofCleaned_dedent_congr {s t : List Char} (h : dedent s = dedent t) :
    ofCleaned s = ofCleaned t :=
  ofCleaned_relaid (respaced_of_dedent_eq h).relaid
    (respaced_of_dedent_eq (Literal.dedent_mask_congr h)).relaid

/-- Every line may be indented in its own way, and any white space may stand around a snippet. -/
theorem analyze_reindent {s t before after before' after' : List Char}
    (hst : dedent s = dedent t) (hbefore : AllBlank before) (hafter : AllBlank after)
    (hbefore' : AllBlank before') (hafter' : AllBlank after') :
    analyze (before ++ s ++ after) = analyze (before' ++ t ++ after') := by
  have hblank : AllBlank s ↔ AllBlank t := respaced_allBlank_iff (respaced_of_dedent_eq hst)
  have hfindings : Findings.ofCleaned (Comment.strip s) = Findings.ofCleaned (Comment.strip t) :=
    Findings.ofCleaned_dedent_congr (Comment.dedent_strip_congr hst)
  rw [analyze_allBlank_append_append hbefore hafter,
    analyze_allBlank_append_append hbefore' hafter', analyze_eq, analyze_eq, hfindings]
  simp only [hblank]

/-- A line comment, an escaped line feed inside a string and a loop, each indented twice. -/
theorem analyze_reindented_loop :
    dedent "f(\"\\\n x\");//\n\twhile (x)\n  y();".toList =
        dedent "f(\"\\\nx\");//\nwhile (x)\n\t\ty();".toList ∧
      AllBlank "\n ".toList ∧ AllBlank "\r\n".toList ∧
      analyze ("\n ".toList ++ "f(\"\\\n x\");//\n\twhile (x)\n  y();".toList ++ []) =
        analyze ([] ++ "f(\"\\\nx\");//\nwhile (x)\n\t\ty();".toList ++ "\r\n".toList) := by
  have hst : dedent "f(\"\\\n x\");//\n\twhile (x)\n  y();".toList =
      dedent "f(\"\\\nx\");//\nwhile (x)\n\t\ty();".toList := by decide
  have hbefore : AllBlank "\n ".toList := by decide
  have hafter : AllBlank "\r\n".toList := by decide
  exact ⟨hst, hbefore, hafter, analyze_reindent hst hbefore allBlank_nil allBlank_nil hafter⟩

end CodeGrowth
