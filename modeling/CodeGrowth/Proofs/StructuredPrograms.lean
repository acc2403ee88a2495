import CodeGrowth.Loop
import CodeGrowth.Proofs.Headers
import CodeGrowth.Proofs.Literals

/-!
# Loop counts of structured programs

A structured program is built from simple statements, blocks, conditionals and the three kinds of
loops, whose bodies stand in braces. The texts of its statements and conditions are free but for
quotes and for the keywords of loops as words of their own; they may hold semicolons, parentheses,
braces and line feeds. Any white space may stand between the tokens, and none has to.

Every keyword and every free text is followed by a mark, so no word runs across the end of a token,
and a header is a keyword token with its bracket as the next token. Counting headers thus is a
matter of token lists, and there by induction on the program each loop node has the headers that
it should. The closing condition of a do-while is a while header of its own, which the loop count
takes off again.
-/
namespace CodeGrowth.Structured
open Text Loop

/-- The keywords of loops. -/
def loopWords : List (List Char) := ["for".toList, "while".toList, "do".toList]

/-- A text without quotes and without a loop keyword as a word of its own. -/
structure FreeText where
  text : List Char
  no_quote : ∀ c ∈ text, Literal.isQuote c = false
  no_loopWord : ∀ word ∈ loopWords, (wholeWord word).occursIn text = false

inductive Keyword where
  | ifWord
  | elseWord
  | forWord
  | whileWord
  | doWord
  deriving DecidableEq, Repr

namespace Keyword

def text : Keyword → List Char
  | ifWord => "if".toList
  | elseWord => "else".toList
  | forWord => "for".toList
  | whileWord => "while".toList
  | doWord => "do".toList

lemma isWord_text (keyword : Keyword) : ∀ c ∈ keyword.text, isWord c = true := by
  apply List.all_eq_true.1
  cases keyword <;> decide

lemma text_ne_nil (keyword : Keyword) : keyword.text ≠ [] := by
  cases keyword <;> decide

lemma text_inj {keyword keyword' : Keyword} :
    keyword.text = keyword'.text ↔ keyword = keyword' := by
  cases keyword <;> cases keyword' <;> decide

end Keyword

inductive Mark where
  | openParen
  | closeParen
  | openBrace
  | closeBrace
  | semicolon
  deriving DecidableEq, Repr

namespace Mark

def char : Mark → Char
  | openParen => '('
  | closeParen => ')'
  | openBrace => '{'
  | closeBrace => '}'
  | semicolon => ';'

lemma isWord_char (mark : Mark) : isWord mark.char = false := by
  cases mark <;> decide

lemma isBlank_char (mark : Mark) : isBlank mark.char = false := by
  cases mark <;> decide

lemma char_inj {mark mark' : Mark} : mark.char = mark'.char ↔ mark = mark' := by
  cases mark <;> cases mark' <;> decide

end Mark

inductive Token where
  | mark (mark : Mark)
  | keyword (keyword : Keyword)
  | free (text : FreeText)

namespace Token

def text : Token → List Char
  | .mark m => [m.char]
  | .keyword k => k.text
  | .free f => f.text

lemma no_quote (token : Token) : ∀ c ∈ token.text, Literal.isQuote c = false := by
  cases token with
  | mark m =>
    apply forall_eq_false_of_all
    cases m <;> decide
  | keyword k =>
    apply forall_eq_false_of_all
    cases k <;> decide
  | free f => exact f.no_quote

end Token

inductive Kind where
  | forLoop
  | whileLoop
  | doWhile
  deriving DecidableEq, Repr

/-- A sequence of statements, each with the statements after it. -/
inductive Program where
  | done
  | simple (text : FreeText) (next : Program)
  | block (body next : Program)
  | ifThen (condition : FreeText) (body next : Program)
  | ifElse (condition : FreeText) (body other next : Program)
  | loop (kind : Kind) (control : FreeText) (body next : Program)

/-- A text in parentheses, and what follows. -/
def parenthesised (text : FreeText) (rest : List Token) : List Token :=
  .mark .openParen :: .free text :: .mark .closeParen :: rest

/-- Statements in braces, and what follows. -/
def braced (body rest : List Token) : List Token :=
  .mark .openBrace :: (body ++ .mark .closeBrace :: rest)

namespace Program

def tokens : Program → List Token
  | done => []
  | simple text next => .free text :: .mark .semicolon :: next.tokens
  | block body next => braced body.tokens next.tokens
  | ifThen condition body next =>
    .keyword .ifWord :: parenthesised condition (braced body.tokens next.tokens)
  | ifElse condition body other next =>
    .keyword .ifWord :: parenthesised condition
      (braced body.tokens (.keyword .elseWord :: braced other.tokens next.tokens))
  | loop .forLoop control body next =>
    .keyword .forWord :: parenthesised control (braced body.tokens next.tokens)
  | loop .whileLoop control body next =>
    .keyword .whileWord :: parenthesised control (braced body.tokens next.tokens)
  | loop .doWhile control body next =>
    .keyword .doWord :: braced body.tokens
      (.keyword .whileWord :: parenthesised control (.mark .semicolon :: next.tokens))

/-- The loops at any depth, each counted with the weight of its kind. -/
def tally (weight : Kind → Nat) : Program → Nat
  | done => 0
  | simple _ next => next.tally weight
  | block body next => body.tally weight + next.tally weight
  | ifThen _ body next => body.tally weight + next.tally weight
  | ifElse _ body other next => body.tally weight + (other.tally weight + next.tally weight)
  | loop kind _ body next => weight kind + (body.tally weight + next.tally weight)

/-- The number of loops of a kind, at any depth. -/
def loopCount (program : Program) (kind : Kind) : Nat :=
  program.tally fun kind' => if kind' = kind then 1 else 0

lemma tally_add (program : Program) (weight weight' : Kind → Nat) :
    program.tally (fun kind => weight kind + weight' kind) =
      program.tally weight + program.tally weight' := by
  induction program with
  | done => rfl
  | simple _ _ ih => exact ih
  | block _ _ ihbody ihnext =>
    rw [tally, tally, tally, ihbody, ihnext]
    omega
  | ifThen _ _ _ ihbody ihnext =>
    rw [tally, tally, tally, ihbody, ihnext]
    omega
  | ifElse _ _ _ _ ihbody ihother ihnext =>
    rw [tally, tally, tally, ihbody, ihother, ihnext]
    omega
  | loop _ _ _ _ ihbody ihnext =>
    rw [tally, tally, tally, ihbody, ihnext]
    omega

end Program

/-- The white space before each token and at the end. -/
structure Spacing where
  gap : Nat → List Char
  allBlank : ∀ i, AllBlank (gap i)

/-- The white space after the first token. -/
def Spacing.next (spacing : Spacing) : Spacing :=
  ⟨fun i => spacing.gap (i + 1), fun i => spacing.allBlank (i + 1)⟩

def render : Spacing → List Token → List Char
  | spacing, [] => spacing.gap 0
  | spacing, token :: tokens => spacing.gap 0 ++ (token.text ++ render spacing.next tokens)

example :
    let spacing : Spacing := ⟨fun i => if i = 1 then [] else "\n ".toList, by
      intro i
      split <;> decide⟩
    let call : FreeText := ⟨"dot(x)".toList, forall_eq_false_of_all (by decide), by decide⟩
    let more : FreeText := ⟨"y > 0".toList, forall_eq_false_of_all (by decide), by decide⟩
    render spacing (Program.loop .doWhile more (.simple call .done) .done).tokens =
      "\n do\x7b\n dot(x)\n ;\n \x7d\n while\n (\n y > 0\n )\n ;\n ".toList := by decide

lemma no_quote_render (spacing : Spacing) (tokens : List Token) :
    ∀ c ∈ render spacing tokens, Literal.isQuote c = false := by
  have hgap : ∀ (spacing : Spacing), ∀ c ∈ spacing.gap 0, Literal.isQuote c = false :=
    fun spacing c hc => Literal.isQuote_of_isBlank (spacing.allBlank 0 c hc)
  induction tokens generalizing spacing with
  | nil => exact hgap spacing
  | cons token tokens ih =>
    intro c hc
    rw [render, List.mem_append, List.mem_append] at hc
    rcases hc with hc | hc | hc
    · exact hgap spacing c hc
    · exact token.no_quote c hc
    · exact ih spacing.next c hc

/-- The header that a keyword and a mark make up. -/
def opening (keyword : Keyword) (mark : Mark) : Header :=
  ⟨keyword.text, mark.char, keyword.isWord_text, keyword.text_ne_nil, mark.isWord_char,
    mark.isBlank_char⟩

/-- The number of places where the mark follows the keyword. -/
def openings (keyword : Keyword) (mark : Mark) : List Token → Nat
  | .keyword k :: .mark m :: tokens =>
    openings keyword mark (.mark m :: tokens) + if k = keyword ∧ m = mark then 1 else 0
  | _ :: tokens => openings keyword mark tokens
  | [] => 0

section Openings
variable (keyword : Keyword) (mark : Mark)

lemma openings_mark (m : Mark) (rest : List Token) :
    openings keyword mark (.mark m :: rest) = openings keyword mark rest := rfl

lemma openings_free (text : FreeText) (rest : List Token) :
    openings keyword mark (.free text :: rest) = openings keyword mark rest := rfl

lemma openings_keyword_mark (k : Keyword) (m : Mark) (rest : List Token) :
    openings keyword mark (.keyword k :: .mark m :: rest) =
      openings keyword mark rest + if k = keyword ∧ m = mark then 1 else 0 := rfl

end Openings

/-- Every keyword and every free text has a mark after it. -/
def Closed : List Token → Prop
  | [] => True
  | .mark _ :: tokens => Closed tokens
  | _ :: .mark m :: tokens => Closed (.mark m :: tokens)
  | _ => False

/-- Before a mark no word goes on. -/
lemma endsWord_render (spacing : Spacing) (mark : Mark) (tokens : List Token) :
    EndsWord (render spacing (.mark mark :: tokens)) :=
  endsWord_allBlank_append (spacing.allBlank 0) (endsWord_cons.2 mark.isWord_char)

theorem countIn_render {keyword : Keyword} (hkeyword : keyword.text ∈ loopWords) (mark : Mark)
    (spacing : Spacing) {tokens : List Token} (h : Closed tokens) :
    (opening keyword mark).phrase.countIn (render spacing tokens) =
      openings keyword mark tokens := by
  have hgap : ∀ (spacing : Spacing) cs, (opening keyword mark).phrase.countIn
      (spacing.gap 0 ++ cs) = (opening keyword mark).phrase.countIn cs :=
    fun spacing => Header.countIn_allBlank_append _ (spacing.allBlank 0)
  fun_induction Closed tokens generalizing spacing with
  | case1 =>
    have hnil := hgap spacing []
    rwa [List.append_nil] at hnil
  | case2 m tokens ih =>
    rw [render, hgap, Token.text, List.singleton_append, Phrase.countIn_eq,
      Header.countAfter_cons _ m.isWord_char, ih spacing.next h, openings_mark]
  | case3 token m tokens hmark ih =>
    have hend := endsWord_render spacing.next m tokens
    rw [render, hgap]
    cases token with
    | mark m' => exact absurd rfl (hmark m')
    | keyword k =>
      -- the mark is what a gap behind the keyword leads to
      have hskip : (skipBlanks (render spacing.next (.mark m :: tokens))).head? = some m.char := by
        rw [render, Token.text, List.singleton_append,
          skipBlanks_append_cons (spacing.next.allBlank 0) m.isBlank_char, List.head?_cons]
      rw [Token.text, Header.countIn_word_append _ k.isWord_text k.text_ne_nil hend,
        ih spacing.next h, hskip, openings_keyword_mark, openings_mark]
      simp only [opening, Keyword.text_inj, Option.some.injEq, Mark.char_inj]
    | free f =>
      have hnone : (wholeWord keyword.text).countAfter none f.text = 0 := by
        have hnowhere := f.no_loopWord keyword.text hkeyword
        rw [← Bool.not_eq_true, Phrase.occursIn_iff_countIn_pos, Phrase.countIn_eq] at hnowhere
        omega
      rw [Token.text, Phrase.countIn_eq, Header.countAfter_append _ hend hnone, ih spacing.next h,
        openings_free]
  | case4 => exact h.elim

lemma closed_append {tokens rest : List Token} (htokens : Closed tokens) (hrest : Closed rest) :
    Closed (tokens ++ rest) := by
  fun_induction Closed tokens with
  | case1 => exact hrest
  | case2 _ _ ih => exact ih htokens
  | case3 token m tokens hmark ih =>
    cases token with
    | mark m' => exact absurd rfl (hmark m')
    | keyword k => exact ih htokens
    | free f => exact ih htokens
  | case4 => exact htokens.elim

/-- No header reaches from one list into the next. -/
lemma openings_append (keyword : Keyword) (mark : Mark) {tokens : List Token}
    (h : Closed tokens) (rest : List Token) :
    openings keyword mark (tokens ++ rest) =
      openings keyword mark tokens + openings keyword mark rest := by
  fun_induction Closed tokens with
  | case1 => simp [openings]
  | case2 _ _ ih => exact ih h
  | case3 token m tokens hmark ih =>
    have htail := ih h
    cases token with
    | mark m' => exact absurd rfl (hmark m')
    | keyword k =>
      rw [List.cons_append, openings_mark, openings_mark] at htail
      rw [List.cons_append, List.cons_append, openings_keyword_mark, openings_keyword_mark, htail]
      omega
    | free f => exact htail
  | case4 => exact h.elim

lemma closed_braced {body rest : List Token} (hbody : Closed body) (hrest : Closed rest) :
    Closed (braced body rest) := by
  have hclose : Closed (.mark .closeBrace :: rest) := hrest
  exact closed_append hbody hclose

theorem closed_tokens (program : Program) : Closed program.tokens := by
  induction program with
  | done => trivial
  | simple _ _ ih => exact ih
  | block _ _ ihbody ihnext => exact closed_braced ihbody ihnext
  | ifThen _ _ _ ihbody ihnext => exact closed_braced ihbody ihnext
  | ifElse _ _ _ _ ihbody ihother ihnext =>
    exact closed_braced ihbody (closed_braced ihother ihnext)
  | loop kind _ _ _ ihbody ihnext =>
    cases kind with
    | forLoop => exact closed_braced ihbody ihnext
    | whileLoop => exact closed_braced ihbody ihnext
    | doWhile => exact closed_braced ihbody ihnext

section Openings
variable (keyword : Keyword) (mark : Mark)

lemma openings_braced {body : List Token} (hbody : Closed body) (rest : List Token) :
    openings keyword mark (braced body rest) =
      openings keyword mark body + openings keyword mark rest := by
  rw [braced, openings_mark, openings_append keyword mark hbody, openings_mark]

lemma openings_keyword_braced (k : Keyword) {body : List Token} (hbody : Closed body)
    (rest : List Token) :
    openings keyword mark (.keyword k :: braced body rest) =
      openings keyword mark body + openings keyword mark rest +
        if k = keyword ∧ .openBrace = mark then 1 else 0 := by
  rw [← openings_braced keyword mark hbody, braced, openings_keyword_mark, openings_mark]

lemma openings_keyword_parenthesised (k : Keyword) (text : FreeText) (rest : List Token) :
    openings keyword mark (.keyword k :: parenthesised text rest) =
      openings keyword mark rest + if k = keyword ∧ .openParen = mark then 1 else 0 := by
  rw [parenthesised, openings_keyword_mark, openings_free, openings_mark]

/-- How often the keyword and the mark make up a header of a loop of some kind. -/
def Kind.openings : Kind → Nat
  | forLoop => if .forWord = keyword ∧ .openParen = mark then 1 else 0
  | whileLoop => if .whileWord = keyword ∧ .openParen = mark then 1 else 0
  | doWhile =>
    (if .doWord = keyword ∧ .openBrace = mark then 1 else 0) +
      if .whileWord = keyword ∧ .openParen = mark then 1 else 0

end Openings

theorem openings_tokens {keyword : Keyword} (hkeyword : keyword.text ∈ loopWords) (mark : Mark)
    (program : Program) :
    openings keyword mark program.tokens = program.tally (Kind.openings keyword mark) := by
  have hif : Keyword.ifWord ≠ keyword := by
    rintro rfl
    exact absurd hkeyword (by decide)
  have helse : Keyword.elseWord ≠ keyword := by
    rintro rfl
    exact absurd hkeyword (by decide)
  induction program with
  | done => rfl
  | simple _ _ ih => exact ih
  | block body next ihbody ihnext =>
    rw [Program.tokens, openings_braced _ _ (closed_tokens body), ihbody, ihnext, Program.tally]
  | ifThen condition body next ihbody ihnext =>
    rw [Program.tokens, openings_keyword_parenthesised, if_neg (fun h => hif h.1),
      openings_braced _ _ (closed_tokens body), ihbody, ihnext, Program.tally, Nat.add_zero]
  | ifElse condition body other next ihbody ihother ihnext =>
    rw [Program.tokens, openings_keyword_parenthesised, if_neg (fun h => hif h.1),
      openings_braced _ _ (closed_tokens body), openings_keyword_braced _ _ _ (closed_tokens other),
      if_neg (fun h => helse h.1), ihbody, ihother, ihnext, Program.tally, Nat.add_zero,
      Nat.add_zero]
  | loop kind control body next ihbody ihnext =>
    cases kind with
    | forLoop =>
      rw [Program.tokens, openings_keyword_parenthesised,
        openings_braced _ _ (closed_tokens body), ihbody, ihnext, Program.tally, Kind.openings]
      omega
    | whileLoop =>
      rw [Program.tokens, openings_keyword_parenthesised,
        openings_braced _ _ (closed_tokens body), ihbody, ihnext, Program.tally, Kind.openings]
      omega
    | doWhile =>
      rw [Program.tokens, openings_keyword_braced _ _ _ (closed_tokens body),
        openings_keyword_parenthesised, openings_mark, ihbody, ihnext, Program.tally,
        Kind.openings]
      omega

/-- The loop counts of a structured program are the numbers of its loops, however it is laid out. -/
theorem count_render_tokens (spacing : Spacing) (program : Program) :
    count (render spacing program.tokens) =
      ⟨program.loopCount .forLoop, program.loopCount .whileLoop, program.loopCount .doWhile⟩ := by
  have hheaders : ∀ keyword mark, keyword.text ∈ loopWords →
      (opening keyword mark).phrase.countIn (render spacing program.tokens) =
        program.tally (Kind.openings keyword mark) := by
    intro keyword mark hkeyword
    rw [countIn_render hkeyword mark spacing (closed_tokens program), openings_tokens hkeyword]
  have hfor : forHeader.countIn (render spacing program.tokens) = program.loopCount .forLoop := by
    refine (hheaders .forWord .openParen (by decide)).trans (congrArg program.tally ?_)
    funext kind
    cases kind <;> rfl
  have hdo : doHeader.countIn (render spacing program.tokens) = program.loopCount .doWhile := by
    refine (hheaders .doWord .openBrace (by decide)).trans (congrArg program.tally ?_)
    funext kind
    cases kind <;> rfl
  have hwhile : whileHeader.countIn (render spacing program.tokens) =
      program.loopCount .whileLoop + program.loopCount .doWhile := by
    rw [Program.loopCount, Program.loopCount, ← Program.tally_add]
    refine (hheaders .whileWord .openParen (by decide)).trans (congrArg program.tally ?_)
    funext kind
    cases kind <;> rfl
  rw [count, Literal.mask_of_no_quotes (no_quote_render spacing program.tokens)]
  rw [hfor, hwhile, hdo, ownWhileCount, if_pos (Nat.le_add_left _ _), Nat.add_sub_cancel]

end CodeGrowth.Structured
