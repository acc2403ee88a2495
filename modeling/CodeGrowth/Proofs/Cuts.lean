import Mathlib.Data.List.Infix
import Mathlib.Logic.ExistsUnique

/-!
# Texts cut at spans

A search for spans takes the first one that begins anywhere in the text and goes on right behind it.
What it finds cuts the text into stretches. No span begins in a stretch, though one may have its
first characters there that is never completed.

If no span is empty or a proper start of another one, each text has exactly one such cut. So a
function that leaves out every span it comes to and passes over what begins none answers with the
stretches of that cut, whichever way it goes about its search.
-/
namespace CodeGrowth.Text

/-- A text in parts: a stretch and the span behind it, and so on, up to the last stretch. -/
inductive Cut where
  | last (stretch : List Char)
  | part (stretch span : List Char) (rest : Cut)

namespace Cut

/-- The text that was cut. -/
def text : Cut → List Char
  | last stretch => stretch
  | part stretch span rest => stretch ++ (span ++ rest.text)

/-- The stretches without the spans between them. -/
def kept : Cut → List Char
  | last stretch => stretch
  | part stretch _ rest => stretch ++ rest.kept

/-- The stretches that a span ends, each with that span. -/
def parts : Cut → List (List Char × List Char)
  | last _ => []
  | part stretch span rest => (stretch, span) :: rest.parts

def lastStretch : Cut → List Char
  | last stretch => stretch
  | part _ _ rest => rest.lastStretch

/-- The cut with another text in place of each stretch. -/
def map (f : List Char → List Char) : Cut → Cut
  | last stretch => last (f stretch)
  | part stretch span rest => part (f stretch) span (rest.map f)

/-- The cut of a text with one more character in front. -/
def cons (c : Char) : Cut → Cut
  | last stretch => last (c :: stretch)
  | part stretch span rest => part (c :: stretch) span rest

@[simp] theorem text_cons (c : Char) (cut : Cut) : (cut.cons c).text = c :: cut.text := by
  cases cut <;> rfl

end Cut

section
variable (IsSpan : List Char → Prop)

/-- A span stands at the start of the text. -/
def Begins (text : List Char) : Prop := ∃ span rest, IsSpan span ∧ text = span ++ rest

/-- Of the stretch with `rest` behind it, no span stands at a place inside the stretch. -/
def NoneBegins (stretch rest : List Char) : Prop :=
  ∀ a b, stretch = a ++ b → b ≠ [] → ¬ Begins IsSpan (b ++ rest)

/-- Each span of the cut is the first to begin in what is left of the text, and none begins in the
last stretch. -/
def Cut.AtFirst : Cut → Prop
  | last stretch => NoneBegins IsSpan stretch []
  | part stretch span rest =>
    IsSpan span ∧ NoneBegins IsSpan stretch (span ++ rest.text) ∧ rest.AtFirst

/-- No span is empty or a proper start of another one. -/
structure PrefixFree : Prop where
  ne_nil {span : List Char} (h : IsSpan span) : span ≠ []
  eq_of_prefix {span other : List Char} (h : IsSpan span) (hother : IsSpan other)
    (hstart : span <+: other) : span = other

end

section
variable {IsSpan : List Char → Prop} {c : Char} {stretch rest : List Char} {cut other : Cut}

lemma noneBegins_nil : NoneBegins IsSpan [] rest := by
  intro a b h hb
  exact absurd (List.append_eq_nil_iff.1 h.symm).2 hb

lemma noneBegins_cons : NoneBegins IsSpan (c :: stretch) rest ↔
    ¬ Begins IsSpan (c :: (stretch ++ rest)) ∧ NoneBegins IsSpan stretch rest := by
  constructor
  · intro h
    exact ⟨h [] (c :: stretch) rfl (List.cons_ne_nil c stretch),
      fun a b hab => h (c :: a) b (by rw [hab]; rfl)⟩
  · rintro ⟨hc, h⟩ a b hab hb
    cases a with
    | nil =>
      subst hab
      exact hc
    | cons d a => exact h a b (List.cons.inj hab).2 hb

lemma Cut.AtFirst.cons (h : cut.AtFirst IsSpan) (hc : ¬ Begins IsSpan (c :: cut.text)) :
    (cut.cons c).AtFirst IsSpan := by
  cases cut with
  | last stretch => exact noneBegins_cons.2 ⟨by simpa [Cut.text] using hc, h⟩
  | part stretch span rest => exact ⟨h.1, noneBegins_cons.2 ⟨hc, h.2.1⟩, h.2.2⟩

lemma Cut.AtFirst.noneBegins_lastStretch (h : cut.AtFirst IsSpan) :
    NoneBegins IsSpan cut.lastStretch [] := by
  induction cut with
  | last stretch => exact h
  | part stretch span rest ih => exact ih h.2.2

lemma PrefixFree.append_inj (h : PrefixFree IsSpan) {span other rest rest' : List Char}
    (hspan : IsSpan span) (hother : IsSpan other) (heq : span ++ rest = other ++ rest') :
    span = other ∧ rest = rest' := by
  have hsame : span = other := by
    have hspan' : span <+: other ++ rest' := ⟨rest, heq⟩
    obtain hle | hle := List.prefix_or_prefix_of_prefix hspan' (List.prefix_append other rest')
    · exact h.eq_of_prefix hspan hother hle
    · exact (h.eq_of_prefix hother hspan hle).symm
  subst hsame
  exact ⟨rfl, List.append_cancel_left heq⟩

/-- A stretch reaches no further than the place where a span begins. -/
lemma NoneBegins.length_le {stretch' rest' : List Char} (h : NoneBegins IsSpan stretch rest)
    (hbegins : Begins IsSpan rest') (heq : stretch ++ rest = stretch' ++ rest') :
    stretch.length ≤ stretch'.length := by
  obtain ⟨b, rfl, -⟩ | ⟨b, rfl, rfl⟩ := List.append_eq_append_iff.1 heq
  · simp
  · by_cases hb : b = []
    · simp [hb]
    · exact absurd hbegins (h stretch' b rfl hb)

lemma exists_cut_atFirst (h : PrefixFree IsSpan) (text : List Char) :
    ∃ cut : Cut, cut.text = text ∧ cut.AtFirst IsSpan := by
  -- on the length, since a span is left behind as a whole
  induction hn : text.length using Nat.strong_induction_on generalizing text with
  | _ n ih =>
    by_cases hbegins : Begins IsSpan text
    · obtain ⟨span, rest, hspan, rfl⟩ := hbegins
      have hpos := List.length_pos_iff.2 (h.ne_nil hspan)
      rw [List.length_append] at hn
      obtain ⟨cut, rfl, hcut⟩ := ih rest.length (by omega) rest rfl
      exact ⟨.part [] span cut, rfl, hspan, noneBegins_nil, hcut⟩
    · cases text with
      | nil => exact ⟨.last [], rfl, noneBegins_nil⟩
      | cons c text =>
        rw [List.length_cons] at hn
        obtain ⟨cut, rfl, hcut⟩ := ih text.length (by omega) text rfl
        exact ⟨cut.cons c, cut.text_cons c, hcut.cons hbegins⟩

/-- In a last stretch no span begins, so a text with a span is not one. -/
lemma not_begins_of_last {stretch' rest' : List Char} (h : NoneBegins IsSpan stretch [])
    (hne : rest' ≠ []) (heq : stretch = stretch' ++ rest') : ¬ Begins IsSpan rest' := by
  simpa using h stretch' rest' heq hne

lemma Cut.AtFirst.eq (h : PrefixFree IsSpan) (hcut : cut.AtFirst IsSpan)
    (hother : other.AtFirst IsSpan) (heq : cut.text = other.text) : cut = other := by
  have hbegins : ∀ {span : List Char} (rest : List Char), IsSpan span →
      span ++ rest ≠ [] ∧ Begins IsSpan (span ++ rest) := by
    intro span rest hspan
    exact ⟨List.append_ne_nil_of_left_ne_nil (h.ne_nil hspan) rest, span, rest, hspan, rfl⟩
  induction cut generalizing other with
  | last stretch =>
    cases other with
    | last stretch' => rw [show stretch = stretch' from heq]
    | part stretch' span' rest' =>
      obtain ⟨hne, hspan⟩ := hbegins rest'.text hother.1
      exact absurd hspan (not_begins_of_last hcut hne heq)
  | part stretch span rest ih =>
    obtain ⟨hne, hspan⟩ := hbegins rest.text hcut.1
    cases other with
    | last stretch' => exact absurd hspan (not_begins_of_last hother hne heq.symm)
    | part stretch' span' rest' =>
      obtain ⟨-, hspan'⟩ := hbegins rest'.text hother.1
      have hlength := Nat.le_antisymm (hcut.2.1.length_le hspan' heq)
        (hother.2.1.length_le hspan heq.symm)
      obtain ⟨rfl, hspans⟩ := List.append_inj heq hlength
      obtain ⟨rfl, hrest⟩ := h.append_inj hcut.1 hother.1 hspans
      rw [ih hcut.2.2 hother.2.2 hrest]

theorem existsUnique_cut (h : PrefixFree IsSpan) (text : List Char) :
    ∃! cut : Cut, cut.text = text ∧ cut.AtFirst IsSpan := by
  obtain ⟨cut, rfl, hcut⟩ := exists_cut_atFirst h text
  exact ⟨cut, ⟨rfl, hcut⟩, fun other ⟨heq, hother⟩ => hother.eq h hcut heq⟩

/-- The function leaves out each span it comes to and passes over what begins none. -/
structure Removes (IsSpan : List Char → Prop) (f : List Char → List Char) : Prop where
  nil : f [] = []
  span {span : List Char} (h : IsSpan span) (rest : List Char) : f (span ++ rest) = f rest
  char {c : Char} {cs : List Char} (h : ¬ Begins IsSpan (c :: cs)) : f (c :: cs) = c :: f cs

variable {f : List Char → List Char}

lemma Removes.append (h : Removes IsSpan f) (hstretch : NoneBegins IsSpan stretch rest) :
    f (stretch ++ rest) = stretch ++ f rest := by
  induction stretch with
  | nil => rfl
  | cons c stretch ih =>
    obtain ⟨hc, hstretch⟩ := noneBegins_cons.1 hstretch
    rw [List.cons_append, h.char hc, ih hstretch, List.cons_append]

theorem Removes.eq_kept (h : Removes IsSpan f) (hcut : cut.AtFirst IsSpan) :
    f cut.text = cut.kept := by
  induction cut with
  | last stretch =>
    have happend := h.append hcut
    rwa [List.append_nil, h.nil, List.append_nil] at happend
  | part stretch span rest ih =>
    obtain ⟨hspan, hstretch, hrest⟩ := hcut
    rw [Cut.text, h.append hstretch, h.span hspan, ih hrest, Cut.kept]

end

/-- A single character with the property. -/
def Single (p : Char → Bool) (span : List Char) : Prop := ∃ c, p c = true ∧ span = [c]

/-- The text cut at each character with the property. -/
def cutAt (p : Char → Bool) : List Char → Cut
  | [] => .last []
  | c :: cs => if p c then .part [] [c] (cutAt p cs) else (cutAt p cs).cons c

section
variable {p : Char → Bool} {c : Char} {cs stretch rest : List Char}

lemma begins_single : Begins (Single p) (c :: cs) ↔ p c = true := by
  constructor
  · rintro ⟨_, rest, ⟨d, hd, rfl⟩, heq⟩
    obtain ⟨rfl, -⟩ := List.cons.inj heq
    exact hd
  · exact fun hc => ⟨[c], cs, ⟨c, hc, rfl⟩, rfl⟩

lemma noneBegins_single : NoneBegins (Single p) stretch rest ↔ ∀ c ∈ stretch, p c = false := by
  induction stretch with
  | nil => simp [noneBegins_nil]
  | cons c stretch ih => rw [noneBegins_cons, begins_single, ih, List.forall_mem_cons,
      Bool.not_eq_true]

theorem text_cutAt (p : Char → Bool) (text : List Char) : (cutAt p text).text = text := by
  induction text with
  | nil => rfl
  | cons c text ih =>
    rw [cutAt]
    split
    · rw [Cut.text, ih]
      rfl
    · rw [Cut.text_cons, ih]

theorem atFirst_cutAt (p : Char → Bool) (text : List Char) :
    (cutAt p text).AtFirst (Single p) := by
  induction text with
  | nil => exact noneBegins_nil
  | cons c text ih =>
    rw [cutAt]
    split
    · next hc => exact ⟨⟨c, hc, rfl⟩, noneBegins_nil, ih⟩
    · next hc => exact ih.cons (by rwa [begins_single])

end

end CodeGrowth.Text
