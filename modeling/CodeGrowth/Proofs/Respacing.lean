import CodeGrowth.Proofs.WhiteSpace

/-!
# Texts that differ in their white space at line ends

Two texts are respacings of each other if they have the same characters apart from runs of white
space that contain a line feed, and from the white space at their end. A run with a line feed may
be exchanged for any other such run, so lines may be indented anew, blank lines added or removed,
and carriage returns put before line feeds.

A search that reads nothing at white space and takes any gap for any other finds the same in both
texts. All phrases are of this kind. This module does not look at literals and comments, which may
hold line feeds themselves.
-/
namespace CodeGrowth.Text

inductive Respaced : List Char → List Char → Prop
  | ends {g h : List Char} (hg : AllBlank g) (hh : AllBlank h) : Respaced g h
  | keep (c : Char) {s t : List Char} (h : Respaced s t) : Respaced (c :: s) (c :: t)
  | turn {g h s t : List Char} (hg : AllBlank g) (hh : AllBlank h) (hgn : '\n' ∈ g)
      (hhn : '\n' ∈ h) (hst : Respaced s t) : Respaced (g ++ s) (h ++ t)

namespace Respaced
variable {s t : List Char}

lemma refl (s : List Char) : Respaced s s := by
  induction s with
  | nil => exact .ends allBlank_nil allBlank_nil
  | cons c s ih => exact .keep c ih

lemma symm (h : Respaced s t) : Respaced t s := by
  induction h with
  | ends hg hh => exact .ends hh hg
  | keep c _ ih => exact .keep c ih
  | turn hg hh hgn hhn _ ih => exact .turn hh hg hhn hgn ih

lemma append_allBlank {g : List Char} (hg : AllBlank g) (s : List Char) :
    Respaced (s ++ g) s := by
  induction s with
  | nil => exact .ends hg allBlank_nil
  | cons c s ih => exact .keep c ih

lemma ne_nil_of_lineFeed_mem {g : List Char} (h : '\n' ∈ g) : g ≠ [] := List.ne_nil_of_mem h

/-- Only a run with a line feed or the end may differ, so other characters are kept in place. -/
lemma exists_of_cons {c : Char} (h : Respaced (c :: s) t) (hc : isBlank c = false) :
    ∃ t', t = c :: t' ∧ Respaced s t' := by
  generalize hcs : c :: s = cs at h
  cases h with
  | ends hg _ =>
    subst hcs
    rw [allBlank_cons, hc] at hg
    exact absurd hg.1 (by decide)
  | keep d h =>
    cases hcs
    exact ⟨_, rfl, h⟩
  | @turn g _ _ _ hg _ hgn _ _ =>
    cases g with
    | nil => contradiction
    | cons d g =>
      cases hcs
      rw [allBlank_cons, hc] at hg
      exact absurd hg.1 (by decide)

lemma allBlank_of_nil (h : Respaced [] t) : AllBlank t := by
  generalize hcs : ([] : List Char) = cs at h
  cases h with
  | ends _ hh => exact hh
  | keep => contradiction
  | turn _ _ hgn =>
    rw [List.nil_eq_append_iff] at hcs
    exact absurd hcs.1 (ne_nil_of_lineFeed_mem hgn)

end Respaced

section Reading
variable {s t : List Char} {p : Char → Bool}

lemma respaced_skipBlanks (h : Respaced s t) : Respaced (skipBlanks s) (skipBlanks t) := by
  induction h with
  | ends hg hh =>
    rw [skipBlanks_eq_nil_iff.2 hg, skipBlanks_eq_nil_iff.2 hh]
    exact .refl []
  | keep c h ih =>
    rw [skipBlanks_cons, skipBlanks_cons]
    split
    · exact ih
    · exact .keep c h
  | turn hg hh _ _ _ ih =>
    rwa [skipBlanks_append_of_allBlank hg, skipBlanks_append_of_allBlank hh]

lemma takeWhile_allBlank_append (hp : ∀ c, isBlank c = true → p c = false) {g : List Char}
    (hg : AllBlank g) (hne : g ≠ []) (cs : List Char) :
    (g ++ cs).takeWhile p = [] ∧ (g ++ cs).dropWhile p = g ++ cs := by
  cases g with
  | nil => contradiction
  | cons c g =>
    have hc := hp c (allBlank_cons.1 hg).1
    simp [hc]

/-- A run of characters that are no white space, such as a word, and what follows it. -/
lemma respaced_run (hp : ∀ c, isBlank c = true → p c = false) (h : Respaced s t) :
    s.takeWhile p = t.takeWhile p ∧ Respaced (s.dropWhile p) (t.dropWhile p) := by
  have hends : ∀ {g : List Char}, AllBlank g → g.takeWhile p = [] ∧ g.dropWhile p = g := by
    intro g hg
    cases g with
    | nil => simp
    | cons c g => simpa using takeWhile_allBlank_append hp hg (List.cons_ne_nil c g) []
  induction h with
  | ends hg hh =>
    rw [(hends hg).1, (hends hg).2, (hends hh).1, (hends hh).2]
    exact ⟨rfl, .ends hg hh⟩
  | keep c h ih =>
    rw [List.takeWhile_cons, List.takeWhile_cons, List.dropWhile_cons, List.dropWhile_cons]
    split
    · exact ⟨by rw [ih.1], ih.2⟩
    · exact ⟨rfl, .keep c h⟩
  | @turn g h s t hg hh hgn hhn hst _ =>
    obtain ⟨htake, hdrop⟩ :=
      takeWhile_allBlank_append hp hg (Respaced.ne_nil_of_lineFeed_mem hgn) s
    obtain ⟨htake', hdrop'⟩ :=
      takeWhile_allBlank_append hp hh (Respaced.ne_nil_of_lineFeed_mem hhn) t
    rw [htake, htake', hdrop, hdrop']
    exact ⟨rfl, .turn hg hh hgn hhn hst⟩

/-- A stretch up to a character that is no white space, such as the header of a definition. -/
lemma respaced_stretch (hp : ∀ c, isBlank c = true → p c = true) (h : Respaced s t) :
    Respaced (s.takeWhile p) (t.takeWhile p) ∧ Respaced (s.dropWhile p) (t.dropWhile p) := by
  have hblank : ∀ {g : List Char}, AllBlank g → ∀ c ∈ g, p c = true :=
    fun hg c hc => hp c (hg c hc)
  induction h with
  | @ends g h hg hh =>
    refine ⟨.ends (hg.subset (List.takeWhile_sublist _).subset)
      (hh.subset (List.takeWhile_sublist _).subset), ?_⟩
    rw [List.dropWhile_eq_nil_iff.2 (hblank hg), List.dropWhile_eq_nil_iff.2 (hblank hh)]
    exact .refl []
  | keep c h ih =>
    rw [List.takeWhile_cons, List.takeWhile_cons, List.dropWhile_cons, List.dropWhile_cons]
    split
    · exact ⟨.keep c ih.1, ih.2⟩
    · exact ⟨.refl [], .keep c h⟩
  | turn hg hh hgn hhn _ ih =>
    rw [List.takeWhile_append_of_pos (hblank hg), List.takeWhile_append_of_pos (hblank hh),
      List.dropWhile_append_of_pos (hblank hg), List.dropWhile_append_of_pos (hblank hh)]
    exact ⟨.turn hg hh hgn hhn ih.1, ih.2⟩

lemma respaced_head? (hp : ∀ c, isBlank c = true → p c = false) (h : Respaced s t) :
    s.head?.any p = t.head?.any p := by
  have hdir : ∀ {s t : List Char}, Respaced s t → s.head?.any p = true → t.head?.any p = true := by
    intro s t h hs
    cases s with
    | nil => contradiction
    | cons c s =>
      have hc : isBlank c = false := by
        by_contra hblank
        have := hp c (by simpa using hblank)
        simp_all
      obtain ⟨t', rfl, -⟩ := h.exists_of_cons hc
      exact hs
  exact Bool.eq_iff_iff.2 ⟨hdir h, hdir h.symm⟩

lemma respaced_of_append {word : List Char} (hw : ∀ c ∈ word, isBlank c = false)
    (h : Respaced (word ++ s) t) : ∃ t', t = word ++ t' ∧ Respaced s t' := by
  induction word generalizing t with
  | nil => exact ⟨t, rfl, h⟩
  | cons c word ih =>
    obtain ⟨hc, hw⟩ := List.forall_mem_cons.1 hw
    obtain ⟨t', rfl, htail⟩ := h.exists_of_cons hc
    obtain ⟨t'', rfl, hrest⟩ := ih hw htail
    exact ⟨t'', rfl, hrest⟩

lemma respaced_after? {expected : List Char} (he : ∀ c ∈ expected, isBlank c = false)
    (h : Respaced s t) : Option.Rel Respaced (after? expected s) (after? expected t) := by
  cases hs : after? expected s with
  | none =>
    cases ht : after? expected t with
    | none => exact .none
    | some r =>
      rw [after?_eq_some_iff.1 ht] at h
      obtain ⟨s', hs', -⟩ := respaced_of_append he h.symm
      rw [after?_eq_some_iff.2 hs'] at hs
      contradiction
  | some r =>
    rw [after?_eq_some_iff.1 hs] at h
    obtain ⟨t', ht', h⟩ := respaced_of_append he h
    rw [after?_eq_some_iff.2 ht']
    exact .some h

/-- The characters that are no white space are the same, in the same order. -/
lemma respaced_filter (h : Respaced s t) :
    s.filter (!isBlank ·) = t.filter (!isBlank ·) := by
  induction h with
  | ends hg hh => rw [filter_not_blank_of_allBlank hg, filter_not_blank_of_allBlank hh]
  | keep c _ ih => rw [List.filter_cons, List.filter_cons, ih]
  | turn hg hh _ _ _ ih =>
    rw [List.filter_append, List.filter_append, filter_not_blank_of_allBlank hg,
      filter_not_blank_of_allBlank hh, ih]

lemma respaced_allBlank_iff (h : Respaced s t) : AllBlank s ↔ AllBlank t := by
  rw [← filter_not_blank_eq_nil_iff, ← filter_not_blank_eq_nil_iff, respaced_filter h]

end Reading

/-- Respacings of each other in the white space they begin with as well. -/
def Relaid (s t : List Char) : Prop := Respaced (skipBlanks s) (skipBlanks t)

lemma Respaced.relaid {s t : List Char} (h : Respaced s t) : Relaid s t := respaced_skipBlanks h

lemma relaid_append {g h : List Char} (hg : AllBlank g) (hh : AllBlank h) (s : List Char) :
    Relaid (g ++ s ++ h) s := by
  rw [Relaid, List.append_assoc, skipBlanks_append_of_allBlank hg]
  exact (Respaced.append_allBlank hh s).relaid

lemma relaid_filter {s t : List Char} (h : Relaid s t) :
    s.filter (!isBlank ·) = t.filter (!isBlank ·) := by
  have hskip : ∀ cs, (skipBlanks cs).filter (!isBlank ·) = cs.filter (!isBlank ·) := by
    refine apply_skipBlanks (f := List.filter (!isBlank ·)) ?_
    intro g cs hg
    rw [List.filter_append, filter_not_blank_of_allBlank hg, List.nil_append]
  rw [← hskip s, ← hskip t]
  exact respaced_filter h

lemma optionRel_bind {α β γ δ : Type} {R : α → β → Prop} {S : γ → δ → Prop} {x : Option α}
    {y : Option β} {f : α → Option γ} {g : β → Option δ} (h : Option.Rel R x y)
    (hfg : ∀ a b, R a b → Option.Rel S (f a) (g b)) : Option.Rel S (x.bind f) (y.bind g) := by
  cases h with
  | none => exact .none
  | some hab => exact hfg _ _ hab

/-- Characters that are matched as such are no white space, and where some white space is called
for, the text may not end behind it. -/
def Tight : List Piece → Bool
  | [] => true
  | .exactly expected :: ps => expected.all (!isBlank ·) && Tight ps
  | .blanks :: ps => (afterPieces? ps []).isNone && Tight ps
  | _ :: ps => Tight ps

lemma isBlank_eq_false_of_isDotted {c : Char} (h : isBlank c = true) : isDotted c = false := by
  have hdot : c ≠ '.' := ne_of_isBlank h (by decide)
  simp [isDotted, isWord_of_isBlank h, hdot]

lemma respaced_afterPieces? {ps : List Piece} (hps : Tight ps) {s t : List Char}
    (h : Respaced s t) : Option.Rel Respaced (afterPieces? ps s) (afterPieces? ps t) := by
  induction ps generalizing s t with
  | nil => exact .some h
  | cons piece ps ih =>
    cases piece with
    | exactly expected =>
      simp only [Tight, Bool.and_eq_true, List.all_eq_true, Bool.not_eq_true'] at hps
      exact optionRel_bind (respaced_after? hps.1 h) fun _ _ => ih hps.2
    | gap => exact ih hps (respaced_skipBlanks h)
    | blanks =>
      simp only [Tight, Bool.and_eq_true, Option.isNone_iff_eq_none] at hps
      -- only a text that ends there can have white space on one side alone
      have hend : ∀ {s t : List Char}, Respaced s t → s.head?.any isBlank = true →
          t.head?.any isBlank = false → afterPieces? ps (skipBlanks s) = none := by
        intro s t h hs ht
        cases t with
        | nil => rw [skipBlanks_eq_nil_iff.2 h.symm.allBlank_of_nil, hps.1]
        | cons c t =>
          obtain ⟨s', rfl, -⟩ := h.symm.exists_of_cons (by simpa using ht)
          simp_all
      simp only [afterPieces?, Piece.rest?]
      cases hs : s.head?.any isBlank <;> cases ht : t.head?.any isBlank
      · exact .none
      · simp [hend h.symm ht hs]
      · simp [hend h hs ht]
      · exact ih hps.2 (respaced_skipBlanks h)
    | dotted =>
      have hblank : ∀ c, isBlank c = true → isDotted c = false :=
        fun c => isBlank_eq_false_of_isDotted
      simp only [afterPieces?, Piece.rest?]
      rw [respaced_head? hblank h]
      split
      · exact ih hps (respaced_run hblank h).2
      · exact .none
    | wordEnd =>
      simp only [afterPieces?, Piece.rest?]
      rw [respaced_head? (fun c => isWord_of_isBlank) h]
      split
      · exact .none
      · exact ih hps h

/-- A search that finds nothing at white space, and elsewhere depends on white space only as
respacing leaves it, and on the character before the spot only as it belongs to a word or not. -/
structure SpotReader {α : Type} (read : Spot → Option α) : Prop where
  blank : ∀ before c cs, isBlank c = true → read ⟨before, c :: cs⟩ = none
  respaced : ∀ before before' s t, before.any isWord = before'.any isWord → Respaced s t →
    read ⟨before, s⟩ = read ⟨before', t⟩

namespace SpotReader
variable {α : Type} {read : Spot → Option α}

lemma filterMap_spotsAfter_congr (hread : SpotReader read) (cs : List Char)
    {before before' : Option Char} (h : before.any isWord = before'.any isWord) :
    (spotsAfter before cs).filterMap read = (spotsAfter before' cs).filterMap read := by
  cases cs with
  | nil => rfl
  | cons c cs =>
    rw [spotsAfter, spotsAfter, List.filterMap_cons, List.filterMap_cons,
      hread.respaced _ _ _ _ h (.refl _)]

lemma filterMap_spotsAfter_blank (hread : SpotReader read) {g : List Char} (hg : AllBlank g)
    {before : Option Char} (h : g ≠ [] ∨ before.any isWord = false) (cs : List Char) :
    (spotsAfter before (g ++ cs)).filterMap read = (spots cs).filterMap read := by
  induction g generalizing before with
  | nil =>
    have hbefore : before.any isWord = false := by simpa using h
    exact hread.filterMap_spotsAfter_congr cs hbefore
  | cons c g ih =>
    obtain ⟨hc, hg⟩ := allBlank_cons.1 hg
    rw [List.cons_append, spotsAfter, List.filterMap_cons, hread.blank _ _ _ hc]
    exact ih hg (.inr (by simp [isWord_of_isBlank hc]))

lemma filterMap_spotsAfter (hread : SpotReader read) {s t : List Char} (h : Respaced s t)
    (before : Option Char) :
    (spotsAfter before s).filterMap read = (spotsAfter before t).filterMap read := by
  induction h generalizing before with
  | @ends g h hg hh =>
    have hnone : ∀ {g : List Char}, AllBlank g → (spotsAfter before g).filterMap read = [] := by
      intro g hg
      cases g with
      | nil => rfl
      | cons c g =>
        rw [← List.append_nil (c :: g)]
        exact hread.filterMap_spotsAfter_blank hg (.inl (List.cons_ne_nil c g)) []
    rw [hnone hg, hnone hh]
  | keep c h ih =>
    rw [spotsAfter, spotsAfter, List.filterMap_cons, List.filterMap_cons, ih,
      hread.respaced _ _ _ _ rfl (.keep c h)]
  | turn hg hh hgn hhn _ ih =>
    rw [hread.filterMap_spotsAfter_blank hg (.inl (Respaced.ne_nil_of_lineFeed_mem hgn)),
      hread.filterMap_spotsAfter_blank hh (.inl (Respaced.ne_nil_of_lineFeed_mem hhn))]
    exact ih none

theorem filterMap_spots (hread : SpotReader read) {s t : List Char} (h : Relaid s t) :
    (spots s).filterMap read = (spots t).filterMap read := by
  have hskip := apply_skipBlanks (f := fun cs => (spots cs).filterMap read)
    fun _ cs hg => hread.filterMap_spotsAfter_blank hg (.inr rfl) cs
  rw [← hskip s, ← hskip t]
  exact hread.filterMap_spotsAfter h none

end SpotReader

namespace Phrase

/-- A phrase that starts with a character and is matched through gaps alone. -/
def tight (phrase : Phrase) : Bool :=
  (match phrase.pieces with
    | .exactly (_ :: _) :: _ => true
    | _ => false) && Tight phrase.pieces

lemma rest?_of_isBlank {phrase : Phrase} (hphrase : phrase.tight = true) (before : Option Char)
    {c : Char} (cs : List Char) (hc : isBlank c = true) :
    phrase.rest? ⟨before, c :: cs⟩ = none := by
  unfold tight at hphrase
  unfold rest?
  split
  · rfl
  · match hpieces : phrase.pieces, hphrase with
    | .exactly (e :: es) :: ps, hphrase =>
      simp only [Tight, Bool.and_eq_true, List.all_eq_true, Bool.not_eq_true'] at hphrase
      have he : e ≠ c := (ne_of_isBlank hc (hphrase.2.1 e (by simp))).symm
      simp [afterPieces?, Piece.rest?, after?, he]

lemma respaced_rest? {phrase : Phrase} (hphrase : phrase.tight = true)
    {before before' : Option Char} {s t : List Char}
    (hbefore : before.any isWord = before'.any isWord) (h : Respaced s t) :
    Option.Rel Respaced (phrase.rest? ⟨before, s⟩) (phrase.rest? ⟨before', t⟩) := by
  have hstart : (Spot.mk before s).startsWord = (Spot.mk before' t).startsWord := by
    simp [Spot.startsWord, hbefore]
  have htight : Tight phrase.pieces = true := by
    rw [tight, Bool.and_eq_true] at hphrase
    exact hphrase.2
  rw [rest?, rest?, hstart]
  by_cases hcond : (phrase.atWord && !(Spot.mk before' t).startsWord) = true
  · rw [if_pos hcond, if_pos hcond]
    exact .none
  · rw [if_neg hcond, if_neg hcond]
    exact respaced_afterPieces? htight h

/-- What is read off the text behind a tight phrase. -/
lemma spotReader {phrase : Phrase} (hphrase : phrase.tight = true) {α : Type}
    {view : List Char → α} (hview : ∀ s t, Respaced s t → view s = view t) :
    SpotReader fun spot => (phrase.rest? spot).map view where
  blank before c cs hc := by rw [rest?_of_isBlank hphrase before cs hc, Option.map_none]
  respaced before before' s t hbefore h := by
    have hrest := respaced_rest? hphrase hbefore h
    revert hrest
    generalize phrase.rest? ⟨before, s⟩ = x
    generalize phrase.rest? ⟨before', t⟩ = y
    rintro (hxy | _)
    · rw [Option.map_some, Option.map_some, hview _ _ hxy]
    · rfl

lemma countIn_eq_length (phrase : Phrase) (text : List Char) :
    phrase.countIn text =
      ((spots text).filterMap fun spot => (phrase.rest? spot).map fun _ => ()).length := by
  rw [List.length_filterMap_eq_countP, countIn]
  congr 1
  funext spot
  simp [standsAt]

theorem countIn_relaid {phrase : Phrase} (hphrase : phrase.tight = true) {s t : List Char}
    (h : Relaid s t) : phrase.countIn s = phrase.countIn t := by
  rw [countIn_eq_length, countIn_eq_length,
    (spotReader hphrase fun _ _ _ => rfl).filterMap_spots h]

theorem occursIn_relaid {phrase : Phrase} (hphrase : phrase.tight = true) {s t : List Char}
    (h : Relaid s t) : phrase.occursIn s = phrase.occursIn t := by
  rw [Bool.eq_iff_iff, occursIn_iff_countIn_pos, occursIn_iff_countIn_pos,
    countIn_relaid hphrase h]

end Phrase

end CodeGrowth.Text
