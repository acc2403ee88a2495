import CodeGrowth.Proofs.JsonLexemes

/-!
# Texts of values and of objects

The reader accepts the tokens of a value and no others: at each point, the tokens read so far are
those of the containers it stands in. So a text is read as a value exactly if its tokens are those
of the value, whatever white space stands between them.

The text of an object consists of the texts of its members. Each of them is a key and a value that
could be read by themselves, and every text that is read as an object is made up so.
-/
namespace CodeGrowth.Json

namespace Reader
variable {value : Json} {containers outer : List Open} {tokens more : List Token} {token : Token}
  {reader reader' : Reader}

/-- The tokens of an open container up to the place of its next item, member or value. -/
def openTokens : Open → List Token
  | .array items => .openArray :: (itemTokens items.reverse).flatMap (· ++ [.comma])
  | .object members => .openObject :: (memberTokens members.reverse).flatMap (· ++ [.comma])
  | .pending members key =>
    .openObject :: (memberTokens members.reverse).flatMap (· ++ [.comma]) ++ [.string key, .colon]

/-- The tokens of the open containers, which are given innermost first. -/
def tokensBefore (containers : List Open) : List Token := containers.reverse.flatMap openTokens

/-- The tokens that the reader has read. After an item or a member, a comma would lead on to the
next one, and after a key a colon to its value. -/
inductive HasRead : List Token → Reader → Prop
  | value (containers : List Open) : HasRead (tokensBefore containers) ⟨containers, .value⟩
  | firstItem (outer : List Open) :
      HasRead (tokensBefore (.array [] :: outer)) ⟨.array [] :: outer, .firstItem⟩
  | key (containers : List Open) : HasRead (tokensBefore containers) ⟨containers, .key⟩
  | firstKey (outer : List Open) :
      HasRead (tokensBefore (.object [] :: outer)) ⟨.object [] :: outer, .firstKey⟩
  | colon {tokens : List Token} {containers : List Open}
      (h : tokens ++ [.colon] = tokensBefore containers) : HasRead tokens ⟨containers, .colon⟩
  | separator {tokens : List Token} {containers : List Open}
      (h : tokens ++ [.comma] = tokensBefore containers) : HasRead tokens ⟨containers, .separator⟩
  | done (value : Json) : HasRead (tokensOf value) ⟨[], .done value⟩

lemma tokensBefore_cons (container : Open) (outer : List Open) :
    tokensBefore (container :: outer) = tokensBefore outer ++ openTokens container := by
  simp [tokensBefore]

lemma openTokens_array_cons (item : Json) (items : List Json) :
    openTokens (.array (item :: items)) =
      openTokens (.array items) ++ (tokensOf item ++ [.comma]) := by
  simp [openTokens, itemTokens_eq]

lemma openTokens_object_cons (key : Option String) (value : Json)
    (members : List (Option String × Json)) :
    openTokens (.object ((key, value) :: members)) =
      openTokens (.pending members key) ++ (tokensOf value ++ [.comma]) := by
  simp [openTokens, memberTokens_eq]

/-- Parts with a comma behind each are parts with commas between them, and one at the end. -/
lemma flatMap_comma {parts : List (List Token)} (h : parts ≠ []) :
    parts.flatMap (· ++ [.comma]) = [Token.comma].intercalate parts ++ [.comma] := by
  induction parts with
  | nil => contradiction
  | cons part parts ih =>
    cases parts with
    | nil => simp
    | cons next parts =>
      rw [List.flatMap_cons, ih (List.cons_ne_nil _ _), List.intercalate_cons_cons]
      simp

lemma hasRead_deliver (h : deliver value containers = some reader) :
    HasRead (tokensBefore containers ++ tokensOf value) reader := by
  unfold deliver at h
  split at h
  · cases h
    exact .done value
  · cases h
    refine .separator ?_
    rw [tokensBefore_cons, tokensBefore_cons, openTokens_array_cons]
    simp
  · cases h
    refine .separator ?_
    rw [tokensBefore_cons, tokensBefore_cons, openTokens_object_cons]
    simp
  · contradiction

/-- Before its close an array or object holds parts with commas between them. -/
lemma hasRead_closed {parts : List (List Token)} {opening closing : Token}
    (hvalue : tokensOf value = opening :: ([Token.comma].intercalate parts ++ [closing]))
    (hopening : opening ≠ .comma)
    (htokens : tokens ++ [.comma] =
      tokensBefore outer ++ opening :: parts.flatMap (· ++ [.comma]))
    (h : deliver value outer = some reader) : HasRead (tokens ++ [closing]) reader := by
  have hparts : parts ≠ [] := by
    -- the last token read would be the opening one
    rintro rfl
    have hlast := congrArg List.getLast? htokens
    simp only [List.flatMap_nil, List.getLast?_append, List.getLast?_singleton, Option.some_or,
      Option.some.injEq] at hlast
    exact hopening hlast.symm
  have hread : tokens = tokensBefore outer ++ opening :: [Token.comma].intercalate parts := by
    rw [flatMap_comma hparts, ← List.cons_append, ← List.append_assoc] at htokens
    exact List.append_cancel_right htokens
  have hdelivered := hasRead_deliver h
  rw [hvalue] at hdelivered
  rw [hread]
  simpa using hdelivered

lemma hasRead_close (htokens : tokens ++ [.comma] = tokensBefore containers)
    (h : close token containers = some reader) : HasRead (tokens ++ [token]) reader := by
  unfold close at h
  split at h
  · next items outer =>
    split at h
    · next hclose =>
      rw [tokensBefore_cons, openTokens] at htokens
      rw [hclose]
      have hvalue : tokensOf (.array items.reverse) = _ := rfl
      exact hasRead_closed hvalue (by simp) htokens h
    · contradiction
  · next members outer =>
    split at h
    · next hclose =>
      rw [tokensBefore_cons, openTokens] at htokens
      rw [hclose]
      have hvalue : tokensOf (.object members.reverse) = _ := rfl
      exact hasRead_closed hvalue (by simp) htokens h
    · contradiction
  · contradiction

lemma hasRead_beginValue (h : beginValue containers token = some reader) :
    HasRead (tokensBefore containers ++ [token]) reader := by
  unfold beginValue at h
  split at h
  case h_5 =>
    cases h
    have hread := HasRead.firstItem containers
    rwa [tokensBefore_cons] at hread
  case h_6 =>
    cases h
    have hread := HasRead.firstKey containers
    rwa [tokensBefore_cons] at hread
  case h_7 => contradiction
  all_goals exact hasRead_deliver h

lemma hasRead_beginMember (h : beginMember containers token = some reader) :
    HasRead (tokensBefore containers ++ [token]) reader := by
  unfold beginMember at h
  split at h
  · cases h
    refine .colon ?_
    rw [tokensBefore_cons, tokensBefore_cons]
    simp [openTokens]
  · contradiction

lemma hasRead_afterComma (h : afterComma containers = some reader) :
    HasRead (tokensBefore containers) reader := by
  unfold afterComma at h
  split at h
  · cases h
    exact .value _
  · cases h
    exact .key _
  · contradiction

/-- One more token is read: a case for each place where the reader can stand. -/
lemma hasRead_step (h : HasRead tokens reader) (hstep : reader.step token = some reader') :
    HasRead (tokens ++ [token]) reader' := by
  cases h with
  | value containers => exact hasRead_beginValue hstep
  | firstItem outer =>
    by_cases hclose : token = .closeArray
    · subst hclose
      have hempty : deliver (.array []) outer = some reader' := by
        simpa [step, close] using hstep
      rw [tokensBefore_cons, List.append_assoc]
      exact hasRead_deliver hempty
    · exact hasRead_beginValue (by simpa [step, hclose] using hstep)
  | key containers => exact hasRead_beginMember hstep
  | firstKey outer =>
    by_cases hclose : token = .closeObject
    · subst hclose
      have hempty : deliver (.object []) outer = some reader' := by
        simpa [step, close] using hstep
      rw [tokensBefore_cons, List.append_assoc]
      exact hasRead_deliver hempty
    · exact hasRead_beginMember (by simpa [step, hclose] using hstep)
  | @colon _ containers htokens =>
    obtain ⟨rfl, rfl⟩ : token = .colon ∧ ⟨containers, .value⟩ = reader' := by
      simpa [step] using hstep
    rw [htokens]
    exact .value containers
  | @separator _ containers htokens =>
    by_cases hcomma : token = .comma
    · rw [hcomma, htokens]
      exact hasRead_afterComma (by simpa [step, hcomma] using hstep)
    · exact hasRead_close htokens (by simpa [step, hcomma] using hstep)
  | done => contradiction

lemma hasRead_run (h : HasRead tokens reader) (hrun : reader.run more = some reader') :
    HasRead (tokens ++ more) reader' := by
  induction more generalizing tokens reader with
  | nil =>
    cases hrun
    rwa [List.append_nil]
  | cons token more ih =>
    obtain ⟨next, hstep, hrun⟩ := Option.bind_eq_some_iff.1 hrun
    have hread := ih (hasRead_step h hstep) hrun
    rwa [List.append_assoc] at hread

lemma close_number (literal : List Char) (containers : List Open) :
    close (.number literal) containers = none := by
  unfold close
  split
  · rw [if_neg (by simp)]
  · rw [if_neg (by simp)]
  · rfl

/-- No number comes right after a value. -/
lemma step_number_of_deliver (h : deliver value containers = some reader)
    (literal : List Char) : reader.step (.number literal) = none := by
  unfold deliver at h
  split at h
  · cases h
    rfl
  · cases h
    simp [step, close_number]
  · cases h
    simp [step, close_number]
  · contradiction

lemma step_number {literal : List Char} (h : reader.step (.number literal) = some reader')
    (next : List Char) : reader'.step (.number next) = none := by
  obtain ⟨containers, expected⟩ := reader
  cases expected with
  | value => exact step_number_of_deliver h next
  | firstItem =>
    have hdeliver : deliver (.number literal) containers = some reader' := by
      rwa [step, if_neg (by simp), beginValue] at h
    exact step_number_of_deliver hdeliver next
  | key => simp [step, beginMember] at h
  | firstKey => simp [step, beginMember] at h
  | colon => simp [step] at h
  | separator => simp [step, close_number] at h
  | done => contradiction

lemma apart_of_run (h : reader.run tokens = some reader') : Apart tokens := by
  induction tokens generalizing reader with
  | nil => exact .nil
  | cons token tokens ih =>
    obtain ⟨next, hstep, hrun⟩ := Option.bind_eq_some_iff.1 h
    refine List.isChain_cons.2 ⟨fun follower hfollower hnumber => ?_, ih hrun⟩
    obtain ⟨tokens, rfl⟩ := List.head?_eq_some_iff.1 hfollower
    by_contra hfollows
    obtain ⟨literal, rfl⟩ := Token.isNumber_iff.1 hnumber
    obtain ⟨literal', rfl⟩ := Token.isNumber_iff.1 (by simpa using hfollows)
    obtain ⟨after, hafter, -⟩ := Option.bind_eq_some_iff.1 hrun
    rw [step_number hstep literal'] at hafter
    contradiction

end Reader

/-- The reader accepts the tokens of a value, and no others. -/
theorem ofTokens?_eq_some_iff {tokens : List Token} {value : Json} :
    ofTokens? tokens = some value ↔ tokens = tokensOf value := by
  refine ⟨fun h => ?_, fun h => h ▸ ofTokens?_tokensOf value⟩
  obtain ⟨reader, hrun, hvalue⟩ := Option.bind_eq_some_iff.1 h
  have hread : Reader.HasRead tokens reader := Reader.hasRead_run (.value []) hrun
  cases hread with
  | done =>
    cases hvalue
    rfl
  | _ => contradiction

theorem read?_eq_some_iff {text : List Char} {value : Json} :
    read? text = some value ↔ tokens? text = some (tokensOf value) := by
  simp only [read?, Option.bind_eq_some_iff, ofTokens?_eq_some_iff, exists_eq_right]

lemma apart_tokensOf (value : Json) : Apart (tokensOf value) := by
  obtain ⟨reader, hrun, -⟩ := Option.bind_eq_some_iff.1 (ofTokens?_tokensOf value)
  exact Reader.apart_of_run hrun

/-- The second text has the tokens of the first, spelt alike, with any white space around them. -/
def Respaced (text text' : List Char) : Prop :=
  ∃ lexemes, Spaced lexemes text ∧ Spaced lexemes text' ∧
    tokens? text = some (lexemes.map Lexeme.token)

lemma readsAs_of_read? {text : List Char} {value : Json} (h : read? text = some value) :
    ReadsAs text (tokensOf value) := by
  obtain ⟨lexemes, hspaced, htokens⟩ := exists_spaced (read?_eq_some_iff.1 h)
  rw [← htokens]
  exact readsAs_of_spaced hspaced (by rw [htokens]; exact apart_tokensOf value)

lemma read?_of_readsAs {text : List Char} {value : Json} (h : ReadsAs text (tokensOf value)) :
    read? text = some value := by
  have htokens := h [] endsNumber_nil
  rw [List.append_nil, tokens?_nil, Option.map_some, List.append_nil] at htokens
  exact read?_eq_some_iff.2 htokens

lemma read?_of_spaced {lexemes : List Lexeme} {text : List Char} {value : Json}
    (h : Spaced lexemes text) (htokens : lexemes.map Lexeme.token = tokensOf value) :
    read? text = some value := by
  refine read?_of_readsAs ?_
  rw [← htokens]
  exact readsAs_of_spaced h (by rw [htokens]; exact apart_tokensOf value)

/-- White space between the tokens of a value does not change it. -/
theorem read?_respaced {text text' : List Char} {value : Json} (h : Respaced text text')
    (hread : read? text = some value) : read? text' = some value := by
  obtain ⟨lexemes, -, hspaced, htokens⟩ := h
  refine read?_of_spaced hspaced ?_
  rw [read?_eq_some_iff.1 hread] at htokens
  exact (Option.some.inj htokens).symm

/-- The text of one member of an object: a key and a value, each with white space around it. -/
structure MemberText where
  key : List Char
  value : List Char
  name : Option String
  content : Json
  key_reads : read? key = some (.string name)
  value_reads : read? value = some content

namespace MemberText

def text (member : MemberText) : List Char := member.key ++ ':' :: member.value

def entry (member : MemberText) : Option String × Json := (member.name, member.content)

lemma readsAs (member : MemberText) :
    ReadsAs member.text (.string member.name :: .colon :: tokensOf member.content) :=
  readsAs_member (readsAs_of_read? member.key_reads) (readsAs_of_read? member.value_reads)

end MemberText

/-- The text of an object with these members. -/
def objectText (members : List MemberText) : List Char :=
  '\x7b' :: ([','].intercalate (members.map MemberText.text) ++ ['\x7d'])

theorem read?_objectText (members : List MemberText) :
    read? (objectText members) = some (.object (members.map MemberText.entry)) := by
  refine read?_of_readsAs fun rest _ => ?_
  have hmembers : List.Forall₂ ReadsAs (members.map MemberText.text)
      (memberTokens (members.map MemberText.entry)) := by
    rw [memberTokens_eq, List.map_map, List.forall₂_map_left_iff, List.forall₂_map_right_iff,
      List.forall₂_same]
    exact fun member _ => member.readsAs
  have hgap : ∀ cs, tokens? ([] ++ cs) = tokens? cs := fun _ => rfl
  have hinside := readsAs_intercalate hmembers hgap ('\x7d' :: rest) (endsNumber_cons rfl _)
  have hopen : ∀ cs, tokens? ('\x7b' :: cs) = (tokens? cs).map (.openObject :: ·) :=
    fun _ => tokens?_token rfl rfl
  have hclose : tokens? ('\x7d' :: rest) = (tokens? rest).map (.closeObject :: ·) :=
    tokens?_token rfl rfl
  rw [objectText, List.cons_append, List.append_assoc, List.singleton_append, hopen, hinside,
    hclose, tokensOf, Option.map_map, Option.map_map]
  simp [Function.comp_def]

/-- The character of a token that is always written alike with one. -/
def Token.mark? : Token → Option Char
  | .openObject => some '\x7b'
  | .closeObject => some '\x7d'
  | .openArray => some '['
  | .closeArray => some ']'
  | .colon => some ':'
  | .comma => some ','
  | _ => none

lemma Lexeme.text_of_mark? {lexeme : Lexeme} {c : Char} (h : lexeme.token.mark? = some c) :
    lexeme.text = [c] := by
  have hreads := lexeme.reads
  unfold token? at hreads
  split at hreads
  case h_7 | h_8 | h_9 =>
    rw [← (Prod.mk.inj (Option.some.inj hreads)).1] at h
    contradiction
  case h_10 | h_11 =>
    obtain ⟨_, -, heq⟩ := Option.map_eq_some_iff.1 hreads
    rw [← (Prod.mk.inj heq).1] at h
    contradiction
  all_goals
    next htext =>
      obtain ⟨htoken, rfl⟩ := Prod.mk.inj (Option.some.inj hreads)
      rw [← htoken] at h
      cases h
      exact htext

lemma spaced_flatMap (lexemes : List Lexeme) : Spaced lexemes (lexemes.flatMap Lexeme.text) := by
  induction lexemes with
  | nil => exact .nil
  | cons lexeme lexemes ih => exact .lexeme lexeme ih

lemma exists_memberText {lexemes : List Lexeme} {entry : Option String × Json}
    (h : lexemes.map Lexeme.token = .string entry.1 :: .colon :: tokensOf entry.2) :
    ∃ member : MemberText, member.entry = entry ∧
      member.text = lexemes.flatMap Lexeme.text := by
  obtain ⟨key, lexemes, rfl, hkey, h⟩ := List.map_eq_cons_iff.1 h
  obtain ⟨colon, lexemes, rfl, hcolon, h⟩ := List.map_eq_cons_iff.1 h
  have hname : read? key.text = some (.string entry.1) := by
    have hspaced := spaced_flatMap [key]
    rw [List.flatMap_singleton] at hspaced
    exact read?_of_spaced hspaced (by rw [List.map_singleton, hkey]; rfl)
  have hmark : colon.text = [':'] := Lexeme.text_of_mark? (by rw [hcolon]; rfl)
  refine ⟨⟨key.text, lexemes.flatMap Lexeme.text, entry.1, entry.2, hname,
    read?_of_spaced (spaced_flatMap lexemes) h⟩, rfl, ?_⟩
  rw [MemberText.text, List.flatMap_cons, List.flatMap_cons, hmark, List.singleton_append]

lemma exists_memberTexts {lexemes : List Lexeme} {entries : List (Option String × Json)}
    (h : lexemes.map Lexeme.token = [Token.comma].intercalate (memberTokens entries)) :
    ∃ members : List MemberText, members.map MemberText.entry = entries ∧
      [','].intercalate (members.map MemberText.text) = lexemes.flatMap Lexeme.text := by
  induction entries generalizing lexemes with
  | nil =>
    obtain rfl : lexemes = [] := by simpa [memberTokens] using h
    exact ⟨[], rfl, rfl⟩
  | cons entry entries ih =>
    cases entries with
    | nil =>
      rw [memberTokens, memberTokens, List.intercalate_singleton] at h
      obtain ⟨member, hentry, htext⟩ := exists_memberText h
      exact ⟨[member], by rw [List.map_singleton, hentry], by simp [htext]⟩
    | cons next entries =>
      rw [memberTokens, memberTokens, List.intercalate_cons_cons, ← memberTokens,
        List.append_assoc] at h
      obtain ⟨first, others, rfl, hfirst, h⟩ := List.map_eq_append_iff.1 h
      obtain ⟨comma, others, rfl, hcomma, h⟩ := List.map_eq_cons_iff.1 h
      have hmark : comma.text = [','] := Lexeme.text_of_mark? (by rw [hcomma]; rfl)
      obtain ⟨member, hentry, htext⟩ := exists_memberText hfirst
      obtain ⟨members, hentries, htexts⟩ := ih h
      obtain ⟨second, members, rfl⟩ : ∃ second others, members = second :: others :=
        List.exists_cons_of_ne_nil (by rintro rfl; contradiction)
      refine ⟨member :: second :: members, by rw [List.map_cons, hentry, hentries], ?_⟩
      rw [List.map_cons, List.map_cons, List.intercalate_cons_cons, ← List.map_cons, htexts, htext,
        List.flatMap_append, List.flatMap_cons, hmark, List.append_assoc]

/-- Every text of an object consists of its members' texts, up to white space. -/
theorem exists_objectText {text : List Char} {entries : List (Option String × Json)}
    (h : read? text = some (.object entries)) :
    ∃ members : List MemberText, members.map MemberText.entry = entries ∧
      Respaced text (objectText members) := by
  have htokens := read?_eq_some_iff.1 h
  obtain ⟨lexemes, hspaced, hlexemes⟩ := exists_spaced htokens
  rw [← hlexemes] at htokens
  rw [tokensOf] at hlexemes
  obtain ⟨left, inside, rfl, hleft, hlexemes⟩ := List.map_eq_cons_iff.1 hlexemes
  obtain ⟨inside, last, rfl, hinside, hlast⟩ := List.map_eq_append_iff.1 hlexemes
  obtain ⟨right, rfl, hright⟩ := List.map_eq_singleton_iff.1 hlast
  have hopen : left.text = ['\x7b'] := Lexeme.text_of_mark? (by rw [hleft]; rfl)
  have hclose : right.text = ['\x7d'] := Lexeme.text_of_mark? (by rw [hright]; rfl)
  obtain ⟨members, hentries, htexts⟩ := exists_memberTexts hinside
  have hobject : objectText members = (left :: (inside ++ [right])).flatMap Lexeme.text := by
    rw [objectText, htexts, List.flatMap_cons, List.flatMap_append, List.flatMap_singleton, hopen,
      hclose, List.singleton_append]
  refine ⟨members, hentries, _, hspaced, ?_, htokens⟩
  rw [hobject]
  exact spaced_flatMap _

end CodeGrowth.Json
