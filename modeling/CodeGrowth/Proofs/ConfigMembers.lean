import CodeGrowth.Proofs.ConfigFiles
import CodeGrowth.Proofs.JsonTexts

/-!
# A configuration file is read by key

The members of an object that have the names of fields settle what is read. So the members of a
configuration file may be put into any order, members with other names may come and go, and there
may be any white space between the tokens: the outcome of loading is the same. Where the file is
refused, the reader of JSON may give another reason for it.
-/
namespace CodeGrowth

namespace Json
variable {names : List String} {members members' : List (Option String × Json)}

/-- A name that is given once has the value of its member. -/
lemma lookup_eq_some_iff {key : Option String} (h : members.countP (·.1 == key) ≤ 1)
    {value : Json} : members.lookup key = some value ↔ (key, value) ∈ members := by
  induction members with
  | nil => simp
  | cons m members ih =>
    obtain ⟨name, content⟩ := m
    by_cases hname : name = key
    · subst hname
      have hothers : members.countP (·.1 == name) = 0 := by
        rw [List.countP_cons_of_pos (by simp)] at h
        omega
      have hnone : (name, value) ∉ members := fun hmem =>
        List.countP_eq_zero.1 hothers _ hmem (by simp)
      simp [hnone, eq_comm]
    · rw [List.countP_cons_of_neg (by simpa using hname)] at h
      rw [List.lookup_cons, beq_false_of_ne (Ne.symm hname), List.mem_cons, ← ih h]
      simp [Ne.symm hname]

lemma of_byKey? {values : List (Option Json)} (h : byKey? names members = some values) :
    (∀ name ∈ names, members.countP (·.1 == some name) ≤ 1) ∧
      names.map (fun name => members.lookup (some name)) = values := by
  unfold byKey? at h
  split at h
  · next hkeys =>
    rw [Bool.and_eq_true, List.all_eq_true, List.all_eq_true] at hkeys
    exact ⟨fun name hname => by simpa using hkeys.2 name hname, Option.some.inj h⟩
  · contradiction

/-- The fields are the same if every name is given as often, and to the same value. -/
lemma byKey?_congr (hkeys : members.all (·.1.isSome) = members'.all (·.1.isSome))
    (hcount : ∀ name ∈ names,
      members.countP (·.1 == some name) = members'.countP (·.1 == some name))
    (hlookup : ∀ name ∈ names, members.countP (·.1 == some name) ≤ 1 →
      members.lookup (some name) = members'.lookup (some name)) :
    byKey? names members = byKey? names members' := by
  have honce : (names.all fun name => members.countP (·.1 == some name) ≤ 1) =
      names.all fun name => members'.countP (·.1 == some name) ≤ 1 := by
    rw [Bool.eq_iff_iff, List.all_eq_true, List.all_eq_true]
    exact forall₂_congr fun name hname => by rw [hcount name hname]
  rw [byKey?, byKey?, hkeys, honce]
  split
  · next h =>
    rw [Bool.and_eq_true, ← honce, List.all_eq_true] at h
    refine congrArg some (List.map_congr_left fun name hname => hlookup name hname ?_)
    simpa using List.all_eq_true.1 h.2 name hname
  · rfl

theorem byKey?_perm (h : members.Perm members') :
    byKey? names members = byKey? names members' := by
  have hcount : ∀ key : Option String,
      members.countP (·.1 == key) = members'.countP (·.1 == key) := fun _ => h.countP_eq _
  refine byKey?_congr h.all_eq (fun name _ => hcount (some name)) fun name _ honce => ?_
  have honce' := honce
  rw [hcount] at honce'
  refine Option.ext fun value => ?_
  rw [lookup_eq_some_iff honce, lookup_eq_some_iff honce', h.mem_iff]

/-- A member with another name is not read. -/
theorem byKey?_cons_other {name : String} (h : name ∉ names) (value : Json) :
    byKey? names ((some name, value) :: members) = byKey? names members := by
  have hother : ∀ field ∈ names, some name ≠ some field := by
    rintro field hfield heq
    exact h (Option.some.inj heq ▸ hfield)
  refine byKey?_congr (by simp) (fun field hfield => ?_) fun field hfield _ => ?_
  · rw [List.countP_cons_of_neg (by simpa using hother field hfield)]
  · rw [List.lookup_cons, beq_false_of_ne (hother field hfield).symm]

/-- The second text is the first with its members in another order, without some members that have
other names, with more such members, or with other white space between its tokens. -/
inductive Reworked (names : List String) : List Char → List Char → Prop
  | respaced {text text' : List Char} {entries : List (Option String × Json)}
      (hread : read? text = some (.object entries)) (h : Respaced text text') :
      Reworked names text text'
  | permuted {members members' : List MemberText} (h : members.Perm members') :
      Reworked names (objectText members) (objectText members')
  | added (member : MemberText) (members : List MemberText) {name : String}
      (hname : member.name = some name) (h : name ∉ names) :
      Reworked names (objectText members) (objectText (member :: members))
  | symm {text text' : List Char} (h : Reworked names text text') : Reworked names text' text
  | trans {first second third : List Char} (h : Reworked names first second)
      (h' : Reworked names second third) : Reworked names first third

theorem byKey?_of_reworked {text text' : List Char} (h : Reworked names text text') :
    ∃ entries entries', read? text = some (.object entries) ∧
      read? text' = some (.object entries') ∧ byKey? names entries = byKey? names entries' := by
  induction h with
  | respaced hread h => exact ⟨_, _, hread, read?_respaced h hread, rfl⟩
  | permuted h =>
    exact ⟨_, _, read?_objectText _, read?_objectText _, byKey?_perm (h.map _)⟩
  | added member members hname h =>
    refine ⟨_, _, read?_objectText _, read?_objectText _, ?_⟩
    rw [List.map_cons, MemberText.entry, hname, byKey?_cons_other h]
  | symm _ ih =>
    obtain ⟨entries, entries', hread, hread', hsame⟩ := ih
    exact ⟨entries', entries, hread', hread, hsame.symm⟩
  | trans _ _ ih ih' =>
    obtain ⟨entries, entries', hread, hread', hsame⟩ := ih
    obtain ⟨middle, entries'', hmiddle, hread'', hsame'⟩ := ih'
    rw [hread'] at hmiddle
    cases hmiddle
    exact ⟨entries, entries'', hread, hread'', hsame.trans hsame'⟩

end Json

namespace Config
variable {files files' : Files} {path : String} {entries : List (Option String × Json)}
  {reason : String → String}

theorem parse?_of_reworked {text text' : String}
    (h : Json.Reworked keys text.toList text'.toList) : parse? text' = parse? text := by
  obtain ⟨entries, entries', hread, hread', hsame⟩ := Json.byKey?_of_reworked h
  rw [parse?, parse?, hread, hread', Option.bind_some, Option.bind_some, ofJson?, ofJson?,
    fieldValues?, fieldValues?, hsame]

/-- The field is what the member of its name holds, or the default if there is no such member. -/
def Gives (entries : List (Option String × Json)) (key : String) {α : Type}
    (value? : Json → Option α) (default field : α) : Prop :=
  (∀ value, (some key, value) ∈ entries → value? value = some field) ∧
    ((∀ value, (some key, value) ∉ entries) → field = default)

/-- The configuration that an object with these members stands for. -/
structure GivesFields (entries : List (Option String × Json)) (config : Config) : Prop where
  dialect : Gives entries "dialect" Language.Dialect.ofJson? .c config.dialect
  format : Gives entries "format" (Json.orNull? formatOf?) none config.format
  gaugeWidth : Gives entries "indicator_width" Json.count? 30 config.gaugeWidth
  colours : Gives entries "color" Json.bool? true config.colours

lemma gives_of_fieldOr? {key : String} {α : Type} {value? : Json → Option α} {default field : α}
    (honce : entries.countP (·.1 == some key) ≤ 1)
    (h : fieldOr? value? default (entries.lookup (some key)) = some field) :
    Gives entries key value? default field := by
  constructor
  · intro value hmem
    rw [(Json.lookup_eq_some_iff honce).2 hmem] at h
    exact h
  · intro hnone
    have habsent : entries.lookup (some key) = none :=
      Option.eq_none_iff_forall_ne_some.2 fun value hvalue =>
        hnone value ((Json.lookup_eq_some_iff honce).1 hvalue)
    rw [habsent] at h
    exact (Option.some.inj h).symm

lemma givesFields_of_ofJson? {config : Config} (h : ofJson? (.object entries) = some config) :
    GivesFields entries config := by
  unfold ofJson? at h
  split at h
  · next dialect format gaugeWidth colours hfields =>
    obtain ⟨honce, hvalues⟩ := Json.of_byKey? hfields
    simp only [keys, List.map_cons, List.map_nil, List.cons.injEq, and_true] at hvalues
    obtain ⟨rfl, rfl, rfl, rfl⟩ := hvalues
    simp only [bind, pure, Option.bind_eq_some_iff, Option.some.injEq] at h
    obtain ⟨dialect, hdialect, format, hformat, gaugeWidth, hwidth, colours, hcolours, rfl⟩ := h
    exact ⟨gives_of_fieldOr? (honce _ (by decide)) hdialect,
      gives_of_fieldOr? (honce _ (by decide)) hformat,
      gives_of_fieldOr? (honce _ (by decide)) hwidth,
      gives_of_fieldOr? (honce _ (by decide)) hcolours⟩
  · contradiction

lemma parse?_of_load {text : String} {config : Config} {event : Log.Event}
    (hread : files.read (Path.ofText path) = .ok text)
    (h : load reason files path = .ok (config, event)) : parse? text = some config := by
  rw [load_of_read hread] at h
  cases hparse : parse? text with
  | none =>
    rw [ofText_of_none hparse] at h
    contradiction
  | some parsed =>
    rw [ofText_of_some hparse] at h
    split at h
    · cases h
      rfl
    · contradiction

/-- A root directory with a configuration file of this text. -/
def oneConfig (text : String) : Files :=
  (⟨.root, []⟩ : Files).put (Location.root.child "config.json") (.file text.toUTF8)

lemma read_oneConfig (text : String) :
    (oneConfig text).read (Path.ofText "config.json") = .ok text := by
  have hmissing : (⟨.root, []⟩ : Files).node? (Location.root.child "config.json") = none := rfl
  have hleads : (⟨.root, []⟩ : Files).LeadsToFile (Path.ofText "config.json")
      (Location.root.child "config.json") := ⟨rfl, by decide, rfl, by simp [hmissing]⟩
  exact (hleads.read_put text).2

/-- A member as it is printed. -/
def printedMember (name : String) (content : Json) (h : Json.Written content) :
    Json.MemberText where
  key := (Json.ofText name).print
  value := content.print
  name := some name
  content := content
  key_reads := Json.read?_print (.text name)
  value_reads := Json.read?_print h

def dialectMember : Json.MemberText := printedMember "dialect" (.ofText "java") (.text "java")

def formatMember : Json.MemberText := printedMember "format" (.ofText "plain") (.text "plain")

/-- A member that no field has the name of. The names within its value do not matter. -/
def noteMember : Json.MemberText :=
  printedMember "note" (.record [("color", .null)]) (.record (List.forall_mem_singleton.2 .null))

def plainJava : String := "\x7b\"dialect\":\"java\",\"format\":\"plain\"\x7d"

def plainJavaReworked : String :=
  "\n\x7b\"note\":\x7b\n  \"color\": null\n\x7d,\"format\":\"plain\",\"dialect\":\"java\"\x7d"

lemma toList_plainJava : plainJava.toList = Json.objectText [dialectMember, formatMember] := rfl

lemma toList_plainJavaReworked : plainJavaReworked.toList =
    '\n' :: Json.objectText [noteMember, formatMember, dialectMember] := rfl

lemma reworked_plainJava : Json.Reworked keys plainJava.toList plainJavaReworked.toList := by
  rw [toList_plainJava, toList_plainJavaReworked]
  have hread := Json.read?_objectText [noteMember, formatMember, dialectMember]
  obtain ⟨lexemes, hspaced, htokens⟩ := Json.exists_spaced (Json.read?_eq_some_iff.1 hread)
  refine .trans (.permuted (.swap formatMember dialectMember [])) ?_
  refine .trans (.added noteMember [formatMember, dialectMember] rfl (by decide)) ?_
  refine .respaced hread ⟨lexemes, hspaced, .space rfl hspaced, ?_⟩
  rw [htokens, Json.read?_eq_some_iff.1 hread]

/-- The failure with another reason, if it has one. -/
def withReason (reason : String) : Failure → Failure
  | .configText path _ => .configText path reason
  | failure => failure

lemma ofText_of_parse?_eq {text text' : String} (h : parse? text' = parse? text) :
    ofText reason path text' = (ofText reason path text).mapError (withReason (reason text')) := by
  rw [ofText, ofText, h]
  cases parse? text with
  | none => rfl
  | some config =>
    dsimp only
    split <;> rfl

/-- Only the members with the names of fields matter for what is loaded, and where they stand does
not. The text of any object can be reworked, for it consists of the texts of its members. -/
theorem load_reworked {text : String} (hread : files.read (Path.ofText path) = .ok text)
    (hobject : Json.read? text.toList = some (.object entries)) :
    (∃ members : List Json.MemberText, members.map Json.MemberText.entry = entries ∧
      Json.Respaced text.toList (Json.objectText members)) ∧
    (∀ files' text', files'.read (Path.ofText path) = .ok text' →
      Json.Reworked keys text.toList text'.toList →
        load reason files' path =
          (load reason files path).mapError (withReason (reason text'))) ∧
    ∀ config event, load reason files path = .ok (config, event) → GivesFields entries config := by
  refine ⟨Json.exists_objectText hobject, fun files' text' hread' h => ?_, fun config event h => ?_⟩
  · rw [load_of_read hread', load_of_read hread, ofText_of_parse?_eq (parse?_of_reworked h)]
    cases ofText reason path text <;> rfl
  · have hparse := parse?_of_load hread h
    rw [parse?, hobject, Option.bind_some] at hparse
    exact givesFields_of_ofJson? hparse

/-- The members change places, one comes to them, and the file starts with an empty line. -/
theorem load_reworked_plainJava :
    (oneConfig plainJava).read (Path.ofText "config.json") = .ok plainJava ∧
    Json.read? plainJava.toList =
      some (.object [(some "dialect", .ofText "java"), (some "format", .ofText "plain")]) ∧
    (oneConfig plainJavaReworked).read (Path.ofText "config.json") = .ok plainJavaReworked ∧
    Json.Reworked keys plainJava.toList plainJavaReworked.toList ∧
    ∀ reason, load reason (oneConfig plainJavaReworked) "config.json" =
        load reason (oneConfig plainJava) "config.json" ∧
      load reason (oneConfig plainJava) "config.json" =
        .ok (⟨.java, some .plain, 30, true⟩, .configLoaded "config.json") := by
  have hread := read_oneConfig plainJava
  have hread' := read_oneConfig plainJavaReworked
  have hobject := Json.read?_objectText [dialectMember, formatMember]
  rw [← toList_plainJava] at hobject
  refine ⟨hread, hobject, hread', reworked_plainJava, fun reason => ?_⟩
  have hparse : parse? plainJava = some ⟨.java, some .plain, 30, true⟩ := by
    rw [parse?, hobject, Option.bind_some]
    rfl
  have hload : load reason (oneConfig plainJava) "config.json" =
      .ok (⟨.java, some .plain, 30, true⟩, .configLoaded "config.json") := by
    rw [load_of_read hread, ofText_of_some hparse]
    rfl
  have hsame : load reason (oneConfig plainJavaReworked) "config.json" =
      (load reason (oneConfig plainJava) "config.json").mapError _ :=
    (load_reworked hread hobject).2.1 _ _ hread' reworked_plainJava
  rw [hload] at hsame
  exact ⟨hsame.trans hload.symm, hload⟩

end Config

end CodeGrowth
