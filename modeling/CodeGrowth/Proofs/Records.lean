import CodeGrowth.Proofs.PrintedJson
import CodeGrowth.Record.Explanation

/-!
# Records are read as they were written

A record with distinct keys is read by key, so other members may stand beside those that are asked
for. Each typed value is read back from its record if its numbers have the width that the format
gives them: 64 bits for counts, 32 for scores and percentages, eight for a growth level.
-/
namespace CodeGrowth

namespace Json
variable {α : Type} {names : List String} {members : List (String × Json)}

lemma lookup_keyed (name : String) (members : List (String × Json)) :
    (members.map fun m => (some m.1, m.2)).lookup (some name) = members.lookup name := by
  induction members with
  | nil => rfl
  | cons m members ih =>
    obtain ⟨key, value⟩ := m
    simp [List.lookup_cons, ih]

lemma countP_keyed (name : String) (members : List (String × Json)) :
    (members.map fun m => (some m.1, m.2)).countP (·.1 == some name) =
      (members.map Prod.fst).count name := by
  induction members with
  | nil => rfl
  | cons m members ih => simp [List.countP_cons, List.count_cons, ih]

/-- In a record with distinct keys every name finds its member. -/
theorem byKey?_keyed (h : (members.map Prod.fst).Nodup) :
    byKey? names (members.map fun m => (some m.1, m.2)) =
      some (names.map fun name => members.lookup name) := by
  have hkeys : ((members.map fun m => (some m.1, m.2)).all (·.1.isSome) && names.all fun name =>
      (members.map fun m => (some m.1, m.2)).countP (·.1 == some name) ≤ 1) = true := by
    have hcount := List.nodup_iff_count.1 h
    simp only [countP_keyed, hcount]
    simp
  rw [byKey?, if_pos hkeys]
  simp only [lookup_keyed]

theorem fields?_record (h : (members.map Prod.fst).Nodup) :
    fields? names (record members) = some (names.map fun name => members.lookup name) :=
  byKey?_keyed h

lemma natBelow?_ofNat {n bound : Nat} (h : n < bound) : natBelow? bound (ofNat n) = some n := by
  have hdigits : (Nat.toDigits 10 n).all Char.isDigit = true :=
    List.all_eq_true.2 fun _ => isDigit_of_mem_toDigits
  simp [natBelow?, ofNat, Nat.ofDigitChars_ten_toDigits, hdigits, h]

lemma count?_ofNat {n : Nat} (h : n < UInt64.size) : count? (ofNat n) = some n := natBelow?_ofNat h

lemma text?_ofText (text : String) : text? (ofText text) = some text := rfl

lemma list?_ofTexts (texts : List String) : list? text? (ofTexts texts) = some texts := by
  rw [ofTexts, list?]
  induction texts with
  | nil => rfl
  | cons text texts ih => rw [List.map_cons, List.mapM_cons, ih]; rfl

/-- How a value is written and read where it may be none. -/
structure Reads (toJson : α → Json) (value? : Json → Option α) (a : α) : Prop where
  ne_null : toJson a ≠ null
  value?_toJson : value? (toJson a) = some a

variable {toJson : α → Json} {value? : Json → Option α}

lemma Reads.orNull? {a : α} (h : Reads toJson value? a) :
    orNull? value? (toJson a) = some (some a) := by
  rw [Json.orNull?, h.value?_toJson, Option.map_some]
  exact h.ne_null

/-- An optional field that is left out when it is none. -/
lemma optional?_map {x : Option α} (h : ∀ a ∈ x, Reads toJson value? a) :
    optional? value? (x.map toJson) = some x := by
  cases x with
  | none => rfl
  | some a => exact (h a rfl).orNull?

/-- An optional field that is written as null when it is none. -/
lemma optional?_orNull {x : Option α} (h : ∀ a ∈ x, Reads toJson value? a) :
    optional? value? (some (Json.orNull (x.map toJson))) = some x := by
  cases x with
  | none => rfl
  | some a => exact (h a rfl).orNull?

lemma lookup_member? (key name : String) (value : Option Json) :
    (member? key value).lookup name = if name = key then value else none := by
  cases value with
  | none => simp [member?]
  | some value =>
    by_cases h : name = key
    · simp [member?, h]
    · have hkey : (name == key) = false := beq_false_of_ne h
      simp [member?, List.lookup_cons, h, hkey]

/-- What is absent by its key is not found. -/
lemma lookup_eq_none {keys : List String} {name : String}
    (h : (members.map Prod.fst).Sublist keys) (hname : name ∉ keys) :
    members.lookup name = none := by
  rw [List.lookup_eq_none_iff]
  intro m hm
  have hne : name ≠ m.1 := by
    rintro rfl
    exact hname (h.subset (List.mem_map_of_mem hm))
  simpa using hne

lemma keys_member?_sublist (key : String) (value : Option Json) :
    ((member? key value).map Prod.fst).Sublist [key] := by
  cases value <;> simp [member?]

lemma written_ofTexts (texts : List String) : Written (ofTexts texts) := by
  refine .array fun item hitem => ?_
  obtain ⟨text, -, rfl⟩ := List.mem_map.1 hitem
  exact .text text

lemma written_member? (key : String) {x : Option α} (h : ∀ a, Written (toJson a)) :
    ∀ m ∈ member? key (x.map toJson), Written m.2 := by
  cases x with
  | none => simp [member?]
  | some a => simpa [member?] using h a

lemma written_orNull (x : Option α) (h : ∀ a, Written (toJson a)) :
    Written (Json.orNull (x.map toJson)) := by
  cases x with
  | none => exact .null
  | some a => exact h a

end Json

/-- The counts have 64 bits. -/
structure Loop.Counts.Fits (counts : Counts) : Prop where
  forCount : counts.forCount < UInt64.size
  whileCount : counts.whileCount < UInt64.size
  doWhileCount : counts.doWhileCount < UInt64.size

lemma Loop.Counts.written (counts : Counts) : Json.Written counts.toJson :=
  .record (by simp [Json.Written.nat])

theorem Loop.Counts.ofJson?_toJson {counts : Counts} (h : counts.Fits) :
    ofJson? counts.toJson = some counts := by
  rw [ofJson?, toJson, Json.fields?_record (by simp)]
  simp [List.lookup_cons, Json.count?_ofNat h.forCount, Json.count?_ofNat h.whileCount,
    Json.count?_ofNat h.doWhileCount]

lemma Recursion.Info.written (info : Info) : Json.Written info.toJson :=
  .record (by simp [Json.Written.bool, Json.written_ofTexts])

theorem Recursion.Info.ofJson?_toJson (info : Info) : ofJson? info.toJson = some info := by
  rw [ofJson?, toJson, Json.fields?_record (by simp)]
  simp [List.lookup_cons, Json.bool?, Json.list?_ofTexts]

namespace Language

/-- The scores have 32 bits. -/
structure Guess.Fits (guess : Guess) : Prop where
  scoreC : guess.scoreC < UInt32.size
  scoreJava : guess.scoreJava < UInt32.size

lemma score?_ofNat {n : Nat} (h : n < UInt32.size) : score? (Json.ofNat n) = some n :=
  Json.natBelow?_ofNat h

lemma Label.looseChoice?_toJson (label : Label) :
    label.toJson.looseChoice? Label.all Label.name = some label := by
  cases label <;> decide

lemma Guess.written (guess : Guess) : Json.Written guess.toJson :=
  .record (by simp [Label.toJson, Json.Written.text, Json.Written.nat])

theorem Guess.ofJson?_toJson {guess : Guess} (h : guess.Fits) :
    ofJson? guess.toJson = some guess := by
  rw [ofJson?, toJson, Json.fields?_record (by simp)]
  simp [List.lookup_cons, Label.looseChoice?_toJson, score?_ofNat h.scoreC,
    score?_ofNat h.scoreJava]

end Language

lemma Loop.Endless.reads (kind : Endless) : Json.Reads toJson ofJson? kind where
  ne_null := by simp [toJson, Json.ofText]
  value?_toJson := by cases kind <;> decide

lemma Loop.Endless.written (kind : Endless) : Json.Written kind.toJson := .text kind.recordName

lemma Growth.Estimate.written (growth : Estimate) : Json.Written growth.toJson :=
  .record (by simp [Json.Written.text, Json.Written.nat])

/-- The count has 64 bits and the level has eight. -/
structure Growth.Estimate.Fits (growth : Estimate) : Prop where
  totalLoops : growth.totalLoops < UInt64.size
  level : growth.level < UInt8.size

lemma Growth.level?_ofNat {n : Nat} (h : n < UInt8.size) :
    Estimate.level? (Json.ofNat n) = some n := Json.natBelow?_ofNat h

theorem Growth.Estimate.Fits.reads {growth : Estimate} (h : growth.Fits) :
    Json.Reads toJson ofJson? growth where
  ne_null := by simp [toJson, Json.record]
  value?_toJson := by
    rw [ofJson?, toJson, Json.fields?_record (by simp)]
    simp [List.lookup_cons, Json.text?_ofText, Json.count?_ofNat h.totalLoops,
      level?_ofNat h.level]

namespace Findings

/-- The numbers have the widths that the format gives them. -/
structure Fits (findings : Findings) : Prop where
  language : findings.language.Fits
  loops : findings.loops.Fits
  nestDepth : findings.nestDepth < UInt64.size
  growth : ∀ growth ∈ findings.growth, growth.Fits

lemma written_members (findings : Findings) : ∀ m ∈ findings.members, Json.Written m.2 := by
  have hendless := Json.written_member? "infinite_loop" (x := findings.endless) Loop.Endless.written
  have hgrowth := Json.written_member? "complexity" (x := findings.growth) Growth.Estimate.written
  rw [members]
  simp only [List.forall_mem_append]
  refine ⟨⟨?_, hendless⟩, hgrowth⟩
  simp [findings.language.written, findings.loops.written, findings.recursion.written,
    Json.Written.nat, Json.Written.bool]

/-- The keys under which findings stand in a record. -/
def keys : List String :=
  ["language", "loops", "nest_depth", "recursion", "infinite_loop_detected", "infinite_loop",
    "complexity"]

lemma keys_members_sublist (findings : Findings) :
    (findings.members.map Prod.fst).Sublist keys := by
  have hendless := Json.keys_member?_sublist "infinite_loop"
    (findings.endless.map Loop.Endless.toJson)
  have hgrowth := Json.keys_member?_sublist "complexity"
    (findings.growth.map Growth.Estimate.toJson)
  rw [members, List.map_append, List.map_append]
  exact ((List.Sublist.refl _).append hendless).append hgrowth

/-- Findings are read among other members, whose keys are others. -/
theorem ofJson?_members_append {findings : Findings} (h : findings.Fits)
    {others : List (String × Json)}
    (hkeys : ((findings.members ++ others).map Prod.fst).Nodup)
    (hothers : ∀ key ∈ keys, others.lookup key = none) :
    ofJson? (Json.record (findings.members ++ others)) = some findings := by
  have hendless : Json.optional? Loop.Endless.ofJson?
      (findings.endless.map Loop.Endless.toJson) = some findings.endless :=
    Json.optional?_map fun kind _ => kind.reads
  have hgrowth : Json.optional? Growth.Estimate.ofJson?
      (findings.growth.map Growth.Estimate.toJson) = some findings.growth :=
    Json.optional?_map fun growth hgrowth => (h.growth growth hgrowth).reads
  have hlookup : keys.map (fun key => (findings.members ++ others).lookup key) =
      [some findings.language.toJson, some findings.loops.toJson,
        some (Json.ofNat findings.nestDepth), some findings.recursion.toJson,
        some (.bool findings.endlessLoop), findings.endless.map Loop.Endless.toJson,
        findings.growth.map Growth.Estimate.toJson] := by
    simp [keys, members, List.lookup_append, List.lookup_cons, Json.lookup_member?,
      hothers "infinite_loop" (by decide), hothers "complexity" (by decide)]
  rw [ofJson?, Json.fields?_record hkeys, ← keys, hlookup]
  simp [Language.Guess.ofJson?_toJson h.language, Loop.Counts.ofJson?_toJson h.loops,
    Json.count?_ofNat h.nestDepth, Recursion.Info.ofJson?_toJson, Json.bool?, hendless, hgrowth]

end Findings

lemma Badge.choice?_name (badge : Badge) :
    (Json.ofText badge.name).choice? Badge.all Badge.name = some badge := by
  cases badge <;> decide

lemma Headline.written (headline : Headline) : Json.Written headline.toJson :=
  .record (by simp [Json.Written.text])

theorem Headline.ofJson?_toJson (headline : Headline) :
    ofJson? headline.toJson = some headline := by
  rw [ofJson?, toJson, Json.fields?_record (by simp)]
  simp [List.lookup_cons, Json.text?_ofText, Badge.choice?_name]

namespace Explanation

/-- The numbers have the widths that the format gives them. -/
structure Fits (explanation : Explanation) : Prop where
  scores : ∀ scores ∈ explanation.scores, scores.1 < UInt32.size ∧ scores.2 < UInt32.size
  loops : explanation.loops.Fits
  nestDepth : explanation.nestDepth < UInt64.size
  growthLevel : ∀ level ∈ explanation.growthLevel, level < UInt8.size
  percent : explanation.percent < UInt32.size

lemma written (explanation : Explanation) : Json.Written explanation.toJson := by
  have hscores : ∀ scores, Json.Written (scoresJson scores) :=
    fun scores => .array (by simp [Json.Written.nat])
  refine .record ?_
  simp [explanation.loops.written, explanation.growth.written, explanation.recursion.written,
    Json.written_orNull _ hscores, Json.written_orNull _ Json.Written.nat, Json.written_ofTexts,
    Json.Written.text, Json.Written.nat]

lemma reads_scores {scores : Nat × Nat} (h : scores.1 < UInt32.size ∧ scores.2 < UInt32.size) :
    Json.Reads scoresJson scoresOf? scores where
  ne_null := by simp [scoresJson]
  value?_toJson := by
    simp [scoresJson, scoresOf?, Language.score?_ofNat h.1, Language.score?_ofNat h.2]

lemma reads_level {level : Nat} (h : level < UInt8.size) :
    Json.Reads Json.ofNat Growth.Estimate.level? level where
  ne_null := by simp [Json.ofNat]
  value?_toJson := Growth.level?_ofNat h

theorem ofJson?_toJson {explanation : Explanation} (h : explanation.Fits) :
    ofJson? explanation.toJson = some explanation := by
  have hscores : Json.optional? scoresOf? (some (Json.orNull (explanation.scores.map scoresJson))) =
      some explanation.scores :=
    Json.optional?_orNull fun scores hscores => reads_scores (h.scores scores hscores)
  have hlevel : Json.optional? Growth.Estimate.level?
      (some (Json.orNull (explanation.growthLevel.map Json.ofNat))) =
        some explanation.growthLevel :=
    Json.optional?_orNull fun level hlevel => reads_level (h.growthLevel level hlevel)
  rw [ofJson?, toJson, Json.fields?_record (by simp)]
  simp [List.lookup_cons, Json.text?_ofText, Json.list?_ofTexts, Headline.ofJson?_toJson,
    Loop.Counts.ofJson?_toJson h.loops, Json.count?_ofNat h.nestDepth,
    Language.score?_ofNat h.percent, hscores, hlevel]

end Explanation

end CodeGrowth
