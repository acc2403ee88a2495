import CodeGrowth.Config.File
import CodeGrowth.Proofs.FileTree
import CodeGrowth.Proofs.Records

/-!
# Configuration files

A configuration is read from its file as it was printed. Loading fails for three reasons: the file
cannot be read, its text is no configuration, or the gauge is too narrow or too wide. Saving adds
the directories that the path needs and, if it succeeds, puts the printed text where the path leads
then. So what was saved is loaded again, or its gauge is refused.
-/
namespace CodeGrowth

lemma Language.Dialect.ofJson?_toJson (dialect : Dialect) :
    ofJson? dialect.toJson = some dialect := by
  cases dialect <;> decide

namespace Config
variable {config : Config} {files : Files} {path : String} {reason : String → String}

lemma reads_format (format : Display.Format) : Json.Reads formatName formatOf? format where
  ne_null := by simp [formatName, Json.ofText]
  value?_toJson := by cases format <;> decide

/-- The standard format is none, which is how a file without one is read. -/
lemma fieldOr?_format (format : Option Display.Format) :
    fieldOr? (Json.orNull? formatOf?) standard.format (format.map formatName) = some format := by
  cases format with
  | none => rfl
  | some format => exact (reads_format format).orNull?

/-- The members of a configuration's record. -/
def members (config : Config) : List (String × Json) :=
  [("dialect", config.dialect.toJson)] ++ Json.member? "format" (config.format.map formatName) ++
    [("indicator_width", Json.ofNat config.gaugeWidth), ("color", .bool config.colours)]

lemma toJson_eq (config : Config) : config.toJson = Json.record config.members := rfl

lemma written_toJson (config : Config) : Json.Written config.toJson := by
  have hformat := Json.written_member? "format" (x := config.format)
    fun format : Display.Format => Json.Written.text format.name
  rw [toJson_eq]
  refine .record ?_
  simp only [members, List.forall_mem_append]
  refine ⟨⟨?_, hformat⟩, ?_⟩
  · simp [Language.Dialect.toJson, Json.Written.text]
  · simp [Json.Written.nat, Json.Written.bool]

lemma nodup_keys_members (config : Config) : (config.members.map Prod.fst).Nodup := by
  have hkeys : keys.Nodup := by decide
  have hformat := Json.keys_member?_sublist "format" (config.format.map formatName)
  rw [members, List.map_append, List.map_append]
  exact hkeys.sublist (((List.Sublist.refl ["dialect"]).append hformat).append (.refl _))

theorem ofJson?_toJson (h : config.gaugeWidth < UInt64.size) :
    ofJson? config.toJson = some config := by
  have hvalues : fieldValues? config.toJson = some [some config.dialect.toJson,
      config.format.map formatName, some (Json.ofNat config.gaugeWidth),
      some (.bool config.colours)] := by
    rw [toJson_eq, Json.record, fieldValues?, Json.byKey?_keyed config.nodup_keys_members]
    simp [keys, members, List.lookup_append, List.lookup_cons, Json.lookup_member?]
  have hformat := fieldOr?_format config.format
  rw [ofJson?, hvalues]
  dsimp only
  rw [hformat]
  simp [fieldOr?, Language.Dialect.ofJson?_toJson, Json.count?_ofNat h, Json.bool?]

theorem parse?_print (h : config.gaugeWidth < UInt64.size) : parse? config.print = some config := by
  rw [parse?, print, String.toList_ofList, Json.read?_print config.written_toJson, Option.bind_some,
    ofJson?_toJson h]

lemma ofText_of_none {text : String} (h : parse? text = none) (path : String) :
    ofText reason path text = .error (.configText path (reason text)) := by rw [ofText, h]

/-- A configuration is refused only for its width. -/
lemma ofText_of_some {text : String} (h : parse? text = some config) (path : String) :
    ofText reason path text =
      if config.isValid then .ok config else .error (.gaugeWidth config.gaugeWidth) := by
  rw [ofText, h]

/-- Why no configuration can be loaded from a path. -/
inductive Unloadable (reason : String → String) (files : Files) (path : String) : Failure → Prop
  | unreadable {fault : FileFault} (hfound : files.has (Path.ofText path) = true)
      (h : files.read (Path.ofText path) = .error fault) :
      Unloadable reason files path (.configFile path fault)
  | malformed {text : String} (hread : files.read (Path.ofText path) = .ok text)
      (h : parse? text = none) : Unloadable reason files path (.configText path (reason text))
  | gaugeWidth {text : String} {config : Config} (hread : files.read (Path.ofText path) = .ok text)
      (hparse : parse? text = some config) (h : config.gaugeWidth < 4 ∨ 200 < config.gaugeWidth) :
      Unloadable reason files path (.gaugeWidth config.gaugeWidth)

lemma isValid_iff : config.isValid = true ↔ 4 ≤ config.gaugeWidth ∧ config.gaugeWidth ≤ 200 := by
  rw [isValid, Bool.and_eq_true, decide_eq_true_eq, decide_eq_true_eq, minGaugeWidth,
    maxGaugeWidth]

lemma isValid_eq_false_iff :
    config.isValid = false ↔ config.gaugeWidth < 4 ∨ 200 < config.gaugeWidth := by
  rw [← Bool.not_eq_true, isValid_iff, not_and_or, Nat.not_le, Nat.not_le]

lemma load_of_read {text : String} (h : files.read (Path.ofText path) = .ok text) :
    load reason files path =
      (ofText reason path text).map fun config => (config, .configLoaded path) := by
  rw [load, if_pos (Files.has_of_read h), h]

lemma load_of_not_has (h : files.has (Path.ofText path) = false) :
    load reason files path = .ok (standard, .configMissing path) := by
  rw [load, if_neg (by simp [h])]

/-- The reason is for failures alone. -/
lemma load_of_load {loaded : Config × Log.Event} (h : load reason files path = .ok loaded)
    (reason' : String → String) : load reason' files path = .ok loaded := by
  by_cases hfound : files.has (Path.ofText path) = true
  · cases hread : files.read (Path.ofText path) with
    | error fault =>
      rw [load, if_pos hfound, hread] at h
      contradiction
    | ok text =>
      rw [load_of_read hread] at h ⊢
      cases hparse : parse? text with
      | none =>
        rw [ofText_of_none hparse] at h
        contradiction
      | some config => rwa [ofText_of_some hparse] at h ⊢
  · rw [load_of_not_has (by simpa using hfound)] at h ⊢
    exact h

/-- Loading gives a configuration with a gauge within its bounds, or fails for a reason. -/
lemma load_cases (reason : String → String) (files : Files) (path : String) :
    (∃ config event, load reason files path = .ok (config, event) ∧
      4 ≤ config.gaugeWidth ∧ config.gaugeWidth ≤ 200) ∨
    ∃ failure, load reason files path = .error failure ∧ Unloadable reason files path failure := by
  by_cases hfound : files.has (Path.ofText path) = true
  · cases hread : files.read (Path.ofText path) with
    | error fault =>
      exact .inr ⟨_, by rw [load, if_pos hfound, hread], .unreadable hfound hread⟩
    | ok text =>
      rw [load_of_read hread]
      cases hparse : parse? text with
      | none =>
        rw [ofText_of_none hparse]
        exact .inr ⟨_, rfl, .malformed hread hparse⟩
      | some config =>
        rw [ofText_of_some hparse]
        split
        · next hvalid => exact .inl ⟨_, _, rfl, isValid_iff.1 hvalid⟩
        · next hvalid =>
          have hwidth := isValid_eq_false_iff.1 (by simpa using hvalid)
          exact .inr ⟨_, rfl, .gaugeWidth hread hparse hwidth⟩
  · rw [load_of_not_has (by simpa using hfound)]
    exact .inl ⟨_, _, rfl, by decide⟩

theorem load_eq_error_iff {failure : Failure} :
    load reason files path = .error failure ↔ Unloadable reason files path failure := by
  constructor
  · intro h
    obtain ⟨config, event, hload, -⟩ | ⟨failure', hload, hreason⟩ := load_cases reason files path
    · rw [hload] at h
      contradiction
    · rw [hload] at h
      obtain rfl := Except.error.inj h
      exact hreason
  · intro h
    cases h with
    | unreadable hfound hread => rw [load, if_pos hfound, hread]
    | malformed hread hparse =>
      rw [load_of_read hread, ofText_of_none hparse]
      rfl
    | gaugeWidth hread hparse hwidth =>
      rw [load_of_read hread, ofText_of_some hparse, isValid_eq_false_iff.2 hwidth]
      rfl

/-- Whatever the file holds. -/
lemma gaugeWidth_of_load {event : Log.Event} (h : load reason files path = .ok (config, event)) :
    4 ≤ config.gaugeWidth ∧ config.gaugeWidth ≤ 200 := by
  obtain ⟨config', event', hload, hwidth⟩ | ⟨failure, hload, -⟩ := load_cases reason files path
  · rw [hload] at h
    cases h
    exact hwidth
  · rw [hload] at h
    contradiction

/-- What saving leaves behind: some directories, and if it succeeds the file. -/
inductive Saved (config : Config) (files : Files) (path : String) :
    Except Failure Unit × Files → Prop
  | failed {after : Files} (fault : FileFault) (hadds : files.AddsDirectories after) :
      Saved config files path (.error (.configFile path fault), after)
  | written {grown : Files} {location : Location} (hadds : files.AddsDirectories grown)
      (hpath : grown.LeadsToFile (Path.ofText path) location) :
      Saved config files path (.ok (), grown.put location (.file config.print.toUTF8))

theorem saved_save (config : Config) (files : Files) (path : String) :
    Saved config files path (config.save files path) := by
  have hadds := files.makeParents_adds (Path.ofText path)
  rw [save]
  split
  · next fault after hparents =>
    rw [hparents] at hadds
    exact .failed fault hadds
  · next grown hparents =>
    rw [hparents] at hadds
    obtain ⟨fault, hwrite⟩ | ⟨location, hpath, hwrite⟩ :=
      grown.write_cases (Path.ofText path) config.print
    · rw [hwrite]
      exact .failed fault hadds
    · rw [hwrite]
      exact .written hadds hpath

/-- What was saved is read. -/
theorem read_save {after : Files} (h : config.save files path = (.ok (), after)) :
    after.read (Path.ofText path) = .ok config.print := by
  have hsaved := saved_save config files path
  rw [h] at hsaved
  cases hsaved with
  | written _ hpath => exact (hpath.read_put config.print).2

/-- What is saved does not matter for whether it can be. -/
lemma exists_save (config : Config) (h : files.Writable (Path.ofText path)) :
    ∃ after, config.save files path = (.ok (), after) := by
  obtain ⟨hparents, location, hleads⟩ := h
  rw [save]
  split
  · next hmade =>
    rw [hmade] at hparents
    contradiction
  · next grown hmade =>
    rw [hmade] at hleads
    rw [hleads.write]
    exact ⟨_, rfl⟩

/-- A configuration is loaded as it was saved, or refused for its width. -/
theorem load_after_save (h : config.gaugeWidth < UInt64.size)
    (hpath : files.Writable (Path.ofText path)) :
    (∃ after, config.save files path = (.ok (), after) ∧
      load reason after path =
        if 4 ≤ config.gaugeWidth ∧ config.gaugeWidth ≤ 200 then .ok (config, .configLoaded path)
        else .error (.gaugeWidth config.gaugeWidth)) ∧
    (Failure.gaugeWidth config.gaugeWidth).message =
      "indicator_width must be between 4 and 200, got " ++ config.gaugeWidth.repr ∧
    ∀ reason files path loaded event, load reason files path = .ok (loaded, event) →
      4 ≤ loaded.gaugeWidth ∧ loaded.gaugeWidth ≤ 200 := by
  obtain ⟨after, hsave⟩ := exists_save config hpath
  refine ⟨⟨after, hsave, ?_⟩, rfl, fun reason files path loaded event => gaugeWidth_of_load⟩
  rw [load_of_read (read_save hsave), ofText_of_some (parse?_print h)]
  simp only [isValid_iff]
  split <;> rfl

/-- The directory of the file is missing, and the format is chosen. -/
theorem load_after_save_nested :
    (⟨.java, some .json, 40, false⟩ : Config).gaugeWidth < UInt64.size ∧
    (⟨.root, []⟩ : Files).Writable (Path.ofText "nested/config.json") ∧
    ∀ reason, ∃ after, save ⟨.java, some .json, 40, false⟩ ⟨.root, []⟩ "nested/config.json" =
        (.ok (), after) ∧
      load reason after "nested/config.json" =
        .ok (⟨.java, some .json, 40, false⟩, .configLoaded "nested/config.json") := by
  have hpath : (⟨.root, []⟩ : Files).Writable (Path.ofText "nested/config.json") := by
    have hmissing : ((⟨.root, []⟩ : Files).makeParents (Path.ofText "nested/config.json")).2.node?
        (Location.root.descend ["nested", "config.json"]) = none := rfl
    exact ⟨rfl, Location.root.descend ["nested", "config.json"], rfl, by decide, rfl,
      by simp [hmissing]⟩
  have hwidth : (⟨.java, some .json, 40, false⟩ : Config).gaugeWidth < UInt64.size := by decide
  exact ⟨hwidth, hpath, fun _ => (load_after_save hwidth hpath).1⟩

end Config

end CodeGrowth
