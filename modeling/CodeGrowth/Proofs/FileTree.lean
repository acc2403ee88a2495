import CodeGrowth.Files
import Mathlib.Data.List.Infix

/-!
# What operations leave of a tree of files

Making directories puts directories where nothing was and changes nothing else, however far it gets.
Writing changes the file at one location only, and what was written is read back through the same
path.

A path need not lead anywhere before its directories are made, and may lead to a file then: the step
up in `new/../name` can be taken only once `new` is there. No other path does so. Where a path takes
no step up, its directories contain the file that it leads to, so they were there with the file.
-/
namespace CodeGrowth

namespace Location
variable {inner outer : Location}

lemma isAbove_iff : outer.isAbove inner = true ↔
    outer.names.length < inner.names.length ∧ outer.names <:+ inner.names := by
  rw [isAbove, outer.depth_eq, inner.depth_eq, Bool.and_eq_true, decide_eq_true_eq, beq_iff_eq,
    List.suffix_iff_eq_drop, eq_comm (a := outer.names)]

lemma eq_of_names_eq (h : outer.names = inner.names) : outer = inner := by
  obtain ⟨_, _, rfl⟩ := outer
  obtain ⟨_, _, rfl⟩ := inner
  cases h
  rfl

/-- The places above a place are those from which names lead down to it, itself apart. -/
lemma isAbove_of_suffix (h : outer.names <:+ inner.names) (hne : outer ≠ inner) :
    outer.isAbove inner = true := by
  refine isAbove_iff.2 ⟨lt_of_le_of_ne h.length_le fun hlength => hne ?_, h⟩
  exact eq_of_names_eq (h.eq_of_length hlength)

end Location

namespace Files
variable {files before after : Files} {location other : Location} {node : Node}

lemma lookup_nodes_put_self (files : Files) (location : Location) (node : Node) :
    (files.put location node).nodes.lookup location = some node := by
  rw [put, List.lookup_cons_self]

/-- Entries for one place do not matter elsewhere. -/
lemma lookup_filter_of_ne (h : other ≠ location) (nodes : List (Location × Node)) :
    (nodes.filter (·.1 != location)).lookup other = nodes.lookup other := by
  induction nodes with
  | nil => rfl
  | cons entry nodes ih =>
    by_cases heq : entry.1 = location
    · have hentry : (other == entry.1) = false := beq_false_of_ne (heq ▸ h)
      rw [List.filter_cons_of_neg (by simp [heq]), ih, List.lookup_cons, hentry]
    · rw [List.filter_cons_of_pos (by simp [heq]), List.lookup_cons, List.lookup_cons, ih]

lemma lookup_nodes_put_of_ne (h : other ≠ location) (files : Files) (node : Node) :
    (files.put location node).nodes.lookup other = files.nodes.lookup other := by
  have hhead : (other == location) = false := beq_false_of_ne h
  rw [put, List.lookup_cons, hhead]
  exact lookup_filter_of_ne h files.nodes

lemma node?_of_lookup (h : files.nodes.lookup location = some node) :
    files.node? location = some node := by rw [node?, h]

lemma node?_of_lookup_none (h : files.nodes.lookup location = none) :
    files.node? location =
      if location = .root || files.nodes.any (location.isAbove ·.1) then some .directory
      else none := by
  rw [node?, h]

@[simp] theorem node?_put_self (files : Files) (location : Location) (node : Node) :
    (files.put location node).node? location = some node :=
  node?_of_lookup (lookup_nodes_put_self files location node)

/-- What is put somewhere hides nothing elsewhere. -/
lemma node?_put_of_ne {old : Node} (h : other ≠ location) (hold : files.node? other = some old) :
    (files.put location node).node? other = some old := by
  have hlookup := lookup_nodes_put_of_ne h files node
  cases hnode : files.nodes.lookup other with
  | some found =>
    rw [node?_of_lookup hnode] at hold
    rw [node?_of_lookup (hlookup.trans hnode), hold]
  | none =>
    rw [node?_of_lookup_none hnode] at hold
    rw [node?_of_lookup_none (hlookup.trans hnode), ← hold]
    split at hold
    · next habove =>
      -- A node below the place is still below it, unless it is the one that was replaced.
      have hstill : (other = .root ||
          (files.put location node).nodes.any (other.isAbove ·.1)) = true := by
        rw [Bool.or_eq_true] at habove ⊢
        refine habove.imp_right fun hany => ?_
        obtain ⟨entry, hentry, hbelow⟩ := List.any_eq_true.1 hany
        rw [put, List.any_cons, Bool.or_eq_true, List.any_eq_true]
        by_cases heq : entry.1 = location
        · exact .inl (heq ▸ hbelow)
        · exact .inr ⟨entry, List.mem_filter.2 ⟨hentry, bne_iff_ne.2 heq⟩, hbelow⟩
      rw [if_pos hstill, if_pos habove]
    · contradiction

/-- No file appears except the one that is put. -/
lemma node?_of_put_file {bytes : ByteArray} (h : other ≠ location)
    (hfile : (files.put location node).node? other = some (.file bytes)) :
    files.node? other = some (.file bytes) := by
  have hlookup := lookup_nodes_put_of_ne h files node
  cases hnode : files.nodes.lookup other with
  | some found =>
    rw [node?_of_lookup (hlookup.trans hnode)] at hfile
    rw [node?_of_lookup hnode, hfile]
  | none =>
    rw [node?_of_lookup_none (hlookup.trans hnode)] at hfile
    split at hfile
    · cases hfile
    · contradiction

/-- What is above a file is there. -/
lemma exists_node?_of_isAbove {bytes : ByteArray} (h : location.isAbove other = true)
    (hfile : files.node? other = some (.file bytes)) :
    ∃ above, files.node? location = some above := by
  have hlookup : files.nodes.lookup other = some (.file bytes) := by
    cases hnode : files.nodes.lookup other with
    | some found => rw [← node?_of_lookup hnode, hfile]
    | none =>
      rw [node?_of_lookup_none hnode] at hfile
      split at hfile
      · cases hfile
      · contradiction
  have hany : files.nodes.any (location.isAbove ·.1) = true := by
    obtain ⟨front, back, hnodes, -⟩ := List.lookup_eq_some_iff.1 hlookup
    rw [List.any_eq_true]
    exact ⟨(other, .file bytes), by simp [hnodes], h⟩
  cases hnode : files.nodes.lookup location with
  | some above => exact ⟨above, node?_of_lookup hnode⟩
  | none => exact ⟨.directory, by rw [node?_of_lookup_none hnode, hany, Bool.or_true, if_pos rfl]⟩

/-- Some directories came to be, and all else is as it was. -/
structure AddsDirectories (before after : Files) : Prop where
  working : after.working = before.working
  kept : ∀ {location node}, before.node? location = some node → after.node? location = some node
  file : ∀ {location bytes}, after.node? location = some (.file bytes) →
    before.node? location = some (.file bytes)

lemma AddsDirectories.refl (files : Files) : AddsDirectories files files :=
  ⟨rfl, fun h => h, fun h => h⟩

lemma AddsDirectories.trans {middle : Files} (h : AddsDirectories before middle)
    (h' : AddsDirectories middle after) : AddsDirectories before after :=
  ⟨h'.working.trans h.working, fun hnode => h'.kept (h.kept hnode),
    fun hfile => h.file (h'.file hfile)⟩

lemma addsDirectories_put (h : files.node? location = none) :
    AddsDirectories files (files.put location .directory) where
  working := rfl
  kept := by
    intro other node hnode
    refine node?_put_of_ne ?_ hnode
    rintro rfl
    rw [h] at hnode
    contradiction
  file := by
    intro other bytes hfile
    refine node?_of_put_file ?_ hfile
    rintro rfl
    rw [node?_put_self] at hfile
    cases hfile

lemma node?_of_lookUp {found : Option Node} (h : files.lookUp location = .ok found) :
    files.node? location = found := by
  rw [lookUp] at h
  split at h
  · contradiction
  · exact Except.ok.inj h

/-- Whether a name can be looked up does not depend on the files. -/
lemma lookUp_of_lookUp {found : Option Node} (h : before.lookUp location = .ok found) :
    after.lookUp location = .ok (after.node? location) := by
  rw [lookUp] at h ⊢
  split at h
  · contradiction
  · next hname => rw [if_neg hname]

lemma makeDirectories_adds (files : Files) (location : Location) (made : Bool)
    (names : List String) :
    AddsDirectories files (files.makeDirectories location made names).2 := by
  induction names generalizing files location made with
  | nil => exact .refl files
  | cons name names ih =>
    rw [makeDirectories]
    split
    · exact ih files location made
    · split
      · exact ih files location.parent made
      · split
        · exact .refl files
        · exact ih files (location.child name) made
        · exact .refl files
        · next hlookUp =>
          exact (addsDirectories_put (node?_of_lookUp hlookUp)).trans (ih _ _ true)

theorem makeParents_adds (files : Files) (path : Path) :
    AddsDirectories files (files.makeParents path).2 := by
  rw [makeParents]
  split
  · exact .refl files
  · split
    · exact .refl files
    · exact makeDirectories_adds files _ false _

lemma enter_eq_ok {entered : Location} (h : files.enter location = .ok entered) :
    entered = location ∧ files.lookUp location = .ok (some .directory) := by
  rw [enter] at h
  split at h
  · contradiction
  · next hlookUp => exact ⟨(Except.ok.inj h).symm, hlookUp⟩
  · contradiction
  · contradiction

lemma enter_of_lookUp (h : before.lookUp location = .ok (some .directory))
    (hnode : after.node? location = some .directory) : after.enter location = .ok location := by
  rw [enter, lookUp_of_lookUp h, hnode]

/-- One step of a walk, through a directory. -/
lemma walk_cons {name : String} {names : List String} {target : Location}
    (h : files.walk location (name :: names) = .ok target) :
    files.lookUp location = .ok (some .directory) ∧
      files.walk (if name = "." then location else if name = ".." then location.parent
        else location.child name) names = .ok target := by
  rw [walk] at h
  split at h
  · contradiction
  · next entered hentered =>
    obtain ⟨rfl, hlookUp⟩ := enter_eq_ok hentered
    refine ⟨hlookUp, ?_⟩
    split_ifs at h ⊢
    · exact h
    · exact h
    · exact h

lemma walk_cons_of_enter {name : String} {names : List String} {target : Location}
    (hentered : files.enter location = .ok location)
    (h : files.walk (if name = "." then location else if name = ".." then location.parent
        else location.child name) names = .ok target) :
    files.walk location (name :: names) = .ok target := by
  rw [walk, hentered]
  dsimp only
  split_ifs at h ⊢
  · exact h
  · exact h
  · exact h

/-- A walk leads to the same place as long as its directories are there. -/
lemma walk_mono {names : List String} {target : Location}
    (hdirectory : ∀ {location}, before.node? location = some .directory →
      after.node? location = some .directory)
    (h : before.walk location names = .ok target) : after.walk location names = .ok target := by
  induction names generalizing location with
  | nil => exact h
  | cons name names ih =>
    obtain ⟨hlookUp, hrest⟩ := walk_cons h
    have hnode := hdirectory (node?_of_lookUp hlookUp)
    exact walk_cons_of_enter (enter_of_lookUp hlookUp hnode) (ih hrest)

/-- The path leads to a place for a file, whether there is one or not. -/
structure LeadsToFile (files : Files) (path : Path) (location : Location) : Prop where
  locate : files.locate path = .ok location
  not_wantsDirectory : path.wantsDirectory = false
  lookUp : files.lookUp location = .ok (files.node? location)
  not_directory : files.node? location ≠ some .directory

section Paths
variable {path : Path}

lemma walk_of_locate (h : files.locate path = .ok location) :
    path.fault? = none ∧ files.walk (files.origin path) path.names = .ok location := by
  rw [locate] at h
  split at h
  · contradiction
  · next hfault => exact ⟨hfault, h⟩

lemma locate_of_walk (hfault : path.fault? = none) :
    files.locate path = files.walk (files.origin path) path.names := by rw [locate, hfault]

lemma LeadsToFile.find {bytes : ByteArray} (h : files.LeadsToFile path location)
    (hfile : files.node? location = some (.file bytes)) : files.find path = .ok (.file bytes) := by
  rw [Files.find, h.locate]
  dsimp only
  rw [h.lookUp, hfile]
  exact if_neg (by simp [h.not_wantsDirectory])

/-- A path leads where it led when a file is put there. -/
lemma LeadsToFile.put (h : files.LeadsToFile path location) (bytes : ByteArray) :
    (files.put location (.file bytes)).LeadsToFile path location where
  locate := by
    obtain ⟨hfault, hwalk⟩ := walk_of_locate h.locate
    rw [locate_of_walk hfault]
    refine walk_mono (fun {other} hdirectory => node?_put_of_ne ?_ hdirectory) hwalk
    rintro rfl
    exact h.not_directory hdirectory
  not_wantsDirectory := h.not_wantsDirectory
  lookUp := lookUp_of_lookUp h.lookUp
  not_directory := by simp

/-- Writing fails and changes nothing, or puts the text where the path leads. -/
lemma write_cases (files : Files) (path : Path) (text : String) :
    (∃ fault, files.write path text = (.error fault, files)) ∨
      ∃ location, files.LeadsToFile path location ∧
        files.write path text = (.ok (), files.put location (.file text.toUTF8)) := by
  rw [write]
  split
  · next fault _ => exact .inl ⟨fault, rfl⟩
  · next location hlocate =>
    split
    · exact .inl ⟨.isDirectory, rfl⟩
    · next hslash =>
      split
      · next fault _ => exact .inl ⟨fault, rfl⟩
      · exact .inl ⟨.isDirectory, rfl⟩
      · next found hdirectory hlookUp =>
        have hnode := node?_of_lookUp hlookUp
        refine .inr ⟨location, ⟨hlocate, by simpa using hslash, hnode ▸ hlookUp, ?_⟩, rfl⟩
        rw [hnode]
        exact hdirectory

/-- The directories that a path needs can be made, and then the path leads to a place for a file. -/
structure Writable (files : Files) (path : Path) : Prop where
  parents : (files.makeParents path).1 = .ok ()
  leads : ∃ location, (files.makeParents path).2.LeadsToFile path location

lemma LeadsToFile.write (h : files.LeadsToFile path location) (text : String) :
    files.write path text = (.ok (), files.put location (.file text.toUTF8)) := by
  rw [Files.write, h.locate]
  dsimp only
  rw [if_neg (by simp [h.not_wantsDirectory]), h.lookUp]
  split
  · contradiction
  · next hnode => exact absurd (Except.ok.inj hnode) h.not_directory
  · rfl

lemma textOf_toUTF8 (text : String) : textOf text.toUTF8 = .ok text := by
  have hvalid : String.fromUTF8? text.toUTF8 = some text := by
    rw [String.fromUTF8?, String.toUTF8_eq_toByteArray, dif_pos text.isValidUTF8]
    rfl
  rw [textOf, hvalid]

lemma textOf_eq_error_iff {bytes : ByteArray} {fault : FileFault} :
    textOf bytes = .error fault ↔ String.fromUTF8? bytes = none ∧ fault = .notText := by
  rw [textOf]
  cases String.fromUTF8? bytes <;> simp [eq_comm]

lemma read_of_find {text : String} (h : files.find path = .ok (.file text.toUTF8)) :
    files.read path = .ok text := by
  rw [read, h]
  exact textOf_toUTF8 text

lemma has_of_find (h : files.find path = .ok node) : files.has path = true := by rw [has, h]

lemma has_of_read {text : String} (h : files.read path = .ok text) : files.has path = true := by
  rw [read] at h
  split at h
  · contradiction
  · contradiction
  · next hfind => exact has_of_find hfind

/-- What was put at the end of a path is read through the path. -/
lemma LeadsToFile.read_put (h : files.LeadsToFile path location) (text : String) :
    (files.put location (.file text.toUTF8)).has path = true ∧
      (files.put location (.file text.toUTF8)).read path = .ok text := by
  have hfind := (h.put text.toUTF8).find (node?_put_self files location _)
  exact ⟨has_of_find hfind, read_of_find hfind⟩

/-- A walk that never steps up only leads down. -/
lemma names_suffix_of_walk {names : List String} {target : Location} (hup : ".." ∉ names)
    (h : files.walk location names = .ok target) : location.names <:+ target.names := by
  induction names generalizing location with
  | nil =>
    obtain rfl := Except.ok.inj h
    exact List.suffix_refl _
  | cons name names ih =>
    rw [List.mem_cons, not_or] at hup
    have hrest := ih hup.2 (walk_cons h).2
    rw [if_neg (Ne.symm hup.1)] at hrest
    split at hrest
    · exact hrest
    · exact (List.suffix_cons name location.names).trans hrest

/-- No directory that was made is on the way to a file, unless the way steps up. -/
lemma AddsDirectories.walk {names : List String} {target : Location} {bytes : ByteArray}
    (h : AddsDirectories before after) (hfile : after.node? target = some (.file bytes))
    (hup : ".." ∉ names) (hwalk : after.walk location names = .ok target) :
    before.walk location names = .ok target := by
  induction names generalizing location with
  | nil => exact hwalk
  | cons name names ih =>
    obtain ⟨hlookUp, hrest⟩ := walk_cons hwalk
    have hdirectory := node?_of_lookUp hlookUp
    have hne : location ≠ target := by
      rintro rfl
      rw [hfile] at hdirectory
      cases hdirectory
    have habove := Location.isAbove_of_suffix (names_suffix_of_walk hup hwalk) hne
    obtain ⟨above, hnode⟩ := exists_node?_of_isAbove habove (h.file hfile)
    have hkept := h.kept hnode
    rw [hdirectory] at hkept
    rw [← hkept] at hnode
    exact walk_cons_of_enter (enter_of_lookUp hlookUp hnode)
      (ih (fun hmem => hup (List.mem_cons_of_mem name hmem)) hrest)

/-- A file that a path leads to once directories were made was found through the path before, unless
the path steps up. -/
lemma AddsDirectories.has (h : AddsDirectories before after) {bytes : ByteArray}
    (hpath : after.LeadsToFile path location) (hfile : after.node? location = some (.file bytes))
    (hup : ".." ∉ path.names) : before.has path = true := by
  obtain ⟨hfault, hwalk⟩ := walk_of_locate hpath.locate
  have horigin : after.origin path = before.origin path := by rw [origin, origin, h.working]
  have hlocate : before.locate path = .ok location := by
    rw [locate_of_walk hfault, ← horigin]
    exact h.walk hfile hup hwalk
  have hnode := h.file hfile
  have hbefore : before.LeadsToFile path location :=
    ⟨hlocate, hpath.not_wantsDirectory, lookUp_of_lookUp hpath.lookUp, by simp [hnode]⟩
  exact has_of_find (hbefore.find hnode)

/-- Directories were made on the way of a path, and then a file was put where it leads. -/
structure PutsFile (before after : Files) (path : Path) (location : Location) (bytes : ByteArray) :
    Prop where
  leads : after.LeadsToFile path location
  written : after.node? location = some (.file bytes)
  kept : ∀ {other node}, other ≠ location → before.node? other = some node →
    after.node? other = some node
  file : ∀ {other bytes}, other ≠ location → after.node? other = some (.file bytes) →
    before.node? other = some (.file bytes)
  /-- Only a file is replaced, and unless the path steps up it was found before. -/
  replaced : ∀ {node}, before.node? location = some node → (∃ bytes, node = .file bytes) ∧
    (before.has path = false → ".." ∈ path.names)

lemma LeadsToFile.putsFile {grown : Files} (h : grown.LeadsToFile path location)
    (hadds : AddsDirectories before grown) (bytes : ByteArray) :
    PutsFile before (grown.put location (.file bytes)) path location bytes where
  leads := h.put bytes
  written := node?_put_self grown location _
  kept hne hnode := node?_put_of_ne hne (hadds.kept hnode)
  file hne hfile := hadds.file (node?_of_put_file hne hfile)
  replaced := by
    intro node hnode
    have hgrown := hadds.kept hnode
    cases node with
    | directory => exact absurd hgrown h.not_directory
    | file bytes =>
      refine ⟨⟨bytes, rfl⟩, fun hmissing => ?_⟩
      by_contra hup
      rw [hadds.has h hgrown hup] at hmissing
      cases hmissing

end Paths

end Files

end CodeGrowth
