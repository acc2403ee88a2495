import CodeGrowth.CommandLine.Arguments
import Mathlib.Data.List.Basic

/-!
# Command lines with one more argument

Asking for more of the log in front of an accepted command line changes nothing but that; so does a
source put at the end of a request for an analysis that names none. The first argument is read
before all others, the last one after them, and what is read between them is the same.
-/
namespace CodeGrowth.CommandLine

namespace Given
variable {given after : Given} {place : Place}

lemma addOption_eq_ok_iff {flag : Flag} {value : String} :
    given.addOption flag value = .ok after ↔ flag ≠ .version ∧ flag ≠ .help ∧
      given.has flag = false ∧ flag.accepts value = true ∧
      after = { given with options := (flag, value) :: given.options } := by
  rw [addOption]
  split
  · simp [*]
  · split
    · simp [*]
    · split
      · simp [*]
      · split <;> simp [*, eq_comm]

lemma addAll_append (given : Given) (place : Place) (items more : List Item) :
    given.addAll place (items ++ more) =
      match given.addAll place items with
      | .error halt => .error halt
      | .ok after => after.addAll place more := by
  induction items generalizing given with
  | nil => rfl
  | cons item items ih =>
    rw [List.cons_append, addAll, addAll]
    cases given.add place item with
    | error halt => rfl
    | ok next => exact ih next

end Given

/-- The arguments that are left after a reading. -/
def Reading.left (reading : Reading) (args : List String) : List String :=
  if reading.tookNext then args.tail else args

lemma Reading.left_of_tookNext {reading : Reading} (h : reading.tookNext = true) (arg : String)
    (args : List String) : reading.left (arg :: args) = args := by
  rw [left, if_pos h, List.tail_cons]

lemma Reading.left_of_not_tookNext {reading : Reading} (h : ¬reading.tookNext = true)
    (args : List String) : reading.left args = args := by rw [left, if_neg h]

lemma readGeneral_cons {text : String} (hdashes : text ≠ "--")
    (hoption : looksLikeOption text = true) (given : Given) (args : List String) :
    readGeneral given (text :: args) =
      match given.addAll .general (readArgument .general text args.head?).items with
      | .error halt => .error halt
      | .ok next => readGeneral next ((readArgument .general text args.head?).left args) := by
  rw [readGeneral.eq_def]
  simp only [if_neg hdashes, if_pos hoption, Reading.left]
  cases given.addAll .general (readArgument .general text args.head?).items with
  | error halt => rfl
  | ok next =>
    dsimp only
    split
    · cases args <;> rfl
    · rfl

lemma readCommand_cons {text : String} (hdashes : text ≠ "--") (place : Place) (given : Given)
    (args : List String) : readCommand place given (text :: args) =
      match given.addAll place (readArgument place text args.head?).items with
      | .error halt => .error halt
      | .ok next => readCommand place next ((readArgument place text args.head?).left args) := by
  rw [readCommand.eq_def]
  simp only [if_neg hdashes, Reading.left]
  cases given.addAll place (readArgument place text args.head?).items with
  | error halt => rfl
  | ok next =>
    dsimp only
    split
    · cases args <;> rfl
    · rfl

namespace Given
variable {given after : Given} {place : Place}

/-- What was given after a request for the whole log. -/
def verbosely (given : Given) : Given :=
  { given with options := given.options ++ [(.verbose, "")] }

lemma value?_verbosely {flag : Flag} (h : flag ≠ .verbose) :
    given.verbosely.value? flag = given.value? flag := by
  have hne : (flag == Flag.verbose) = false := beq_false_of_ne h
  rw [value?, value?, verbosely, List.lookup_append, List.lookup_cons, hne]
  simp

lemma has_verbosely_self : given.verbosely.has .verbose = true := by
  rw [has, value?, verbosely, List.lookup_append]
  simp

lemma has_verbosely {flag : Flag} (h : flag ≠ .verbose) :
    given.verbosely.has flag = given.has flag := by rw [has, has, value?_verbosely h]

lemma add_verbosely {item : Item} (h : given.add place item = .ok after)
    (hquiet : after.has .verbose = false) :
    given.verbosely.add place item = .ok after.verbosely ∧ given.has .verbose = false := by
  cases item with
  | fault fault => cases h
  | operand text =>
    rw [add, addOperand] at h
    split at h
    · next hoperand =>
      obtain rfl := Except.ok.inj h
      refine ⟨?_, hquiet⟩
      exact if_pos hoperand
    · cases h
  | option flag value =>
    obtain ⟨hversion, hhelp, hnew, haccepts, rfl⟩ := addOption_eq_ok_iff.1 h
    have hne : flag ≠ .verbose := by
      rintro rfl
      simp [has, value?] at hquiet
    have hold : given.has .verbose = false := by
      have hbeq : (Flag.verbose == flag) = false := beq_false_of_ne hne.symm
      rwa [has, value?, List.lookup_cons, hbeq] at hquiet
    refine ⟨addOption_eq_ok_iff.2 ⟨hversion, hhelp, ?_, haccepts, rfl⟩, hold⟩
    rw [has_verbosely hne, hnew]

lemma addAll_verbosely {items : List Item} (h : given.addAll place items = .ok after)
    (hquiet : after.has .verbose = false) :
    given.verbosely.addAll place items = .ok after.verbosely ∧ given.has .verbose = false := by
  induction items generalizing given with
  | nil =>
    obtain rfl := Except.ok.inj h
    exact ⟨rfl, hquiet⟩
  | cons item items ih =>
    rw [addAll] at h ⊢
    split at h
    · cases h
    · next next hadd =>
      obtain ⟨hrest, hnext⟩ := ih h
      obtain ⟨hitem, hgiven⟩ := add_verbosely hadd hnext
      rw [hitem]
      exact ⟨hrest, hgiven⟩

end Given

/-- The invocation with the whole log. -/
def Invocation.verbosely (invocation : Invocation) : Invocation :=
  { invocation with verbose := true }

variable {given : Given} {invocation : Invocation} {args : List String}

lemma of_verbosely (general given : Given) (place : Place) :
    Invocation.of general.verbosely given place =
      (Invocation.of general given place).verbosely := by
  have hconfig : general.verbosely.value? .config = general.value? .config :=
    Given.value?_verbosely (by decide)
  have hcolour : general.verbosely.has .noColour = general.has .noColour :=
    Given.has_verbosely (by decide)
  rw [Invocation.of, Invocation.of, Invocation.verbosely, Given.has_verbosely_self, hconfig,
    hcolour, Bool.true_or]

lemma readFrom_eq_ok_iff {name : String} :
    readFrom given name args = .ok invocation ↔ name ≠ "help" ∧ ∃ place after,
      Place.ofCommand? name = some place ∧ readCommand place .nothing args = .ok after ∧
        invocation = .of given after place := by
  rw [readFrom]
  split
  · next hname => simp [hname]
  · next hname =>
    cases Place.ofCommand? name with
    | none => simp
    | some place =>
      cases hread : readCommand place .nothing args with
      | error halt => simp [Except.map, hread]
      | ok after => simp [Except.map, hread, hname, eq_comm]

lemma readFrom_verbosely {name : String} (h : readFrom given name args = .ok invocation)
    (hquiet : invocation.verbose = false) :
    readFrom given.verbosely name args = .ok invocation.verbosely ∧ given.has .verbose = false := by
  obtain ⟨hname, place, after, hplace, hread, rfl⟩ := readFrom_eq_ok_iff.1 h
  refine ⟨readFrom_eq_ok_iff.2 ⟨hname, place, after, hplace, hread, ?_⟩,
    (Bool.or_eq_false_iff.1 hquiet).1⟩
  rw [of_verbosely]

lemma readGeneral_verbosely (h : readGeneral given args = .ok invocation)
    (hquiet : invocation.verbose = false) :
    readGeneral given.verbosely args = .ok invocation.verbosely ∧ given.has .verbose = false := by
  fun_induction readGeneral given args with
  | case1 | case2 | case3 | case4 | case5 => cases h
  | case6 given text hdashes hoption next value rest reading hadd htook ih =>
    obtain ⟨hrest, hnext⟩ := ih h
    obtain ⟨hitems, hgiven⟩ := Given.addAll_verbosely hadd hnext
    refine ⟨?_, hgiven⟩
    rw [readGeneral_cons hdashes hoption, hitems]
    rwa [← Reading.left_of_tookNext htook value rest] at hrest
  | case7 given text rest hdashes hoption reading next hadd htook ih =>
    obtain ⟨hrest, hnext⟩ := ih h
    obtain ⟨hitems, hgiven⟩ := Given.addAll_verbosely hadd hnext
    refine ⟨?_, hgiven⟩
    rw [readGeneral_cons hdashes hoption, hitems]
    rwa [← Reading.left_of_not_tookNext htook rest] at hrest
  | case8 given text rest hdashes hoption =>
    obtain ⟨hrest, hgiven⟩ := readFrom_verbosely h hquiet
    refine ⟨?_, hgiven⟩
    rw [readGeneral.eq_def]
    simp only [if_neg hdashes, if_neg hoption]
    exact hrest

theorem readArguments_verbose_cons (h : readArguments args = .ok invocation)
    (hquiet : invocation.verbose = false) :
    readArguments ("--verbose" :: args) = .ok invocation.verbosely := by
  rw [readArguments, readGeneral_cons (by decide) (by decide)]
  exact (readGeneral_verbosely h hquiet).1

variable {place : Place}

lemma ne_dashes_of_operand {text : String} (h : looksLikeOption text = false) : text ≠ "--" := by
  rintro rfl
  exact absurd h (by decide)

/-- An operand that starts with a dash is a dash. -/
lemma toList_eq_dash {text : String} (h : looksLikeOption text = false)
    (hhead : text.toList.head? = some '-') : text.toList = ['-'] := by
  rw [looksLikeOption, decide_eq_true hhead, Bool.true_and, bne_eq_false_iff_eq] at h
  rw [h]
  decide

lemma readArgument_of_operand {text : String} (h : looksLikeOption text = false) (place : Place)
    (next : Option String) : readArgument place text next = ⟨[.operand text], false⟩ := by
  rw [readArgument]
  split
  · next name htext => simpa [htext] using toList_eq_dash h (by rw [htext, List.head?_cons])
  · next letter letters _ htext =>
    simpa [htext] using toList_eq_dash h (by rw [htext, List.head?_cons])
  · rfl

lemma Given.fault_notMem_of_addAll {items : List Item} {after : Given} {fault : UsageFault}
    (h : given.addAll place items = .ok after) : .fault fault ∉ items := by
  induction items generalizing given with
  | nil => exact List.not_mem_nil
  | cons item items ih =>
    rw [addAll] at h
    split at h
    · cases h
    · next next hadd =>
      rw [List.mem_cons, not_or]
      refine ⟨?_, ih h⟩
      rintro rfl
      cases hadd

/-- Only an option that lacks its value depends on the next argument. -/
lemma readLong_eq_of_none {text : List Char}
    (h : ∀ fault, .fault fault ∉ (readLong place text none).items) (next : Option String) :
    readLong place text next = readLong place text none ∧
      (readLong place text none).tookNext = false := by
  revert h
  rw [readLong, readLong]
  split
  · exact fun _ => ⟨rfl, rfl⟩
  · intro _
    split <;> exact ⟨rfl, rfl⟩
  · next flag hvalue _ =>
    intro h
    by_cases htakes : flag.takesValue = true
    · rw [if_pos htakes] at h
      exact absurd (List.mem_singleton_self _) (h _)
    · rw [if_neg htakes, if_neg htakes]
      exact ⟨rfl, rfl⟩

lemma readLetters_eq_of_none {letters : List Char}
    (h : ∀ fault, .fault fault ∉ (readLetters place none letters).items) (next : Option String) :
    readLetters place next letters = readLetters place none letters ∧
      (readLetters place none letters).tookNext = false := by
  induction letters with
  | nil => exact ⟨rfl, rfl⟩
  | cons letter rest ih =>
    revert h
    rw [readLetters, readLetters]
    split
    · exact fun _ => ⟨rfl, rfl⟩
    · next flag _ =>
      by_cases htakes : flag.takesValue = true
      · rw [if_pos htakes, if_pos htakes]
        split
        · exact fun h => absurd (List.mem_singleton_self _) (h _)
        · exact fun _ => ⟨rfl, rfl⟩
        · exact fun _ => ⟨rfl, rfl⟩
      · rw [if_neg htakes, if_neg htakes]
        intro h
        obtain ⟨heq, htook⟩ := ih fun fault hmem => h fault (List.mem_cons_of_mem _ hmem)
        rw [heq]
        exact ⟨rfl, htook⟩

lemma readArgument_eq_of_none {text : String} {after : Given}
    (h : given.addAll place (readArgument place text none).items = .ok after)
    (next : Option String) : readArgument place text next = readArgument place text none ∧
      (readArgument place text none).tookNext = false := by
  have hfaults : ∀ fault, .fault fault ∉ (readArgument place text none).items :=
    fun _ => Given.fault_notMem_of_addAll h
  revert hfaults
  rw [readArgument, readArgument]
  split
  · exact fun hfaults => readLong_eq_of_none hfaults next
  · exact fun hfaults => readLetters_eq_of_none hfaults next
  · exact fun _ => ⟨rfl, rfl⟩

/-- An accepted argument is read alike if one more argument stands at the end, and that one is
left. -/
lemma readArgument_append {name : String} {next : Given}
    (h : given.addAll place (readArgument place name args.head?).items = .ok next) (text : String) :
    let reading := readArgument place name args.head?
    readArgument place name (args ++ [text]).head? = reading ∧
      reading.left (args ++ [text]) = reading.left args ++ [text] := by
  cases args with
  | nil =>
    obtain ⟨heq, htook⟩ := readArgument_eq_of_none h (some text)
    have hleft := Reading.left_of_not_tookNext (Bool.eq_false_iff.1 htook)
    exact ⟨heq, by rw [List.head?_nil, hleft, hleft]⟩
  | cons value rest =>
    refine ⟨rfl, ?_⟩
    simp only [Reading.left]
    split <;> rfl

lemma addAll_operand {text : String} (hnone : given.operand = none) (htext : text ≠ "") :
    given.addAll .analyze [.operand text] = .ok { given with operand := some text } := by
  rw [Given.addAll, Given.add, Given.addOperand, if_pos ⟨rfl, hnone, htext⟩]
  rfl

section
variable {text : String} (hoption : looksLikeOption text = false) (htext : text ≠ "")
include hoption htext

lemma readCommand_append_operand {after : Given} (h : readCommand .analyze given args = .ok after)
    (hnone : after.operand = none) :
    readCommand .analyze given (args ++ [text]) = .ok { after with operand := some text } := by
  fun_induction readCommand .analyze given args with
  | case1 given =>
    obtain rfl := Except.ok.inj h
    rw [List.nil_append, readCommand_cons (ne_dashes_of_operand hoption),
      readArgument_of_operand hoption, addAll_operand hnone htext]
    rfl
  | case2 given rest =>
    rw [List.cons_append, readCommand.eq_def]
    simp only [if_true]
    rw [readOperands, List.map_append, Given.addAll_append]
    rw [readOperands] at h
    rw [h]
    exact addAll_operand hnone htext
  | case3 => cases h
  | case4 given name hdashes next reading hadd htook =>
    exact absurd htook (Bool.eq_false_iff.1 (readArgument_eq_of_none hadd none).2)
  | case5 given name hdashes next value rest reading hadd htook ih =>
    obtain ⟨hreading, hleft⟩ := readArgument_append hadd text
    rw [List.cons_append, readCommand_cons hdashes, hreading, hadd, hleft,
      Reading.left_of_tookNext htook]
    exact ih h
  | case6 given name rest hdashes reading next hadd htook ih =>
    obtain ⟨hreading, hleft⟩ := readArgument_append hadd text
    rw [List.cons_append, readCommand_cons hdashes, hreading, hadd, hleft,
      Reading.left_of_not_tookNext htook]
    exact ih h

variable {format : Option Display.Format} {dialect : Option Language.Dialect} {copy : Bool}

lemma readFrom_append_operand {name : String} (h : readFrom given name args = .ok invocation)
    (hcommand : invocation.command = .analyze none format dialect copy) :
    readFrom given name (args ++ [text]) =
      .ok { invocation with command := .analyze (some text) format dialect copy } := by
  obtain ⟨hname, place, after, hplace, hread, rfl⟩ := readFrom_eq_ok_iff.1 h
  cases place with
  | general | sample | config => cases hcommand
  | analyze =>
    obtain ⟨hnone, rfl, rfl, rfl⟩ := Command.analyze.inj hcommand
    have hmore := readCommand_append_operand hoption htext hread hnone
    exact readFrom_eq_ok_iff.2 ⟨hname, .analyze, _, hplace, hmore, rfl⟩

lemma readGeneral_append_operand (h : readGeneral given args = .ok invocation)
    (hcommand : invocation.command = .analyze none format dialect copy) :
    readGeneral given (args ++ [text]) =
      .ok { invocation with command := .analyze (some text) format dialect copy } := by
  fun_induction readGeneral given args with
  | case1 | case2 | case3 | case4 | case5 => cases h
  | case6 given name hdashes hdash next value rest reading hadd htook ih =>
    obtain ⟨hreading, hleft⟩ := readArgument_append hadd text
    rw [List.cons_append, readGeneral_cons hdashes hdash, hreading, hadd, hleft,
      Reading.left_of_tookNext htook]
    exact ih h
  | case7 given name rest hdashes hdash reading next hadd htook ih =>
    obtain ⟨hreading, hleft⟩ := readArgument_append hadd text
    rw [List.cons_append, readGeneral_cons hdashes hdash, hreading, hadd, hleft,
      Reading.left_of_not_tookNext htook]
    exact ih h
  | case8 given name rest hdashes hdash =>
    rw [List.cons_append, readGeneral.eq_def]
    simp only [if_neg hdashes, if_neg hdash]
    exact readFrom_append_operand hoption htext h hcommand

theorem readArguments_append_operand (h : readArguments args = .ok invocation)
    (hcommand : invocation.command = .analyze none format dialect copy) :
    readArguments (args ++ [text]) =
      .ok { invocation with command := .analyze (some text) format dialect copy } :=
  readGeneral_append_operand hoption htext h hcommand

end

end CodeGrowth.CommandLine
