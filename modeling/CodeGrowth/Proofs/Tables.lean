import CodeGrowth.Proofs.Colours
import CodeGrowth.Proofs.Layout

/-!
# Tables in columns

The column of keys is as wide as the longest key has bytes, but a key is filled up to it by counting
characters. No text has more characters than bytes, so every key fits into the column, whatever
alphabet it is written in: none is cut, and the separators stand under one another. The column may
be wider than any key needs, since the key with the most bytes need not have the most characters.
-/
namespace CodeGrowth.Display
open Text

/-- Every character takes a byte at least. -/
lemma length_le_byteLength (text : List Char) : text.length ≤ byteLength text := by
  induction text with
  | nil => exact Nat.le_refl 0
  | cons c text ih =>
    have hc := c.utf8Size_pos
    show text.length + 1 ≤ c.utf8Size + byteLength text
    omega

lemma byteLength_eq_utf8ByteSize (text : List Char) :
    byteLength text = (String.ofList text).utf8ByteSize := by
  induction text with
  | nil => rfl
  | cons c text ih =>
    rw [String.ofList_cons, String.utf8ByteSize_append, String.utf8ByteSize_singleton, ← ih]
    rfl

lemma length_padded {width : Nat} {text : List Char} (h : text.length ≤ width) :
    (padded width text).length = width := by
  rw [padded, List.length_append, List.length_replicate, Nat.add_sub_cancel' h]

/-- A row as it is printed on a line, its key filled up to a width. -/
def rowLine (separator : Char) (width : Nat) (row : List Char × List Char) : List Char :=
  "  ".toList ++ (padded width row.1 ++ [' ', separator, ' '] ++ row.2)

/-- The line shows a row with its separator at a column, counted in characters from zero. Before it
stand two spaces, the whole key, padding and a space; behind it a space and the value. -/
structure Shows (separator : Char) (column : Nat) (row : List Char × List Char)
    (line : List Char) : Prop where
  key : ∃ padding, line.take column =
    "  ".toList ++ row.1 ++ List.replicate padding ' ' ++ [' ']
  value : line.drop column = separator :: ' ' :: row.2

section Row
variable {separator : Char} {width : Nat} {row : List Char × List Char}

lemma shows_rowLine (h : row.1.length ≤ width) :
    Shows separator (2 + width + 1) row (rowLine separator width row) := by
  have hcut : rowLine separator width row =
      ("  ".toList ++ padded width row.1 ++ [' ']) ++ separator :: ' ' :: row.2 := by
    simp only [rowLine, List.append_assoc, List.cons_append, List.nil_append]
  have hcolumn : ("  ".toList ++ padded width row.1 ++ [' ']).length = 2 + width + 1 := by
    rw [List.length_append, List.length_append, length_padded h]
    rfl
  refine ⟨⟨width - row.1.length, ?_⟩, ?_⟩
  · rw [hcut, List.take_left' hcolumn, padded, ← List.append_assoc]
  · rw [hcut, List.drop_left' hcolumn]

lemma notMem_rowLine {c : Char} (hspace : c ≠ ' ') (hseparator : c ≠ separator)
    (hkey : c ∉ row.1) (hvalue : c ∉ row.2) : c ∉ rowLine separator width row := by
  have hpadding : c ∉ List.replicate (width - row.1.length) ' ' := fun hmem =>
    hspace (List.eq_of_mem_replicate hmem)
  simp [rowLine, padded, hpadding, hspace, hseparator, hkey, hvalue]

end Row

namespace Writer

/-- One line is printed for each row, in the order of the rows, and each shows its row with the
separator at the same column. -/
structure Tabulates (separator : Char) (column : Nat) (rows : List (List Char × List Char))
    (printed : Printed) : Prop where
  out : ∃ shown, lines printed.out = shown ++ [[]] ∧
    List.Forall₂ (Shows separator column) rows shown
  err : printed.err = []

lemma lines_all_line {shown : List (List Char)} (h : ∀ l ∈ shown, '\n' ∉ l) :
    lines (Printed.all (shown.map line)).out = shown ++ [[]] := by
  induction shown with
  | nil => rfl
  | cons l shown ih =>
    rw [List.forall_mem_cons] at h
    have hout : (Printed.all ((l :: shown).map line)).out =
        l ++ '\n' :: (Printed.all (shown.map line)).out := (List.append_cons ..).symm
    rw [hout, lines_line_append h.1, ih h.2, List.cons_append]

lemma err_all_line (shown : List (List Char)) : (Printed.all (shown.map line)).err = [] := by
  induction shown with
  | nil => rfl
  | cons l shown ih => exact ih

section Rows
variable {rows : List (List Char × List Char)} {separator : Char} {width : Nat}

/-- Any column in which every key has room will do. -/
lemma tabulates_rowLines (hlines : ∀ row ∈ rows, '\n' ∉ row.1 ∧ '\n' ∉ row.2)
    (hroom : ∀ row ∈ rows, row.1.length ≤ width) (hseparator : '\n' ≠ separator) :
    Tabulates separator (2 + width + 1) rows
      (.all (rows.map (line ∘ rowLine separator width))) := by
  have hshown : ∀ l ∈ rows.map (rowLine separator width), '\n' ∉ l := by
    rw [List.forall_mem_map]
    intro row hrow
    obtain ⟨hkey, hvalue⟩ := hlines row hrow
    exact notMem_rowLine (by decide) hseparator hkey hvalue
  rw [← List.map_map]
  refine ⟨⟨_, lines_all_line hshown, ?_⟩, err_all_line _⟩
  rw [List.forall₂_map_right_iff, List.forall₂_same]
  exact fun row hrow => shows_rowLine (hroom row hrow)

/-- The width is taken from the rows that are printed. -/
lemma max?_byteLength (h : rows ≠ []) :
    (rows.map fun row => byteLength row.1).max? = some (keyWidth rows) := by
  cases rows with
  | nil => contradiction
  | cons row rows =>
    rw [keyWidth, List.map_cons, List.max?_cons', List.foldl_cons, Nat.zero_max]

lemma byteLength_le_keyWidth {row : List Char × List Char} (h : row ∈ rows) :
    byteLength row.1 ≤ keyWidth rows := by
  have hmax := max?_byteLength (List.ne_nil_of_mem h)
  exact (List.max?_eq_some_iff.1 hmax).2 _ (List.mem_map_of_mem h)

lemma exists_byteLength_eq_keyWidth (h : rows ≠ []) :
    ∃ row ∈ rows, byteLength row.1 = keyWidth rows :=
  List.mem_map.1 (List.max?_eq_some_iff.1 (max?_byteLength h)).1

lemma length_le_keyWidth {row : List Char × List Char} (h : row ∈ rows) :
    row.1.length ≤ keyWidth rows :=
  (length_le_byteLength row.1).trans (byteLength_le_keyWidth h)

/-- A table of keys and values that each fit on a line has its separators at one column, in plain
format and for readers without colours: before it is room for as many characters as the longest key
has bytes. -/
theorem tabulates_printTable (h : ∀ row ∈ rows, '\n' ∉ row.1 ∧ '\n' ∉ row.2) :
    (∀ row ∈ rows, (String.ofList row.1).utf8ByteSize ≤ keyWidth rows) ∧
      (rows ≠ [] → ∃ row ∈ rows, (String.ofList row.1).utf8ByteSize = keyWidth rows) ∧
      (∀ gaugeWidth colours, Tabulates ':' (2 + keyWidth rows + 1) rows
        ((Writer.mk .plain gaugeWidth colours).printTable rows)) ∧
      ∀ gaugeWidth, Tabulates '│' (2 + keyWidth rows + 1) rows
        ((withoutColours gaugeWidth).printTable rows) := by
  have hroom : ∀ row ∈ rows, row.1.length ≤ keyWidth rows := fun _ => length_le_keyWidth
  refine ⟨fun row hrow => ?_, fun hne => ?_, fun gaugeWidth colours => ?_, fun gaugeWidth => ?_⟩
  · rw [← byteLength_eq_utf8ByteSize]
    exact byteLength_le_keyWidth hrow
  · simp only [← byteLength_eq_utf8ByteSize]
    exact exists_byteLength_eq_keyWidth hne
  · exact tabulates_rowLines h hroom (by decide)
  · exact tabulates_rowLines h hroom (by decide)

end Rows

/-- Keys of one to four bytes a character, an empty one, and a value with the separator in it. -/
def mixedRows : List (List Char × List Char) :=
  [("größe".toList, "12".toList), ("変数".toList, "x : y".toList), ("😀".toList, []),
    ([], "│".toList), ("name".toList, "ä".toList)]

theorem tabulates_printTable_mixedRows :
    (∀ row ∈ mixedRows, '\n' ∉ row.1 ∧ '\n' ∉ row.2) ∧ mixedRows ≠ [] ∧
      keyWidth mixedRows = 7 ∧
      Tabulates ':' 10 mixedRows ((Writer.mk .plain 30 true).printTable mixedRows) ∧
      Tabulates '│' 10 mixedRows ((withoutColours 30).printTable mixedRows) := by
  have hlines : ∀ row ∈ mixedRows, '\n' ∉ row.1 ∧ '\n' ∉ row.2 := by decide
  obtain ⟨-, -, hplain, hhuman⟩ := tabulates_printTable hlines
  exact ⟨hlines, by decide, by decide, hplain 30 true, hhuman 30⟩

/-- The longest key has seven bytes, and five characters. -/
example : ((Writer.mk .plain 30 true).printTable mixedRows).out =
    ("  größe   : 12\n  変数      : x : y\n  😀       : \n          : │\n" ++
      "  name    : ä\n").toList := by
  decide

end Writer

end CodeGrowth.Display
