import CodeGrowth.Proofs.Colours
import CodeGrowth.Proofs.ConfigFiles

/-!
# Gauges of every width

The filled cells are counted by a product, a quotient and a difference. In machine words the product
may leave the range if the bar is wide enough, and the difference would if more cells were filled
than there are. The percentage is cut off at a hundred before it is multiplied, so neither happens
for a bar of which a hundredfold is still a word. The cells are then those of the exact quotient,
rounded down: no fewer for a greater percentage or a wider bar, and all from a hundred per cent
on, but not before.
-/
namespace CodeGrowth.Display

section FilledCells
variable {percent percent' width width' : Nat}

/-- The quotient is rounded down. -/
lemma filledCells_floor (percent width : Nat) :
    100 * filledCells percent width ≤ min percent 100 * width ∧
      min percent 100 * width < 100 * (filledCells percent width + 1) := by
  rw [filledCells]
  omega

lemma filledCells_mono (hpercent : percent ≤ percent') (hwidth : width ≤ width') :
    filledCells percent width ≤ filledCells percent' width' := by
  have hshare : min percent 100 ≤ min percent' 100 := by omega
  exact Nat.div_le_div_right (Nat.mul_le_mul hshare hwidth)

lemma filledCells_eq_width_iff (h : 0 < width) :
    filledCells percent width = width ↔ 100 ≤ percent := by
  obtain ⟨hfloor, -⟩ := filledCells_floor percent width
  constructor
  · intro hfull
    rw [hfull] at hfloor
    have hshare : 100 ≤ min percent 100 := Nat.le_of_mul_le_mul_right hfloor h
    omega
  · intro hpercent
    rw [filledCells, Nat.min_eq_right hpercent, Nat.mul_div_cancel_left width (by decide)]

end FilledCells

/-- The filled and the empty cells of a bar, counted in machine words. None if the product or the
difference leaves their range. -/
def countedCells? (percent : UInt32) (width : UInt64) : Option (UInt64 × UInt64) :=
  let share := (min percent 100).toUInt64
  if share.toBitVec.umulOverflow width.toBitVec then none
  else
    let filled := share * width / 100
    if width.toBitVec.usubOverflow filled.toBitVec then none else some (filled, width - filled)

/-- A run of full cells and one of blank ones between the edges, and the figure. -/
def gaugeText (full blank : Char) (filled empty : UInt64) (percent : UInt32) : List Char :=
  ['│'] ++ (List.replicate filled.toNat full ++ List.replicate empty.toNat blank) ++ "│ ".toList ++
    percent.toNat.repr.toList ++ ['%']

section Words
variable {percent : UInt32} {width filled empty : UInt64}

/-- The percentage that is multiplied. -/
lemma toNat_share (percent : UInt32) :
    (min percent 100).toUInt64.toNat = min percent.toNat 100 := by
  rw [UInt32.toNat_toUInt64, UInt32.toNat_min]
  rfl

lemma share_mul_lt (percent : UInt32) (h : 100 * width.toNat < UInt64.size) :
    (min percent 100).toUInt64.toNat * width.toNat < UInt64.size := by
  rw [toNat_share]
  exact (Nat.mul_le_mul_right _ (Nat.min_le_right _ _)).trans_lt h

lemma toNat_share_mul_div (percent : UInt32) (h : 100 * width.toNat < UInt64.size) :
    ((min percent 100).toUInt64 * width / 100).toNat =
      filledCells percent.toNat width.toNat := by
  rw [UInt64.toNat_div, UInt64.toNat_mul, Nat.mod_eq_of_lt (share_mul_lt percent h), toNat_share]
  rfl

/-- No step leaves the range, and the words stand for the cells of the bar. -/
lemma exists_countedCells? (percent : UInt32) (h : 100 * width.toNat < UInt64.size) :
    ∃ filled empty : UInt64, countedCells? percent width = some (filled, empty) ∧
      filled.toNat = filledCells percent.toNat width.toNat ∧
      empty.toNat = width.toNat - filledCells percent.toNat width.toNat := by
  have hfilled := toNat_share_mul_div percent h
  have hle : ((min percent 100).toUInt64 * width / 100).toNat ≤ width.toNat := by
    rw [hfilled]
    exact filledCells_le percent.toNat width.toNat
  have hmul : (min percent 100).toUInt64.toBitVec.umulOverflow width.toBitVec = false :=
    decide_eq_false (Nat.not_le.2 (share_mul_lt percent h))
  have hsub : width.toBitVec.usubOverflow
      ((min percent 100).toUInt64 * width / 100).toBitVec = false :=
    decide_eq_false (Nat.not_lt.2 hle)
  have hempty := UInt64.toNat_sub_of_le _ _ (UInt64.le_iff_toNat_le.2 hle)
  rw [hfilled] at hempty
  refine ⟨_, _, ?_, hfilled, hempty⟩
  simp only [countedCells?, hmul, hsub, Bool.false_eq_true, if_false]

/-- The bar and the figure, whatever the cells look like. -/
lemma framed_bar (hfilled : filled.toNat = filledCells percent.toNat width.toNat)
    (hempty : empty.toNat = width.toNat - filledCells percent.toNat width.toNat)
    (full blank : Char) : framed (bar full blank percent.toNat width.toNat) percent.toNat =
      gaugeText full blank filled empty percent := by
  rw [framed, bar, gaugeText, hfilled, hempty, Nat.toList_repr]
  rfl

end Words

/-- No cell takes more than four bytes. -/
lemma byteLength_bar_le (full blank : Char) (percent width : Nat) :
    byteLength (bar full blank percent width) ≤ 4 * width := by
  have hfull := Nat.mul_le_mul_left (filledCells percent width) full.utf8Size_le_four
  have hblank :=
    Nat.mul_le_mul_left (width - filledCells percent width) blank.utf8Size_le_four
  have hle := filledCells_le percent width
  rw [bar, byteLength_append, byteLength_replicate, byteLength_replicate]
  omega

namespace Writer

lemma gauge_withoutColours (width percent : Nat) :
    (withoutColours width).gauge percent = framed (bar '█' '░' percent width) percent := by
  show framed (padded 0 (bar '█' '░' percent width)) percent = _
  rw [padded_zero]

/-- A gauge of any width of which a hundredfold is a word. Its cells are counted without leaving the
range of the words, and the same ones are filled in every format. -/
theorem gauge_counted (percent : UInt32) (width : UInt64) (h : 100 * width.toNat < UInt64.size) :
    (∃ filled empty : UInt64, countedCells? percent width = some (filled, empty) ∧
      filled.toNat + empty.toNat = width.toNat ∧
      (100 * filled.toNat ≤ min percent.toNat 100 * width.toNat ∧
        min percent.toNat 100 * width.toNat < 100 * (filled.toNat + 1)) ∧
      (0 < width → (filled = width ↔ 100 ≤ percent)) ∧
      (∀ percent' width', percent' ≤ percent → width' ≤ width →
        ∃ filled' empty', countedCells? percent' width' = some (filled', empty') ∧
          filled' ≤ filled) ∧
      (∀ colours, (Writer.mk .plain width.toNat colours).gauge percent.toNat =
        gaugeText '#' '-' filled empty percent) ∧
      (withoutColours width.toNat).gauge percent.toNat = gaugeText '█' '░' filled empty percent ∧
      uncoloured ((inColours width.toNat).gauge percent.toNat) =
        gaugeText '█' '░' filled empty percent) ∧
    (∀ full blank, byteLength (bar full blank percent.toNat width.toNat) < UInt64.size / 2) ∧
    ∀ reason files path config event, Config.load reason files path = .ok (config, event) →
      100 * config.gaugeWidth < UInt64.size := by
  obtain ⟨filled, empty, hcounted, hfilled, hempty⟩ := exists_countedCells? percent h
  have hle := filledCells_le percent.toNat width.toNat
  have hbare := (gauge_withoutColours width.toNat percent.toNat).trans
    (framed_bar hfilled hempty '█' '░')
  refine ⟨⟨filled, empty, hcounted, by omega, ?_, ?_, ?_, ?_, hbare, ?_⟩, ?_, ?_⟩
  · rw [hfilled]
    exact filledCells_floor percent.toNat width.toNat
  · intro hwidth
    rw [← UInt64.toNat_inj, hfilled, UInt32.le_iff_toNat_le]
    exact filledCells_eq_width_iff (UInt64.lt_iff_toNat_lt.1 hwidth)
  · intro percent' width' hpercent hwidth
    rw [UInt32.le_iff_toNat_le] at hpercent
    rw [UInt64.le_iff_toNat_le] at hwidth
    have hbound : 100 * width'.toNat < UInt64.size := by omega
    obtain ⟨filled', empty', hcounted', hfilled', -⟩ := exists_countedCells? percent' hbound
    refine ⟨filled', empty', hcounted', ?_⟩
    rw [UInt64.le_iff_toNat_le, hfilled, hfilled']
    exact filledCells_mono hpercent hwidth
  · exact fun _ => framed_bar hfilled hempty '#' '-'
  · exact (decorates_gauge width.toNat percent.toNat).uncoloured_eq.trans hbare
  · intro full blank
    have hbytes := byteLength_bar_le full blank percent.toNat width.toNat
    have hsize : UInt64.size / 2 = 9223372036854775808 := rfl
    omega
  · intro reason files path config event hload
    obtain ⟨-, hwidth⟩ := Config.gaugeWidth_of_load hload
    exact (Nat.mul_le_mul_left 100 hwidth).trans_lt (by decide)

/-- The widest bar for which no percentage leaves the range. -/
theorem gauge_counted_widest :
    100 * (184467440737095516 : UInt64).toNat < UInt64.size ∧ (0 : UInt64) < 184467440737095516 ∧
      (33 : UInt32) ≤ 250 ∧ (7 : UInt64) ≤ 184467440737095516 ∧
      Config.load (fun _ => "") ⟨.root, []⟩ "config.json" =
        .ok (Config.standard, .configMissing "config.json") ∧
      (∃ empty, countedCells? 250 184467440737095516 = some (184467440737095516, empty) ∧
        (Writer.mk .plain (184467440737095516 : UInt64).toNat true).gauge 250 =
          gaugeText '#' '-' 184467440737095516 empty 250) ∧
      (∃ filled' empty', countedCells? 33 7 = some (filled', empty') ∧
        filled' ≤ 184467440737095516) ∧
      100 * Config.standard.gaugeWidth < UInt64.size := by
  have hwidth : 100 * (184467440737095516 : UInt64).toNat < UInt64.size := by decide
  have hload : Config.load (fun _ => "") ⟨.root, []⟩ "config.json" =
      .ok (Config.standard, .configMissing "config.json") := Config.load_of_not_has rfl
  obtain ⟨⟨filled, empty, hcounted, -, -, hfull, hmono, hplain, -⟩, -, hloads⟩ :=
    gauge_counted 250 184467440737095516 hwidth
  obtain rfl : filled = 184467440737095516 := (hfull (by decide)).2 (by decide)
  exact ⟨hwidth, by decide, by decide, by decide, hload, ⟨empty, hcounted, hplain true⟩,
    hmono 33 7 (by decide) (by decide), hloads _ _ _ _ _ hload⟩

/-- One cell more, and the product is no longer a word. -/
example : countedCells? 100 184467440737095517 = none := by decide

end Writer

end CodeGrowth.Display
