import Xlsx.Style.Types

namespace Xlsx

variable {Parsed : Type}

/-- One of the five interned tables of the style sheet: its `Equals`, its `Count` and slice
fields, and how the `add` function stores them back. -/
structure StyleTable (Parsed α : Type) where
  equals : α → α → Bool
  count : xlsxStyleSheet Parsed → Int
  entries : xlsxStyleSheet Parsed → List α
  store : xlsxStyleSheet Parsed → Int → List α → xlsxStyleSheet Parsed
  count_store : ∀ styles c l, count (store styles c l) = c
  entries_store : ∀ styles c l, entries (store styles c l) = l
  store_store : ∀ styles c l c' l', store (store styles c l) c' l' = store styles c' l'

/-- The loop shared by `addFont`, `addFill`, `addBorder`, `addCellStyleXf` and `addCellXf`:
the index of the first entry `Equals` to the candidate, else the old `Count`, with the
candidate appended and `Count` incremented. -/
def StyleTable.add {α : Type} (table : StyleTable Parsed α) (styles : xlsxStyleSheet Parsed)
    (x : α) : Int × xlsxStyleSheet Parsed :=
  match (table.entries styles).findIdx? (table.equals · x) with
  | some index => (index, styles)
  | none => (table.count styles, table.store styles (table.count styles + 1) (table.entries styles ++ [x]))

def fontTable : StyleTable Parsed xlsxFont where
  equals := xlsxFont.Equals
  count styles := styles.Fonts.Count
  entries styles := styles.Fonts.Font
  store styles c l := { styles with Fonts := { Count := c, Font := l } }
  count_store _ _ _ := rfl
  entries_store _ _ _ := rfl
  store_store _ _ _ _ _ := rfl

def fillTable : StyleTable Parsed xlsxFill where
  equals := xlsxFill.Equals
  count styles := styles.Fills.Count
  entries styles := styles.Fills.Fill
  store styles c l := { styles with Fills := { Count := c, Fill := l } }
  count_store _ _ _ := rfl
  entries_store _ _ _ := rfl
  store_store _ _ _ _ _ := rfl

def borderTable : StyleTable Parsed xlsxBorder where
  equals := xlsxBorder.Equals
  count styles := styles.Borders.Count
  entries styles := styles.Borders.Border
  store styles c l := { styles with Borders := { Count := c, Border := l } }
  count_store _ _ _ := rfl
  entries_store _ _ _ := rfl
  store_store _ _ _ _ _ := rfl

/-- `CellStyleXfs` is a pointer; a nil table reads as the empty one. -/
def cellStyleXfTable : StyleTable Parsed xlsxXf where
  equals := xlsxXf.Equals
  count styles := (styles.CellStyleXfs.getD {}).Count
  entries styles := (styles.CellStyleXfs.getD {}).Xf
  store styles c l := { styles with CellStyleXfs := some { Count := c, Xf := l } }
  count_store _ _ _ := rfl
  entries_store _ _ _ := rfl
  store_store _ _ _ _ _ := rfl

def cellXfTable : StyleTable Parsed xlsxXf where
  equals := xlsxXf.Equals
  count styles := styles.CellXfs.Count
  entries styles := styles.CellXfs.Xf
  store styles c l := { styles with CellXfs := { Count := c, Xf := l } }
  count_store _ _ _ := rfl
  entries_store _ _ _ := rfl
  store_store _ _ _ _ _ := rfl

/-- A font without a name is never stored: `addFont` answers index 0 for it. -/
def addFont (styles : xlsxStyleSheet Parsed) (xFont : xlsxFont) : Int × xlsxStyleSheet Parsed :=
  if xFont.Name.Val = "" then (0, styles) else fontTable.add styles xFont

def addFill (styles : xlsxStyleSheet Parsed) (xFill : xlsxFill) : Int × xlsxStyleSheet Parsed :=
  fillTable.add styles xFill

def addBorder (styles : xlsxStyleSheet Parsed) (xBorder : xlsxBorder) :
    Int × xlsxStyleSheet Parsed :=
  borderTable.add styles xBorder

/-- A nil `CellStyleXfs` is replaced by an empty table before the search. -/
def addCellStyleXf (styles : xlsxStyleSheet Parsed) (xCellStyleXf : xlsxXf) :
    Int × xlsxStyleSheet Parsed :=
  let styles :=
    if styles.CellStyleXfs.isNone then { styles with CellStyleXfs := some { Count := 0 } } else styles
  cellStyleXfTable.add styles xCellStyleXf

def addCellXf (styles : xlsxStyleSheet Parsed) (xCellXf : xlsxXf) : Int × xlsxStyleSheet Parsed :=
  cellXfTable.add styles xCellXf

/-- `var defaultTheme int = 1`, the theme the default font points at. -/
def defaultTheme : Int := 1

/-- Microsoft seems to want Arial 11 defined by default. -/
def defaultFont : xlsxFont where
  Sz := ⟨"11"⟩
  Family := ⟨"2"⟩
  Color := { Theme := some defaultTheme }
  Name := ⟨"Arial"⟩
  Scheme := some ⟨"minor"⟩

def reset (styles : xlsxStyleSheet Parsed) : xlsxStyleSheet Parsed :=
  let styles := { styles with Fonts := {}, Fills := {}, Borders := {} }
  let styles := (addFont styles defaultFont).2
  let styles := (addFill styles { PatternFill := { PatternType := "none" } }).2
  let styles := (addFill styles { PatternFill := { PatternType := "gray125" } }).2
  let styles := (addBorder styles { Left := {}, Right := {}, Top := {}, Bottom := {} }).2
  { styles with
    CellStyleXfs := some { Count := 1, Xf := [{}] }
    CellXfs := { Count := 1, Xf := [{}] }
    NumFmts := some {}
    numFmtRefTable := none }

namespace StyleTable

variable {α : Type} (table : StyleTable Parsed α) (styles : xlsxStyleSheet Parsed) (x : α)

theorem add_of_found {index : Nat}
    (found : (table.entries styles).findIdx? (table.equals · x) = some index) :
    table.add styles x = ((index : Int), styles) := by
  simp [add, found]

theorem add_of_absent (absent : ∀ e ∈ table.entries styles, table.equals e x = false) :
    table.add styles x = (table.count styles,
      table.store styles (table.count styles + 1) (table.entries styles ++ [x])) := by
  simp [add, List.findIdx?_eq_none_iff.mpr absent]

/-- The contract of one `add` call: an index below the new `Count` whose entry is
`Equals` to the candidate, no change when a match existed, an append of exactly the
candidate otherwise, and the same answer with no change on a repeated call. -/
def AddSpec (add : xlsxStyleSheet Parsed → α → Int × xlsxStyleSheet Parsed) : Prop :=
  0 ≤ (add styles x).1 ∧ (add styles x).1 < table.count (add styles x).2 ∧
  (∃ e, (table.entries (add styles x).2)[(add styles x).1.toNat]? = some e ∧
    table.equals e x = true) ∧
  ((∃ e ∈ table.entries styles, table.equals e x = true) → (add styles x).2 = styles) ∧
  ((∀ e ∈ table.entries styles, table.equals e x = false) →
    (add styles x).2 = table.store styles (table.count styles + 1) (table.entries styles ++ [x])) ∧
  add (add styles x).2 x = add styles x

def Interned : Prop :=
  table.count styles = (table.entries styles).length ∧ table.entries styles ≠ [] ∧
    (table.entries styles).Pairwise fun a b => table.equals a b = false ∧ table.equals b a = false

/-- Adding `x` and then `y` answers one index exactly when `x` and `y` are `Equals`, and the
entry at the index answered for `y` is `Equals` to `y`. -/
def InternsByEquals (add : xlsxStyleSheet Parsed → α → Int × xlsxStyleSheet Parsed) (y : α) : Prop :=
  ((add (add styles x).2 y).1 = (add styles x).1 ↔ table.equals x y = true) ∧
    ∃ e, (table.entries (add (add styles x).2 y).2)[(add (add styles x).2 y).1.toNat]? = some e ∧
      table.equals e y = true

variable {table styles x}

theorem add_spec (refl : ∀ a, table.equals a a = true)
    (agree : table.count styles = (table.entries styles).length) :
    table.AddSpec styles x table.add := by
  by_cases found : ∃ e ∈ table.entries styles, table.equals e x = true
  · obtain ⟨index, hidx⟩ : ∃ index, (table.entries styles).findIdx? (table.equals · x) = some index := by
      apply Option.ne_none_iff_exists'.mp
      intro none
      obtain ⟨e, member, same⟩ := found
      simp [List.findIdx?_eq_none_iff.mp none e member] at same
    obtain ⟨bound, hit, -⟩ := List.findIdx?_eq_some_iff_getElem.mp hidx
    unfold AddSpec
    rw [add_of_found table styles x hidx]
    refine ⟨by omega, by simp only [Int.toNat_ofNat]; omega, ⟨_, by simp [bound], hit⟩, fun _ => rfl,
      fun absent => ?_, by rw [add_of_found table styles x hidx]⟩
    simp [absent _ (List.getElem_mem bound)] at hit
  · have absent : ∀ e ∈ table.entries styles, table.equals e x = false := by
      simpa using found
    have again : (table.entries styles ++ [x]).findIdx? (table.equals · x) =
        some (table.entries styles).length := by
      simp [List.findIdx?_append, List.findIdx?_eq_none_iff.mpr absent, refl]
    unfold AddSpec
    rw [add_of_absent table styles x absent]
    refine ⟨by omega, by rw [table.count_store]; omega, ⟨x, by simp [table.entries_store, agree], refl x⟩,
      fun ⟨e, member, same⟩ => by simp [absent e member] at same, fun _ => rfl, ?_⟩
    rw [add_of_found table _ x (by rwa [table.entries_store]), ← agree]

theorem add_agrees (agree : table.count styles = (table.entries styles).length) :
    table.count (table.add styles x).2 = (table.entries (table.add styles x).2).length := by
  unfold add
  split
  · exact agree
  · simp [table.count_store, table.entries_store, agree]

theorem add_interned (refl : ∀ a, table.equals a a = true)
    (symm : ∀ a b, table.equals a b = table.equals b a) (inv : table.Interned styles) :
    table.Interned (table.add styles x).2 := by
  obtain ⟨agree, nonempty, distinct⟩ := inv
  have spec : table.AddSpec styles x table.add := add_spec refl agree
  refine ⟨add_agrees agree, ?_⟩
  by_cases found : ∃ e ∈ table.entries styles, table.equals e x = true
  · rw [spec.2.2.2.1 found]
    exact ⟨nonempty, distinct⟩
  · have absent : ∀ e ∈ table.entries styles, table.equals e x = false := by simpa using found
    rw [spec.2.2.2.2.1 absent, table.entries_store, List.pairwise_append]
    refine ⟨by simp, distinct, by simp, fun a member b same => ?_⟩
    rw [List.mem_singleton.mp same]
    exact ⟨absent a member, by rw [symm]; exact absent a member⟩

theorem add_findIdx (refl : ∀ a, table.equals a a = true)
    (agree : table.count styles = (table.entries styles).length) :
    (table.entries (table.add styles x).2).findIdx? (table.equals · x) = some (table.add styles x).1.toNat := by
  cases found : (table.entries styles).findIdx? (table.equals · x) with
  | some index =>
    rw [add_of_found table styles x found]
    simpa using found
  | none =>
    rw [add_of_absent table styles x (List.findIdx?_eq_none_iff.mp found), table.entries_store, agree]
    simp [List.findIdx?_append, found, refl]

theorem InternsByEquals.of_eq {add add' : xlsxStyleSheet Parsed → α → Int × xlsxStyleSheet Parsed} {y : α}
    (first : add styles x = add' styles x) (second : add (add' styles x).2 y = add' (add' styles x).2 y)
    (spec : table.InternsByEquals styles x add' y) : table.InternsByEquals styles x add y := by
  unfold InternsByEquals at spec ⊢
  rw [first, second]
  exact spec

theorem interns_by_equals (refl : ∀ a, table.equals a a = true)
    (symm : ∀ a b, table.equals a b = table.equals b a)
    (trans : ∀ a b c, table.equals a b = true → table.equals b c = true → table.equals a c = true)
    (inv : table.Interned styles) (y : α) : table.InternsByEquals styles x table.add y := by
  have spec : table.AddSpec styles x table.add := add_spec refl inv.1
  have first : (table.entries (table.add styles x).2).findIdx? (table.equals · x) =
      some (table.add styles x).1.toNat := add_findIdx refl inv.1
  obtain ⟨bound, hitX, -⟩ := List.findIdx?_eq_some_iff_getElem.mp first
  refine ⟨⟨fun same => ?_, fun xy => ?_⟩, (add_spec refl (add_agrees inv.1)).2.2.1⟩
  · cases foundY : (table.entries (table.add styles x).2).findIdx? (table.equals · y) with
    | some index =>
      rw [add_of_found _ _ y foundY] at same
      obtain ⟨_, hitY, -⟩ := List.findIdx?_eq_some_iff_getElem.mp foundY
      obtain rfl : index = (table.add styles x).1.toNat := by omega
      exact trans _ _ _ (by rw [symm]; exact hitX) hitY
    | none =>
      rw [add_of_absent _ _ y (List.findIdx?_eq_none_iff.mp foundY), add_agrees inv.1] at same
      omega
  · have sameTest : (table.equals · y) = (table.equals · x) := by
      funext a
      exact Bool.eq_iff_iff.mpr ⟨fun ay => trans _ _ _ ay (by rw [symm]; exact xy), fun ax => trans _ _ _ ax xy⟩
    rw [add_of_found _ _ y (by rw [sameTest]; exact first)]
    exact Int.toNat_of_nonneg spec.1

end StyleTable

theorem xlsxFont.Equals_refl (font : xlsxFont) : font.Equals font = true := by
  simp [xlsxFont.Equals, xlsxVal.Equals, xlsxColor.Equals]

theorem xlsxFont.Equals_comm (font other : xlsxFont) : font.Equals other = other.Equals font := by
  simp only [xlsxFont.Equals, xlsxVal.Equals, xlsxColor.Equals, Bool.beq_comm]

theorem xlsxFill.Equals_refl (fill : xlsxFill) : fill.Equals fill = true := by
  simp [xlsxFill.Equals, xlsxPatternFill.Equals, xlsxColor.Equals]

theorem xlsxFill.Equals_comm (fill other : xlsxFill) : fill.Equals other = other.Equals fill := by
  simp only [xlsxFill.Equals, xlsxPatternFill.Equals, xlsxColor.Equals, Bool.beq_comm]

theorem xlsxBorder.Equals_refl (border : xlsxBorder) : border.Equals border = true := by
  simp [xlsxBorder.Equals, xlsxLine.Equals, xlsxColor.Equals]

theorem xlsxBorder.Equals_comm (border other : xlsxBorder) :
    border.Equals other = other.Equals border := by
  simp only [xlsxBorder.Equals, xlsxLine.Equals, xlsxColor.Equals, Bool.beq_comm]

theorem xlsxXf.Equals_refl (xf : xlsxXf) : xf.Equals xf = true := by
  simp [xlsxXf.Equals, xlsxAlignment.Equals]

theorem xlsxXf.Equals_comm (xf other : xlsxXf) : xf.Equals other = other.Equals xf := by
  simp only [xlsxXf.Equals, xlsxAlignment.Equals, Bool.beq_comm]

theorem xlsxFont.Equals_trans (font other third : xlsxFont) (first : font.Equals other = true)
    (second : other.Equals third = true) : font.Equals third = true := by
  simp_all [xlsxFont.Equals, xlsxVal.Equals, xlsxColor.Equals]

theorem xlsxFill.Equals_trans (fill other third : xlsxFill) (first : fill.Equals other = true)
    (second : other.Equals third = true) : fill.Equals third = true := by
  simp_all [xlsxFill.Equals, xlsxPatternFill.Equals, xlsxColor.Equals]

theorem xlsxBorder.Equals_trans (border other third : xlsxBorder) (first : border.Equals other = true)
    (second : other.Equals third = true) : border.Equals third = true := by
  simp_all [xlsxBorder.Equals, xlsxLine.Equals, xlsxColor.Equals]

theorem xlsxXf.Equals_trans (xf other third : xlsxXf) (first : xf.Equals other = true)
    (second : other.Equals third = true) : xf.Equals third = true := by
  simp_all [xlsxXf.Equals, xlsxAlignment.Equals]

end Xlsx
