import Xlsx.Style.Run

namespace Xlsx

variable {Parsed : Type}

namespace StyleTable

variable {α β : Type} {table : StyleTable Parsed α} {styles : xlsxStyleSheet Parsed} {x : α}

/-- Storing one table leaves what another table reads unchanged. -/
def Frames (table : StyleTable Parsed α) (other : StyleTable Parsed β) : Prop :=
  ∀ styles c l, other.count (table.store styles c l) = other.count styles ∧
    other.entries (table.store styles c l) = other.entries styles

theorem AddSpec.of_eq {add add' : xlsxStyleSheet Parsed → α → Int × xlsxStyleSheet Parsed}
    (first : add styles x = add' styles x) (again : add (add' styles x).2 x = add' (add' styles x).2 x)
    (spec : table.AddSpec styles x add') : table.AddSpec styles x add := by
  unfold AddSpec at spec ⊢
  rw [first, again]
  exact spec

end StyleTable

/-- A property of one table that depends only on its `Count` and entries, and that an
`add` on the table keeps when its `Equals` is reflexive and symmetric. -/
structure TableProperty (Parsed : Type) where
  holds : ∀ {α : Type}, StyleTable Parsed α → xlsxStyleSheet Parsed → Prop
  congr : ∀ {α : Type} (table : StyleTable Parsed α) (styles styles' : xlsxStyleSheet Parsed),
    table.count styles' = table.count styles → table.entries styles' = table.entries styles →
    holds table styles → holds table styles'
  add : ∀ {α : Type} (table : StyleTable Parsed α) (styles : xlsxStyleSheet Parsed) (x : α),
    (∀ a, table.equals a a = true) → (∀ a b, table.equals a b = table.equals b a) →
    holds table styles → holds table (table.add styles x).2

/-- The property for all five tables. -/
def AllTables (P : TableProperty Parsed) (styles : xlsxStyleSheet Parsed) : Prop :=
  P.holds fontTable styles ∧ P.holds fillTable styles ∧ P.holds borderTable styles ∧
    P.holds cellStyleXfTable styles ∧ P.holds cellXfTable styles

def agreesProperty : TableProperty Parsed where
  holds table styles := table.count styles = (table.entries styles).length
  congr _ _ _ count entries agree := by simp only [count, entries]; exact agree
  add _ _ _ _ _ agree := StyleTable.add_agrees agree

def internedProperty : TableProperty Parsed where
  holds table styles := table.Interned styles
  congr _ _ _ count entries inv := by simpa only [StyleTable.Interned, count, entries] using inv
  add _ _ _ refl symm inv := StyleTable.add_interned refl symm inv

/-- The interning invariant of all five tables. -/
def TablesInterned (styles : xlsxStyleSheet Parsed) : Prop := AllTables internedProperty styles

theorem TableProperty.add_frame (P : TableProperty Parsed) {α β : Type} {table : StyleTable Parsed α}
    {other : StyleTable Parsed β} {styles : xlsxStyleSheet Parsed} {x : α} (frames : table.Frames other)
    (holds : P.holds other styles) : P.holds other (table.add styles x).2 := by
  unfold StyleTable.add
  split
  · exact holds
  · obtain ⟨count, entries⟩ := frames styles (table.count styles + 1) (table.entries styles ++ [x])
    exact P.congr other _ _ count entries holds

theorem addFont_of_named {styles : xlsxStyleSheet Parsed} {xFont : xlsxFont}
    (named : xFont.Name.Val ≠ "") : addFont styles xFont = fontTable.add styles xFont := by
  simp [addFont, named]

theorem addCellStyleXf_of_some {styles : xlsxStyleSheet Parsed} {xf : xlsxXf}
    (present : styles.CellStyleXfs.isSome) :
    addCellStyleXf styles xf = cellStyleXfTable.add styles xf := by
  cases h : styles.CellStyleXfs
  · simp [h] at present
  · simp [addCellStyleXf, h]

theorem cellStyleXfs_isSome {styles : xlsxStyleSheet Parsed} (inv : cellStyleXfTable.Interned styles) :
    styles.CellStyleXfs.isSome := by
  obtain ⟨-, nonempty, -⟩ := inv
  cases h : styles.CellStyleXfs
  · simp [cellStyleXfTable, h] at nonempty
  · rfl

namespace AllTables

variable {P : TableProperty Parsed} {styles : xlsxStyleSheet Parsed}

theorem of_same_tables {styles' : xlsxStyleSheet Parsed} (inv : AllTables P styles)
    (fonts : styles'.Fonts = styles.Fonts) (fills : styles'.Fills = styles.Fills)
    (borders : styles'.Borders = styles.Borders)
    (cellStyleXfs : styles'.CellStyleXfs = styles.CellStyleXfs) (cellXfs : styles'.CellXfs = styles.CellXfs) :
    AllTables P styles' := by
  obtain ⟨hFonts, hFills, hBorders, hCellStyleXfs, hCellXfs⟩ := inv
  refine ⟨P.congr _ _ _ ?_ ?_ hFonts, P.congr _ _ _ ?_ ?_ hFills, P.congr _ _ _ ?_ ?_ hBorders,
    P.congr _ _ _ ?_ ?_ hCellStyleXfs, P.congr _ _ _ ?_ ?_ hCellXfs⟩ <;>
    simp only [fontTable, fillTable, borderTable, cellStyleXfTable, cellXfTable, fonts, fills, borders,
      cellStyleXfs, cellXfs]

theorem addFont (inv : AllTables P styles) (xFont : xlsxFont) : AllTables P (addFont styles xFont).2 := by
  by_cases named : xFont.Name.Val = ""
  · simpa [Xlsx.addFont, named] using inv
  rw [addFont_of_named named]
  obtain ⟨fonts, fills, borders, cellStyleXfs, cellXfs⟩ := inv
  exact ⟨P.add _ _ _ xlsxFont.Equals_refl xlsxFont.Equals_comm fonts,
    P.add_frame (fun _ _ _ => ⟨rfl, rfl⟩) fills, P.add_frame (fun _ _ _ => ⟨rfl, rfl⟩) borders,
    P.add_frame (fun _ _ _ => ⟨rfl, rfl⟩) cellStyleXfs, P.add_frame (fun _ _ _ => ⟨rfl, rfl⟩) cellXfs⟩

theorem addFill (inv : AllTables P styles) (xFill : xlsxFill) : AllTables P (addFill styles xFill).2 := by
  obtain ⟨fonts, fills, borders, cellStyleXfs, cellXfs⟩ := inv
  exact ⟨P.add_frame (fun _ _ _ => ⟨rfl, rfl⟩) fonts,
    P.add _ _ _ xlsxFill.Equals_refl xlsxFill.Equals_comm fills,
    P.add_frame (fun _ _ _ => ⟨rfl, rfl⟩) borders,
    P.add_frame (fun _ _ _ => ⟨rfl, rfl⟩) cellStyleXfs, P.add_frame (fun _ _ _ => ⟨rfl, rfl⟩) cellXfs⟩

theorem addBorder (inv : AllTables P styles) (xBorder : xlsxBorder) :
    AllTables P (addBorder styles xBorder).2 := by
  obtain ⟨fonts, fills, borders, cellStyleXfs, cellXfs⟩ := inv
  exact ⟨P.add_frame (fun _ _ _ => ⟨rfl, rfl⟩) fonts, P.add_frame (fun _ _ _ => ⟨rfl, rfl⟩) fills,
    P.add _ _ _ xlsxBorder.Equals_refl xlsxBorder.Equals_comm borders,
    P.add_frame (fun _ _ _ => ⟨rfl, rfl⟩) cellStyleXfs, P.add_frame (fun _ _ _ => ⟨rfl, rfl⟩) cellXfs⟩

theorem addCellStyleXf (inv : AllTables P styles) (xf : xlsxXf) :
    AllTables P (addCellStyleXf styles xf).2 := by
  have started : AllTables P
      (if styles.CellStyleXfs.isNone then { styles with CellStyleXfs := some { Count := 0 } } else styles) := by
    split
    · rename_i nil
      have nil : styles.CellStyleXfs = none := Option.isNone_iff_eq_none.mp nil
      obtain ⟨fonts, fills, borders, cellStyleXfs, cellXfs⟩ := inv
      exact ⟨P.congr _ styles _ rfl rfl fonts, P.congr _ styles _ rfl rfl fills,
        P.congr _ styles _ rfl rfl borders,
        P.congr _ styles _ (by simp [cellStyleXfTable, nil]) (by simp [cellStyleXfTable, nil]) cellStyleXfs,
        P.congr _ styles _ rfl rfl cellXfs⟩
    · exact inv
  obtain ⟨fonts, fills, borders, cellStyleXfs, cellXfs⟩ := started
  exact ⟨P.add_frame (fun _ _ _ => ⟨rfl, rfl⟩) fonts, P.add_frame (fun _ _ _ => ⟨rfl, rfl⟩) fills,
    P.add_frame (fun _ _ _ => ⟨rfl, rfl⟩) borders,
    P.add _ _ _ xlsxXf.Equals_refl xlsxXf.Equals_comm cellStyleXfs,
    P.add_frame (fun _ _ _ => ⟨rfl, rfl⟩) cellXfs⟩

theorem addCellXf (inv : AllTables P styles) (xf : xlsxXf) : AllTables P (addCellXf styles xf).2 := by
  obtain ⟨fonts, fills, borders, cellStyleXfs, cellXfs⟩ := inv
  exact ⟨P.add_frame (fun _ _ _ => ⟨rfl, rfl⟩) fonts, P.add_frame (fun _ _ _ => ⟨rfl, rfl⟩) fills,
    P.add_frame (fun _ _ _ => ⟨rfl, rfl⟩) borders,
    P.add_frame (fun _ _ _ => ⟨rfl, rfl⟩) cellStyleXfs,
    P.add _ _ _ xlsxXf.Equals_refl xlsxXf.Equals_comm cellXfs⟩

theorem step {lib : Collaborators Parsed} {styles' : xlsxStyleSheet Parsed} {op : StyleOp}
    (kept : op ≠ .reset) (inv : AllTables P styles) (ran : op.run lib styles = .ok styles') :
    AllTables P styles' := by
  cases op <;> simp only [StyleOp.run, pure, Except.pure, Except.ok.injEq] at ran <;> subst_vars
  · exact absurd rfl kept
  · exact inv.addFont _
  · exact inv.addFill _
  · exact inv.addBorder _
  · exact inv.addCellStyleXf _
  · exact inv.addCellXf _
  · obtain ⟨_, _, same⟩ := addNumFmt_frame styles ‹_›
    rw [same]
    exact inv.of_same_tables rfl rfl rfl rfl rfl
  · obtain ⟨_, _, same⟩ := newNumFmt_frame styles ‹_›
    rw [same]
    exact inv.of_same_tables rfl rfl rfl rfl rfl
  · obtain ⟨⟨_, _⟩, got, rfl⟩ := except_map_ok ran
    obtain ⟨_, rfl⟩ := getStyle_frame got
    exact inv.of_same_tables rfl rfl rfl rfl rfl
  · obtain ⟨⟨_, _⟩, got, rfl⟩ := except_map_ok ran
    obtain ⟨_, rfl⟩ := getNumberFormat_frame got
    exact inv.of_same_tables rfl rfl rfl rfl rfl

end AllTables

theorem reset_interned (styles : xlsxStyleSheet Parsed) : TablesInterned (reset styles) := by
  refine ⟨?_, ?_, ?_, ?_, ?_⟩ <;>
    simp [internedProperty, StyleTable.Interned, reset, addFont, addFill, addBorder, defaultFont,
      StyleTable.add, fontTable, fillTable, borderTable, cellStyleXfTable, cellXfTable,
      xlsxFill.Equals, xlsxPatternFill.Equals]

theorem TablesInterned.step {lib : Collaborators Parsed} {styles styles' : xlsxStyleSheet Parsed}
    (op : StyleOp) (inv : TablesInterned styles) (ran : op.run lib styles = .ok styles') :
    TablesInterned styles' := by
  by_cases kept : op = .reset
  · subst kept
    cases ran
    exact reset_interned styles
  · exact AllTables.step kept inv ran

theorem AllTables.imp {P Q : TableProperty Parsed} {styles : xlsxStyleSheet Parsed}
    (inv : AllTables P styles)
    (imp : ∀ {α : Type} (table : StyleTable Parsed α), P.holds table styles → Q.holds table styles) :
    AllTables Q styles :=
  ⟨imp _ inv.1, imp _ inv.2.1, imp _ inv.2.2.1, imp _ inv.2.2.2.1, imp _ inv.2.2.2.2⟩

def TablesAgree (styles : xlsxStyleSheet Parsed) : Prop := AllTables agreesProperty styles

theorem TablesAgree.step {lib : Collaborators Parsed} {styles styles' : xlsxStyleSheet Parsed}
    (op : StyleOp) (inv : TablesAgree styles) (ran : op.run lib styles = .ok styles') :
    TablesAgree styles' := by
  by_cases kept : op = .reset
  · subst kept
    cases ran
    exact AllTables.imp (reset_interned styles) fun _ interned => interned.1
  · exact AllTables.step kept inv ran

/-- Interning invariant: after `newXlsxStyleSheet` and `reset`, whatever operations follow,
each of the five tables has `Count` equal to its length, is not empty and holds no two
`Equals` entries; and each `add` answers an index below `Count` whose entry is `Equals` to
the candidate, changes nothing when such an entry existed, appends exactly the candidate
otherwise, and answers the same with no change when repeated. -/
theorem TablesInterned.of_reach {lib : Collaborators Parsed} {t : Option theme}
    {styles : xlsxStyleSheet Parsed}
    (reach : Relation.ReflTransGen (StyleStep lib) (reset (newXlsxStyleSheet t)) styles) :
    TablesInterned styles :=
  StyleStep.invariant reach (reset_interned _) fun op inv ran => inv.step op ran

theorem style_tables_interned (lib : Collaborators Parsed) (t : Option theme)
    (styles : xlsxStyleSheet Parsed)
    (reach : Relation.ReflTransGen (StyleStep lib) (reset (newXlsxStyleSheet t)) styles) :
    TablesInterned styles ∧
      (∀ xFont, xFont.Name.Val ≠ "" → fontTable.AddSpec styles xFont addFont) ∧
      (∀ xFill, fillTable.AddSpec styles xFill addFill) ∧
      (∀ xBorder, borderTable.AddSpec styles xBorder addBorder) ∧
      (∀ xf, cellStyleXfTable.AddSpec styles xf addCellStyleXf) ∧
      (∀ xf, cellXfTable.AddSpec styles xf addCellXf) := by
  obtain ⟨fonts, fills, borders, cellStyleXfs, cellXfs⟩ := TablesInterned.of_reach reach
  refine ⟨⟨fonts, fills, borders, cellStyleXfs, cellXfs⟩, fun xFont named => ?_,
    fun _ => StyleTable.add_spec xlsxFill.Equals_refl fills.1,
    fun _ => StyleTable.add_spec xlsxBorder.Equals_refl borders.1, fun xf => ?_,
    fun _ => StyleTable.add_spec xlsxXf.Equals_refl cellXfs.1⟩
  · exact StyleTable.AddSpec.of_eq (addFont_of_named named) (addFont_of_named named)
      (StyleTable.add_spec xlsxFont.Equals_refl fonts.1)
  · have later : cellStyleXfTable.Interned (cellStyleXfTable.add styles xf).2 :=
      StyleTable.add_interned xlsxXf.Equals_refl xlsxXf.Equals_comm cellStyleXfs
    exact StyleTable.AddSpec.of_eq (addCellStyleXf_of_some (cellStyleXfs_isSome cellStyleXfs))
      (addCellStyleXf_of_some (cellStyleXfs_isSome later))
      (StyleTable.add_spec xlsxXf.Equals_refl cellStyleXfs.1)

theorem style_tables_interned_after_reset :
    let lib : Collaborators Unit := ⟨fun _ => 0, fun _ => 0, fun _ => ()⟩
    let styles : xlsxStyleSheet Unit := reset (newXlsxStyleSheet none)
    Relation.ReflTransGen (StyleStep lib) (reset (newXlsxStyleSheet none)) styles ∧
      TablesInterned styles ∧
      (∀ xFont, xFont.Name.Val ≠ "" → fontTable.AddSpec styles xFont addFont) ∧
      (∀ xFill, fillTable.AddSpec styles xFill addFill) ∧
      (∀ xBorder, borderTable.AddSpec styles xBorder addBorder) ∧
      (∀ xf, cellStyleXfTable.AddSpec styles xf addCellStyleXf) ∧
      (∀ xf, cellXfTable.AddSpec styles xf addCellXf) :=
  ⟨.refl, style_tables_interned ⟨fun _ => 0, fun _ => 0, fun _ => ()⟩ none _ .refl⟩

/-- Interning dedups by each table's `Equals`: on every reachable sheet, adding `x` and then
`y` answers one index exactly when `x` and `y` are `Equals`. -/
theorem style_tables_intern_by_equals (lib : Collaborators Parsed) (t : Option theme)
    (styles : xlsxStyleSheet Parsed)
    (reach : Relation.ReflTransGen (StyleStep lib) (reset (newXlsxStyleSheet t)) styles) :
    (∀ x y : xlsxFont, x.Name.Val ≠ "" → y.Name.Val ≠ "" → fontTable.InternsByEquals styles x addFont y) ∧
      (∀ x y, fillTable.InternsByEquals styles x addFill y) ∧
      (∀ x y, borderTable.InternsByEquals styles x addBorder y) ∧
      (∀ x y, cellStyleXfTable.InternsByEquals styles x addCellStyleXf y) ∧
      (∀ x y, cellXfTable.InternsByEquals styles x addCellXf y) := by
  obtain ⟨fonts, fills, borders, cellStyleXfs, cellXfs⟩ := TablesInterned.of_reach reach
  refine ⟨fun x y xNamed yNamed => ?_,
    fun _ y => StyleTable.interns_by_equals xlsxFill.Equals_refl xlsxFill.Equals_comm xlsxFill.Equals_trans fills y,
    fun _ y => StyleTable.interns_by_equals xlsxBorder.Equals_refl xlsxBorder.Equals_comm
      xlsxBorder.Equals_trans borders y, fun x y => ?_,
    fun _ y => StyleTable.interns_by_equals xlsxXf.Equals_refl xlsxXf.Equals_comm xlsxXf.Equals_trans cellXfs y⟩
  · exact StyleTable.InternsByEquals.of_eq (addFont_of_named xNamed) (addFont_of_named yNamed)
      (StyleTable.interns_by_equals xlsxFont.Equals_refl xlsxFont.Equals_comm xlsxFont.Equals_trans fonts y)
  · have later : cellStyleXfTable.Interned (cellStyleXfTable.add styles x).2 :=
      StyleTable.add_interned xlsxXf.Equals_refl xlsxXf.Equals_comm cellStyleXfs
    exact StyleTable.InternsByEquals.of_eq (addCellStyleXf_of_some (cellStyleXfs_isSome cellStyleXfs))
      (addCellStyleXf_of_some (cellStyleXfs_isSome later))
      (StyleTable.interns_by_equals xlsxXf.Equals_refl xlsxXf.Equals_comm xlsxXf.Equals_trans cellStyleXfs y)

theorem style_tables_intern_by_equals_after_addFont :
    let lib : Collaborators Unit := ⟨fun _ => 0, fun _ => 0, fun _ => ()⟩
    let styles : xlsxStyleSheet Unit := (addFont (reset (newXlsxStyleSheet none)) { defaultFont with Sz := ⟨"12"⟩ }).2
    Relation.ReflTransGen (StyleStep lib) (reset (newXlsxStyleSheet none)) styles ∧
      (∀ x y : xlsxFont, x.Name.Val ≠ "" → y.Name.Val ≠ "" → fontTable.InternsByEquals styles x addFont y) ∧
      (∀ x y, fillTable.InternsByEquals styles x addFill y) ∧
      (∀ x y, borderTable.InternsByEquals styles x addBorder y) ∧
      (∀ x y, cellStyleXfTable.InternsByEquals styles x addCellStyleXf y) ∧
      (∀ x y, cellXfTable.InternsByEquals styles x addCellXf y) :=
  ⟨.single ⟨.addFont _, rfl⟩,
    style_tables_intern_by_equals ⟨fun _ => 0, fun _ => 0, fun _ => ()⟩ none _ (.single ⟨.addFont _, rfl⟩)⟩

/-- Arial 12 added after `reset`, then the same font struck through and the same font in theme
colour 4. `xlsxFont.Equals` does not compare `Strike` and compares colours by their `RGB` only, so
both later calls answer the first font's index and store nothing: the entry at that index is
neither struck through nor in colour 4. -/
theorem addFont_ignores_strike :
    let lib : Collaborators Unit := ⟨fun _ => 0, fun _ => 0, fun _ => ()⟩
    let arial12 : xlsxFont := { defaultFont with Sz := ⟨"12"⟩ }
    let styles := (addFont (reset (newXlsxStyleSheet none : xlsxStyleSheet Unit)) arial12).2
    Relation.ReflTransGen (StyleStep lib) (newXlsxStyleSheet none) styles ∧
      (addFont (reset (newXlsxStyleSheet none : xlsxStyleSheet Unit)) arial12).1 = 1 ∧
      addFont styles { arial12 with Strike := some {} } = (1, styles) ∧
      addFont styles { arial12 with Color := { Theme := some 4 } } = (1, styles) ∧
      styles.Fonts.Font[1]?.map (fun font => (font.Strike, font.Color.Theme)) = some (none, some 1) :=
  ⟨.tail (.single ⟨.reset, rfl⟩) ⟨.addFont _, rfl⟩, rfl, rfl, rfl, rfl⟩

end Xlsx
