import Xlsx.Style.NumFmtRun
import Mathlib.Data.List.Infix

namespace Xlsx

variable {Parsed : Type}

/-- Go's `map[int]int`, as the emitters fill it and read it. -/
abbrev OutputMap := AList fun _ : Int => Int

def OutputMap.get (m : OutputMap) (k : Int) : Int := (m.lookup k).getD 0

def bool2Int (b : Bool) : Int := if b then 1 else 0

/-- `encoding/xml`'s `Header`. -/
def xml.Header : String := "<?xml version=\"1.0\" encoding=\"UTF-8\"?>\n"

def styleSheetTag : String := "<styleSheet xmlns=\"http://schemas.openxmlformats.org/spreadsheetml/2006/main\">"

def isInCharacterRange (r : Char) : Bool :=
  r.val = 0x09 || r.val = 0x0A || r.val = 0x0D || (0x20 ≤ r.val && r.val ≤ 0xD7FF) ||
    (0xE000 ≤ r.val && r.val ≤ 0xFFFD) || (0x10000 ≤ r.val && r.val ≤ 0x10FFFF)

/-- What `xml.EscapeText` writes for one character of well-formed UTF-8. -/
def escapeChar (r : Char) : String :=
  if r = '"' then "&#34;"
  else if r = Char.ofNat 39 then "&#39;"
  else if r = '&' then "&amp;"
  else if r = '<' then "&lt;"
  else if r = '>' then "&gt;"
  else if r.val = 0x09 then "&#x9;"
  else if r.val = 0x0A then "&#xA;"
  else if r.val = 0x0D then "&#xD;"
  else if isInCharacterRange r then r.toString
  else "�"

/-- `xml.EscapeText` into a `bytes.Buffer`, which never fails. -/
def escapeText (s : String) : String := String.join (s.data.map escapeChar)

def countedElement (name : String) (count : Int) (body : String) : String :=
  "<" ++ name ++ " count=\"" ++ toString count ++ "\">" ++ body ++ "</" ++ name ++ ">"

/-! The emitters never fail except through `xml.Marshal` of a cell style: every `err` they test
is nil. -/

def xlsxNumFmt.Marshal (numFmt : xlsxNumFmt) : String :=
  "<numFmt numFmtId=\"" ++ toString numFmt.NumFmtId ++ "\" formatCode=\"" ++ escapeText numFmt.FormatCode ++
    "\"/>"

def xlsxNumFmts.Marshal (numFmts : xlsxNumFmts) : String :=
  if numFmts.Count > 0 then countedElement "numFmts" numFmts.Count (String.join (numFmts.NumFmt.map (·.Marshal)))
  else ""

def xlsxFont.Marshal (font : xlsxFont) : String :=
  let result := "<font>"
  let result := if font.Sz.Val != "" then result ++ "<sz val=\"" ++ font.Sz.Val ++ "\"/>" else result
  let result := if font.Name.Val != "" then result ++ "<name val=\"" ++ font.Name.Val ++ "\"/>" else result
  let result := if font.Family.Val != "" then result ++ "<family val=\"" ++ font.Family.Val ++ "\"/>" else result
  let result := if font.Charset.Val != "" then result ++ "<charset val=\"" ++ font.Charset.Val ++ "\"/>" else result
  let result := if font.Color.RGB != "" then result ++ "<color rgb=\"" ++ font.Color.RGB ++ "\"/>" else result
  let result := match font.Color.Theme with
    | some theme => result ++ "<color theme=\"" ++ toString theme ++ "\" />"
    | none => result
  let result := match font.Scheme with
    | some scheme => if scheme.Val != "" then result ++ "<scheme val=\"" ++ scheme.Val ++ "\"/>" else result
    | none => result
  let result := if font.B.isSome then result ++ "<b/>" else result
  let result := if font.I.isSome then result ++ "<i/>" else result
  let result := if font.U.isSome then result ++ "<u/>" else result
  let result := if font.Strike.isSome then result ++ "<strike/>" else result
  result ++ "</font>"

def xlsxPatternFill.Marshal (patternFill : xlsxPatternFill) : String :=
  let result := "<patternFill patternType=\"" ++ patternFill.PatternType ++ "\""
  let (ending, terminator, subparts) :=
    if patternFill.FgColor.RGB != "" then (">", "</patternFill>", "<fgColor rgb=\"" ++ patternFill.FgColor.RGB ++ "\"/>")
    else ("/>", "", "")
  let (ending, terminator, subparts) :=
    if patternFill.BgColor.RGB != "" then
      (">", "</patternFill>", subparts ++ "<bgColor rgb=\"" ++ patternFill.BgColor.RGB ++ "\"/>")
    else (ending, terminator, subparts)
  result ++ ending ++ subparts ++ terminator

/-- A fill with no pattern type is not written. -/
def xlsxFill.Marshal (fill : xlsxFill) : String :=
  if fill.PatternFill.PatternType != "" then "<fill>" ++ fill.PatternFill.Marshal ++ "</fill>" else ""

def xlsxBorder.marshalBorderLine (line : xlsxLine) (name : String) : String :=
  if line.Style = "" then "<" ++ name ++ "/>"
  else
    let subparts := "<" ++ name ++ " style=\"" ++ line.Style ++ "\">"
    let subparts := if line.Color.RGB != "" then subparts ++ "<color rgb=\"" ++ line.Color.RGB ++ "\"/>" else subparts
    subparts ++ "</" ++ name ++ ">"

def xlsxBorder.Marshal (border : xlsxBorder) : String :=
  "<border>" ++ xlsxBorder.marshalBorderLine border.Left "left" ++ xlsxBorder.marshalBorderLine border.Right "right" ++
    xlsxBorder.marshalBorderLine border.Top "top" ++ xlsxBorder.marshalBorderLine border.Bottom "bottom" ++ "</border>"

/-- The loop of the fonts, fills and borders emitters: an entry whose text is not empty is
appended, and its index mapped to the number of entries written before it. -/
def marshalEntries {α : Type} (marshal : α → String) :
    List α → Int → Int × OutputMap × String → Int × OutputMap × String
  | [], _, acc => acc
  | x :: xs, i, (emittedCount, outputMap, subparts) =>
    marshalEntries marshal xs (i + 1)
      (if marshal x != "" then (emittedCount + 1, outputMap.insert i emittedCount, subparts ++ marshal x)
       else (emittedCount, outputMap, subparts))

/-- The `count` attribute is `Count`, not the number of fonts written. -/
def xlsxFonts.Marshal (fonts : xlsxFonts) (outputFontMap : OutputMap) : String × OutputMap :=
  let (emittedCount, outputFontMap, subparts) := marshalEntries xlsxFont.Marshal fonts.Font 0 (0, outputFontMap, "")
  (if emittedCount > 0 then countedElement "fonts" fonts.Count subparts else "", outputFontMap)

def xlsxFills.Marshal (fills : xlsxFills) (outputFillMap : OutputMap) : String × OutputMap :=
  let (emittedCount, outputFillMap, subparts) := marshalEntries xlsxFill.Marshal fills.Fill 0 (0, outputFillMap, "")
  (if emittedCount > 0 then countedElement "fills" emittedCount subparts else "", outputFillMap)

def xlsxBorders.Marshal (borders : xlsxBorders) (outputBorderMap : OutputMap) : String × OutputMap :=
  let (emittedCount, outputBorderMap, subparts) :=
    marshalEntries xlsxBorder.Marshal borders.Border 0 (0, outputBorderMap, "")
  (if emittedCount > 0 then countedElement "borders" emittedCount subparts else "", outputBorderMap)

/-- An empty horizontal or vertical alignment is written as its default. `%b` writes 0 and 1
as `%d` does. -/
def xlsxAlignment.Marshal (alignment : xlsxAlignment) : String :=
  let horizontal := if alignment.Horizontal = "" then "general" else alignment.Horizontal
  let vertical := if alignment.Vertical = "" then "bottom" else alignment.Vertical
  "<alignment horizontal=\"" ++ horizontal ++ "\" indent=\"" ++ toString alignment.Indent ++
    "\" shrinkToFit=\"" ++ toString (bool2Int alignment.ShrinkToFit) ++ "\" textRotation=\"" ++
    toString alignment.TextRotation ++ "\" vertical=\"" ++ vertical ++ "\" wrapText=\"" ++
    toString (bool2Int alignment.WrapText) ++ "\"/>"

/-- The border, fill and font ids are written through the maps the table emitters filled. -/
def xlsxXf.Marshal (xf : xlsxXf) (outputBorderMap outputFillMap outputFontMap : OutputMap) : String :=
  let result := "<xf applyAlignment=\"" ++ toString (bool2Int xf.ApplyAlignment) ++ "\" applyBorder=\"" ++
    toString (bool2Int xf.ApplyBorder) ++ "\" applyFont=\"" ++ toString (bool2Int xf.ApplyFont) ++
    "\" applyFill=\"" ++ toString (bool2Int xf.ApplyFill) ++ "\" applyNumberFormat=\"" ++
    toString (bool2Int xf.ApplyNumberFormat) ++ "\" applyProtection=\"" ++
    toString (bool2Int xf.ApplyProtection) ++ "\" borderId=\"" ++ toString (outputBorderMap.get xf.BorderId) ++
    "\" fillId=\"" ++ toString (outputFillMap.get xf.FillId) ++ "\" fontId=\"" ++
    toString (outputFontMap.get xf.FontId) ++ "\" numFmtId=\"" ++ toString xf.NumFmtId ++ "\""
  let result := match xf.XfId with
    | some xfId => result ++ " xfId=\"" ++ toString xfId ++ "\""
    | none => result
  result ++ ">" ++ xf.Alignment.Marshal ++ "</xf>"

def xlsxCellStyleXfs.Marshal (cellStyleXfs : xlsxCellStyleXfs) (outputBorderMap outputFillMap outputFontMap : OutputMap) :
    String :=
  if cellStyleXfs.Count > 0 then
    countedElement "cellStyleXfs" cellStyleXfs.Count
      (String.join (cellStyleXfs.Xf.map (·.Marshal outputBorderMap outputFillMap outputFontMap)))
  else ""

def xlsxCellXfs.Marshal (cellXfs : xlsxCellXfs) (outputBorderMap outputFillMap outputFontMap : OutputMap) : String :=
  if cellXfs.Count > 0 then
    countedElement "cellXfs" cellXfs.Count
      (String.join (cellXfs.Xf.map (·.Marshal outputBorderMap outputFillMap outputFontMap)))
  else ""

section Sheet

/- `xml.Marshal` of one cell style: reflection-driven `encoding/xml`, not under `src/`, so a
parameter; its text, or the encoder's error. -/
variable (marshalCellStyle : xlsxCellStyle → Except String String)

def xlsxCellStyles.Marshal (cellStyles : xlsxCellStyles) : Except String String :=
  if cellStyles.Count > 0 then do
    let xCellStyles ← cellStyles.CellStyle.mapM marshalCellStyle
    pure (countedElement "cellStyles" cellStyles.Count (String.join xCellStyles))
  else pure ""

/-- Each table's emitter gets a fresh map; the xf emitters read the three filled maps. -/
def xlsxStyleSheet.Marshal (styles : xlsxStyleSheet Parsed) : Except String String :=
  let result := xml.Header ++ styleSheetTag
  let result := match styles.NumFmts with
    | some numFmts => result ++ numFmts.Marshal
    | none => result
  let (xfonts, outputFontMap) := styles.Fonts.Marshal ∅
  let (xfills, outputFillMap) := styles.Fills.Marshal ∅
  let (xborders, outputBorderMap) := styles.Borders.Marshal ∅
  let result := result ++ xfonts ++ xfills ++ xborders
  let result := match styles.CellStyleXfs with
    | some cellStyleXfs => result ++ cellStyleXfs.Marshal outputBorderMap outputFillMap outputFontMap
    | none => result
  let result := result ++ styles.CellXfs.Marshal outputBorderMap outputFillMap outputFontMap
  match styles.CellStyles with
  | some cellStyles => do
    let xcellStyles ← cellStyles.Marshal marshalCellStyle
    pure (result ++ xcellStyles ++ "</styleSheet>")
  | none => pure (result ++ "</styleSheet>")

end Sheet

/-- The element `name` around `children`, with their number as its `count`, or nothing when
there is none: what a `count` attribute promises. -/
def listElement (name : String) (children : List String) : String :=
  if children = [] then "" else countedElement name children.length (String.join children)

theorem foldl_append (a : String) (l : List String) : l.foldl (· ++ ·) a = a ++ String.join l := by
  induction l generalizing a with
  | nil => exact (String.append_empty a).symm
  | cons x xs ih =>
    show xs.foldl (· ++ ·) (a ++ x) = a ++ xs.foldl (· ++ ·) ("" ++ x)
    rw [ih, ih ("" ++ x), String.empty_append, String.append_assoc]

@[simp] theorem join_nil : String.join [] = "" := rfl

@[simp] theorem join_cons (x : String) (l : List String) : String.join (x :: l) = x ++ String.join l :=
  (foldl_append ("" ++ x) l).trans (by rw [String.empty_append])

def keptTexts {α : Type} (marshal : α → String) (entries : List α) : List String :=
  (entries.map marshal).filter (· != "")

section Entries

variable {α : Type} (marshal : α → String)

@[simp] theorem keptTexts_nil : keptTexts marshal [] = [] := rfl

theorem keptTexts_cons (x : α) (xs : List α) :
    keptTexts marshal (x :: xs) = if marshal x != "" then marshal x :: keptTexts marshal xs else keptTexts marshal xs := by
  by_cases kept : marshal x != "" <;> simp [keptTexts, List.filter_cons, kept]

theorem marshalEntries_count_subparts (entries : List α) (i c : Int) (m : OutputMap) (s : String) :
    (marshalEntries marshal entries i (c, m, s)).1 = c + (keptTexts marshal entries).length ∧
      (marshalEntries marshal entries i (c, m, s)).2.2 = s ++ String.join (keptTexts marshal entries) := by
  induction entries generalizing i c m s with
  | nil => simp [marshalEntries, String.append_empty]
  | cons x xs ih =>
    rw [marshalEntries, keptTexts_cons]
    split
    · obtain ⟨count, subparts⟩ := ih (i + 1) (c + 1) (m.insert i c) (s ++ marshal x)
      simp only [count, subparts, List.length_cons, join_cons, String.append_assoc, and_true]
      omega
    · exact ih ..

theorem marshalEntries_frame (entries : List α) (i c : Int) (m : OutputMap) (s : String) {key : Int}
    (below : key < i) : (marshalEntries marshal entries i (c, m, s)).2.1.lookup key = m.lookup key := by
  induction entries generalizing i c m s with
  | nil => rfl
  | cons x xs ih =>
    rw [marshalEntries]
    split
    · rw [ih (i + 1) _ _ _ (by omega), AList.lookup_insert_ne (by omega)]
    · exact ih (i + 1) _ _ _ (by omega)

theorem marshalEntries_position (entries : List α) (i c : Int) (m : OutputMap) (s : String) (k : Nat)
    (inside : k < entries.length) (kept : marshal entries[k] != "") :
    (marshalEntries marshal entries i (c, m, s)).2.1.get (i + k) = c + (keptTexts marshal (entries.take k)).length := by
  induction entries generalizing i c m s k with
  | nil => simp at inside
  | cons x xs ih =>
    rw [marshalEntries]
    cases k with
    | zero =>
      simp only [List.getElem_cons_zero] at kept
      simp only [kept, if_true, OutputMap.get, List.take_zero, keptTexts_nil, List.length_nil]
      rw [marshalEntries_frame marshal xs _ _ _ _ (by omega), Int.ofNat_zero, Int.add_zero, AList.lookup_insert]
      exact (Int.add_zero c).symm
    | succ k =>
      have inside : k < xs.length := by simpa using inside
      have kept : marshal xs[k] != "" := by simpa using kept
      rw [show i + ↑(k + 1) = i + 1 + ↑k by omega, List.take_succ_cons, keptTexts_cons]
      split
      · rw [ih _ _ _ _ k inside kept, List.length_cons]; omega
      · exact ih _ _ _ _ k inside kept

end Entries

theorem append_ne_empty {s t : String} (nonempty : t ≠ "") : s ++ t ≠ "" := by
  intro empty
  apply nonempty
  have data := congrArg String.data empty
  rw [String.data_append] at data
  exact String.ext (List.append_eq_nil.mp data).2

theorem listElement_of_count (name : String) (kept : List String) :
    (if (kept.length : Int) > 0 then countedElement name kept.length (String.join kept) else "") =
      listElement name kept := by
  cases kept <;> simp [listElement]

theorem keptTexts_of_ne {α : Type} {marshal : α → String} (written : ∀ x, marshal x != "") (entries : List α) :
    keptTexts marshal entries = entries.map marshal :=
  List.filter_eq_self.mpr fun _ member => by
    obtain ⟨x, -, rfl⟩ := List.mem_map.mp member
    exact written x

theorem xlsxFont.Marshal_ne (font : xlsxFont) : font.Marshal != "" :=
  bne_iff_ne.mpr (append_ne_empty (by decide))

theorem xlsxBorder.Marshal_ne (border : xlsxBorder) : border.Marshal != "" :=
  bne_iff_ne.mpr (append_ne_empty (by decide))

theorem xlsxFill.Marshal_ne (fill : xlsxFill) :
    (fill.Marshal != "") = (fill.PatternFill.PatternType != "") := by
  unfold xlsxFill.Marshal
  split
  · rename_i typed
    rw [typed]
    exact bne_iff_ne.mpr (append_ne_empty (by decide))
  · rename_i untyped
    simp only [untyped, bne_self_eq_false]

theorem keptTexts_fills (fills : List xlsxFill) :
    keptTexts xlsxFill.Marshal fills =
      (fills.filter (·.PatternFill.PatternType != "")).map xlsxFill.Marshal := by
  unfold keptTexts
  rw [List.filter_map]
  congr 2
  funext fill
  exact xlsxFill.Marshal_ne fill

theorem xlsxFonts.Marshal_spec (fonts : xlsxFonts) (agree : fonts.Count = fonts.Font.length) :
    (fonts.Marshal ∅).1 = listElement "fonts" (fonts.Font.map xlsxFont.Marshal) ∧
      ∀ k < fonts.Font.length, (fonts.Marshal ∅).2.get k = k := by
  have kept := keptTexts_of_ne xlsxFont.Marshal_ne
  obtain ⟨count, subparts⟩ := marshalEntries_count_subparts xlsxFont.Marshal fonts.Font 0 0 ∅ ""
  refine ⟨?_, fun k inside => ?_⟩
  · rcases loop : marshalEntries xlsxFont.Marshal fonts.Font 0 (0, ∅, "") with ⟨emittedCount, outputMap, parts⟩
    rw [loop] at count subparts
    simp only at count subparts
    rw [← List.length_map _ xlsxFont.Marshal] at agree
    simp only [xlsxFonts.Marshal, loop, count, subparts, agree, kept, Int.zero_add, String.empty_append]
    exact listElement_of_count _ _
  · have position := marshalEntries_position xlsxFont.Marshal fonts.Font 0 0 ∅ "" k inside
      (xlsxFont.Marshal_ne _)
    simp only [kept, List.length_map, List.length_take, Int.zero_add] at position
    simpa [xlsxFonts.Marshal, Nat.min_eq_left (Nat.le_of_lt inside)] using position

theorem xlsxFills.Marshal_spec (fills : xlsxFills) :
    (fills.Marshal ∅).1 =
        listElement "fills" ((fills.Fill.filter (·.PatternFill.PatternType != "")).map xlsxFill.Marshal) ∧
      ∀ k (inside : k < fills.Fill.length), fills.Fill[k].PatternFill.PatternType != "" →
        (fills.Marshal ∅).2.get k = ((fills.Fill.take k).filter (·.PatternFill.PatternType != "")).length := by
  obtain ⟨count, subparts⟩ := marshalEntries_count_subparts xlsxFill.Marshal fills.Fill 0 0 ∅ ""
  refine ⟨?_, fun k inside typed => ?_⟩
  · rcases loop : marshalEntries xlsxFill.Marshal fills.Fill 0 (0, ∅, "") with ⟨emittedCount, outputMap, parts⟩
    rw [loop] at count subparts
    simp only at count subparts
    simp only [xlsxFills.Marshal, loop, count, subparts, keptTexts_fills, Int.zero_add, String.empty_append]
    exact listElement_of_count _ _
  · have position := marshalEntries_position xlsxFill.Marshal fills.Fill 0 0 ∅ "" k inside
      (by rw [xlsxFill.Marshal_ne]; exact typed)
    simp only [keptTexts_fills, List.length_map, Int.zero_add] at position
    simpa [xlsxFills.Marshal] using position

theorem xlsxBorders.Marshal_spec (borders : xlsxBorders) :
    (borders.Marshal ∅).1 = listElement "borders" (borders.Border.map xlsxBorder.Marshal) ∧
      ∀ k < borders.Border.length, (borders.Marshal ∅).2.get k = k := by
  have kept := keptTexts_of_ne xlsxBorder.Marshal_ne
  obtain ⟨count, subparts⟩ := marshalEntries_count_subparts xlsxBorder.Marshal borders.Border 0 0 ∅ ""
  refine ⟨?_, fun k inside => ?_⟩
  · rcases loop : marshalEntries xlsxBorder.Marshal borders.Border 0 (0, ∅, "") with ⟨emittedCount, outputMap, parts⟩
    rw [loop] at count subparts
    simp only at count subparts
    simp only [xlsxBorders.Marshal, loop, count, subparts, kept, Int.zero_add, String.empty_append]
    exact listElement_of_count _ _
  · have position := marshalEntries_position xlsxBorder.Marshal borders.Border 0 0 ∅ "" k inside
      (xlsxBorder.Marshal_ne _)
    simp only [kept, List.length_map, List.length_take, Int.zero_add] at position
    simpa [xlsxBorders.Marshal, Nat.min_eq_left (Nat.le_of_lt inside)] using position

theorem countedElement_of_agree (name : String) (children : List String) (count : Int)
    (agree : count = children.length) :
    (if count > 0 then countedElement name count (String.join children) else "") = listElement name children := by
  subst agree
  exact listElement_of_count name children

theorem StyleTable.add_cellStyles {α : Type} {table : StyleTable Parsed α}
    (keeps : ∀ styles c l, (table.store styles c l).CellStyles = styles.CellStyles) (styles : xlsxStyleSheet Parsed)
    (x : α) : (table.add styles x).2.CellStyles = styles.CellStyles := by
  unfold StyleTable.add
  split
  · rfl
  · exact keeps ..

theorem StyleOp.run_cellStyles {lib : Collaborators Parsed} {op : StyleOp} {styles styles' : xlsxStyleSheet Parsed}
    (ran : op.run lib styles = .ok styles') : styles'.CellStyles = styles.CellStyles := by
  cases op <;> simp only [StyleOp.run, pure, Except.pure, Except.ok.injEq] at ran <;> subst_vars
  · rfl
  · unfold Xlsx.addFont
    split
    · rfl
    · exact StyleTable.add_cellStyles (fun _ _ _ => rfl) _ _
  all_goals try exact StyleTable.add_cellStyles (fun _ _ _ => rfl) _ _
  · exact (StyleTable.add_cellStyles (fun _ _ _ => rfl) _ _).trans (by split <;> rfl)
  · obtain ⟨_, _, same⟩ := addNumFmt_frame styles ‹_›
    rw [same]
  · obtain ⟨_, _, same⟩ := newNumFmt_frame styles ‹_›
    rw [same]
  · obtain ⟨⟨_, _⟩, got, rfl⟩ := except_map_ok ran
    obtain ⟨_, rfl⟩ := getStyle_frame got
    rfl
  · obtain ⟨⟨_, _⟩, got, rfl⟩ := except_map_ok ran
    obtain ⟨_, rfl⟩ := getNumberFormat_frame got
    rfl

/-- The emitter on a sheet whose number formats and five tables have `Count` equal to their
length and which has no cell styles: every table is written as `listElement` of its entries. -/
theorem xlsxStyleSheet.Marshal_of_agree (marshalCellStyle : xlsxCellStyle → Except String String)
    (styles : xlsxStyleSheet Parsed)
    (numFmtsAgree : ∀ numFmts, styles.NumFmts = some numFmts → numFmts.Count = numFmts.NumFmt.length)
    (agrees : TablesAgree styles) (cellStyles : styles.CellStyles = none) :
    ∃ outputFontMap outputFillMap outputBorderMap : OutputMap,
      (∀ k < styles.Fonts.Font.length, outputFontMap.get k = k) ∧
      (∀ k (inside : k < styles.Fills.Fill.length), styles.Fills.Fill[k].PatternFill.PatternType != "" →
        outputFillMap.get k = ((styles.Fills.Fill.take k).filter (·.PatternFill.PatternType != "")).length) ∧
      (∀ k < styles.Borders.Border.length, outputBorderMap.get k = k) ∧
      styles.Marshal marshalCellStyle = .ok (xml.Header ++ styleSheetTag ++
        listElement "numFmts" ((numFmtEntries styles).map xlsxNumFmt.Marshal) ++
        listElement "fonts" (styles.Fonts.Font.map xlsxFont.Marshal) ++
        listElement "fills" ((styles.Fills.Fill.filter (·.PatternFill.PatternType != "")).map xlsxFill.Marshal) ++
        listElement "borders" (styles.Borders.Border.map xlsxBorder.Marshal) ++
        listElement "cellStyleXfs"
          ((styles.CellStyleXfs.getD {}).Xf.map (·.Marshal outputBorderMap outputFillMap outputFontMap)) ++
        listElement "cellXfs" (styles.CellXfs.Xf.map (·.Marshal outputBorderMap outputFillMap outputFontMap)) ++
        "</styleSheet>") := by
  obtain ⟨fonts, fills, borders, cellStyleXfs, cellXfs⟩ := agrees
  have fontSpec := xlsxFonts.Marshal_spec styles.Fonts fonts
  have fillSpec := xlsxFills.Marshal_spec styles.Fills
  have borderSpec := xlsxBorders.Marshal_spec styles.Borders
  rcases hFonts : styles.Fonts.Marshal ∅ with ⟨xfonts, outputFontMap⟩
  rcases hFills : styles.Fills.Marshal ∅ with ⟨xfills, outputFillMap⟩
  rcases hBorders : styles.Borders.Marshal ∅ with ⟨xborders, outputBorderMap⟩
  rw [hFonts] at fontSpec
  rw [hFills] at fillSpec
  rw [hBorders] at borderSpec
  refine ⟨outputFontMap, outputFillMap, outputBorderMap, fontSpec.2, fillSpec.2, borderSpec.2, ?_⟩
  have numFmts : ∀ result : String, (match styles.NumFmts with
      | some numFmts => result ++ numFmts.Marshal
      | none => result) = result ++ listElement "numFmts" ((numFmtEntries styles).map xlsxNumFmt.Marshal) := by
    intro result
    cases present : styles.NumFmts with
    | none => simp [numFmtEntries, present, listElement, String.append_empty]
    | some numFmts =>
      simp only [numFmtEntries, present, Option.map_some', Option.getD_some, xlsxNumFmts.Marshal]
      rw [countedElement_of_agree _ _ _ (by rw [List.length_map]; exact numFmtsAgree numFmts present)]
  have namedXfs : ∀ result : String, (match styles.CellStyleXfs with
      | some cellStyleXfs => result ++ cellStyleXfs.Marshal outputBorderMap outputFillMap outputFontMap
      | none => result) = result ++ listElement "cellStyleXfs"
        ((styles.CellStyleXfs.getD {}).Xf.map (·.Marshal outputBorderMap outputFillMap outputFontMap)) := by
    intro result
    cases present : styles.CellStyleXfs with
    | none => simp [listElement, String.append_empty]
    | some table =>
      have agree : table.Count = table.Xf.length := by
        simpa [agreesProperty, cellStyleXfTable, present] using cellStyleXfs
      simp only [Option.getD_some, xlsxCellStyleXfs.Marshal]
      rw [countedElement_of_agree _ _ _ (by rw [List.length_map]; exact agree)]
  have cellXfsPart : styles.CellXfs.Marshal outputBorderMap outputFillMap outputFontMap =
      listElement "cellXfs" (styles.CellXfs.Xf.map (·.Marshal outputBorderMap outputFillMap outputFontMap)) :=
    countedElement_of_agree _ _ _ (by rw [List.length_map]; exact cellXfs)
  simp only [xlsxStyleSheet.Marshal, hFonts, hFills, hBorders, cellStyles, numFmts, namedXfs, cellXfsPart,
    fontSpec.1, fillSpec.1, borderSpec.1]
  rfl

/-- Every sheet reachable from `newXlsxStyleSheet` keeps its `Count` fields equal to the lengths
and never has cell styles. -/
theorem Marshal_invariants_of_reach {lib : Collaborators Parsed} {t : Option theme} {styles : xlsxStyleSheet Parsed}
    (reach : Relation.ReflTransGen (StyleStep lib) (newXlsxStyleSheet t) styles) :
    (∀ numFmts, styles.NumFmts = some numFmts → numFmts.Count = numFmts.NumFmt.length) ∧ TablesAgree styles ∧
      styles.CellStyles = none :=
  ⟨(NumFmtInvariant.of_reach reach).registry.count, (NumFmtInvariant.of_reach reach).agrees,
    @StyleStep.invariant _ lib (fun styles => styles.CellStyles = none) _ _ reach rfl
      fun _ unset ran => (StyleOp.run_cellStyles ran).trans unset⟩

theorem contains_of_mem_join {x : String} {l : List String} (member : x ∈ l) : x.data <:+: (String.join l).data := by
  induction l with
  | nil => cases member
  | cons y ys ih =>
    rw [join_cons, String.data_append]
    rcases List.mem_cons.mp member with rfl | later
    · exact (List.prefix_append _ _).isInfix
    · exact (ih later).trans (List.suffix_append _ _).isInfix

theorem infix_append_right {x : List Char} {a : String} (inside : x <:+: a.data) (b : String) :
    x <:+: (a ++ b).data := by
  rw [String.data_append]
  exact inside.trans (List.prefix_append _ _).isInfix

theorem infix_append_left {x : List Char} {b : String} (a : String) (inside : x <:+: b.data) :
    x <:+: (a ++ b).data := by
  rw [String.data_append]
  exact inside.trans (List.suffix_append _ _).isInfix

theorem countedElement_contains {x : List Char} {body : String} (inside : x <:+: body.data) (name : String)
    (count : Int) : x <:+: (countedElement name count body).data :=
  infix_append_right (infix_append_right (infix_append_right (infix_append_left _ inside) _) _) _

/-- On a reachable sheet with fonts the emitter writes one fonts element, whose count is the
number of fonts and which encloses their texts in table order. -/
theorem Marshal_contains_fonts {lib : Collaborators Parsed} {t : Option theme} {styles : xlsxStyleSheet Parsed}
    (marshalCellStyle : xlsxCellStyle → Except String String)
    (reach : Relation.ReflTransGen (StyleStep lib) (newXlsxStyleSheet t) styles) (nonempty : styles.Fonts.Font ≠ []) :
    ∃ out, styles.Marshal marshalCellStyle = .ok out ∧
      (countedElement "fonts" styles.Fonts.Font.length
        (String.join (styles.Fonts.Font.map xlsxFont.Marshal))).data <:+: out.data := by
  obtain ⟨numFmtsAgree, agrees, cellStyles⟩ := Marshal_invariants_of_reach reach
  obtain ⟨_, _, _, -, -, -, written⟩ := xlsxStyleSheet.Marshal_of_agree marshalCellStyle styles numFmtsAgree agrees
    cellStyles
  have fonts : listElement "fonts" (styles.Fonts.Font.map xlsxFont.Marshal) =
      countedElement "fonts" styles.Fonts.Font.length (String.join (styles.Fonts.Font.map xlsxFont.Marshal)) := by
    simp [listElement, nonempty]
  refine ⟨_, written, ?_⟩
  rw [fonts]
  exact infix_append_right (infix_append_right (infix_append_right (infix_append_right
    (infix_append_right (infix_append_left _ (List.infix_refl _)) _) _) _) _) _

theorem Marshal_contains_font {lib : Collaborators Parsed} {t : Option theme} {styles : xlsxStyleSheet Parsed}
    (marshalCellStyle : xlsxCellStyle → Except String String)
    (reach : Relation.ReflTransGen (StyleStep lib) (newXlsxStyleSheet t) styles) {font : xlsxFont}
    (member : font ∈ styles.Fonts.Font) :
    ∃ out, styles.Marshal marshalCellStyle = .ok out ∧ font.Marshal.data <:+: out.data :=
  let ⟨out, written, fonts⟩ := Marshal_contains_fonts marshalCellStyle reach (List.ne_nil_of_mem member)
  ⟨out, written, (countedElement_contains (contains_of_mem_join (List.mem_map_of_mem _ member)) _ _).trans fonts⟩

/-- The places where the text of `tag` starts in `text`: how many elements a reader of the XML
sees open with that tag. -/
def tagCount (tag : List Char) : List Char → Nat
  | [] => 0
  | c :: text => (if tag.isPrefixOf (c :: text) then 1 else 0) + tagCount tag text

/-- Arial with a name that closes its own element and opens another, added after `reset`: the
fonts element counts the two fonts of the table but encloses three `<font>` elements, since the
name is written unescaped. -/
theorem Marshal_fonts_count_disagrees_with_children :
    let lib : Collaborators Unit := ⟨fun _ => 0, fun _ => 0, fun _ => ()⟩
    let font : xlsxFont := { defaultFont with Name := ⟨"a\"/></font><font><name val=\"b"⟩ }
    let styles := (addFont (reset (newXlsxStyleSheet none : xlsxStyleSheet Unit)) font).2
    let fonts := String.join (styles.Fonts.Font.map xlsxFont.Marshal)
    Relation.ReflTransGen (StyleStep lib) (newXlsxStyleSheet none) styles ∧
      ∃ out, styles.Marshal (fun _ => .ok "") = .ok out ∧ (countedElement "fonts" 2 fonts).data <:+: out.data ∧
        tagCount "</fonts>".data fonts.data = 0 ∧ tagCount "<font>".data fonts.data = 3 := by
  intro lib font styles fonts
  have reach : Relation.ReflTransGen (StyleStep lib) (newXlsxStyleSheet none) styles :=
    .tail (.single ⟨.reset, rfl⟩) ⟨.addFont font, rfl⟩
  obtain ⟨out, written, element⟩ := Marshal_contains_fonts (fun _ => .ok "") reach (List.ne_nil_of_mem
    (List.mem_of_mem_getLast? rfl : font ∈ styles.Fonts.Font))
  have closed : tagCount "</fonts>".data fonts.data = 0 := by set_option maxRecDepth 4000 in decide
  have opened : tagCount "<font>".data fonts.data = 3 := by set_option maxRecDepth 4000 in decide
  exact ⟨reach, out, written, element, closed, opened⟩

/-- Arial with the name `a"b`, added after `reset`: the emitter writes the name as it is, so its
quote closes the attribute value early, where the escaped text would be `a&#34;b`. -/
theorem Marshal_writes_font_name_unescaped :
    let lib : Collaborators Unit := ⟨fun _ => 0, fun _ => 0, fun _ => ()⟩
    let font : xlsxFont := { defaultFont with Name := ⟨"a\"b"⟩ }
    let styles := (addFont (reset (newXlsxStyleSheet none : xlsxStyleSheet Unit)) font).2
    Relation.ReflTransGen (StyleStep lib) (newXlsxStyleSheet none) styles ∧ escapeText "a\"b" = "a&#34;b" ∧
      ∃ out, styles.Marshal (fun _ => .ok "") = .ok out ∧ "<name val=\"a\"b\"/>".data <:+: out.data := by
  intro lib font styles
  have member : font ∈ styles.Fonts.Font := List.mem_of_mem_getLast? rfl
  obtain ⟨out, written, contains⟩ := Marshal_contains_font (fun _ => .ok "")
    (.tail (.single ⟨.reset, rfl⟩) ⟨.addFont font, rfl⟩ : Relation.ReflTransGen (StyleStep lib) _ styles) member
  exact ⟨.tail (.single ⟨.reset, rfl⟩) ⟨.addFont font, rfl⟩, rfl, out, written,
    List.IsInfix.trans (by decide) contains⟩

end Xlsx
