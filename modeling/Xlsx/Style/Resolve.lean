import Xlsx.Style.NumFmt

namespace Xlsx

variable {Parsed : Type}

/-- Excel's legacy 64-colour palette, addressed from 1. -/
def xlsxIndexedColors : List String :=
  ["FF000000", "FFFFFFFF", "FFFF0000", "FF00FF00", "FF0000FF", "FFFFFF00", "FFFF00FF", "FF00FFFF",
   "FF000000", "FFFFFFFF", "FFFF0000", "FF00FF00", "FF0000FF", "FFFFFF00", "FFFF00FF", "FF00FFFF",
   "FF800000", "FF008000", "FF000080", "FF808000", "FF800080", "FF008080", "FFC0C0C0", "FF808080",
   "FF9999FF", "FF993366", "FFFFFFCC", "FFCCFFFF", "FF660066", "FFFF8080", "FF0066CC", "FFCCCCFF",
   "FF000080", "FFFF00FF", "FFFFFF00", "FF00FFFF", "FF800080", "FF800000", "FF008080", "FF0000FF",
   "FF00CCFF", "FFCCFFFF", "FFCCFFCC", "FFFFFF99", "FF99CCFF", "FFFF99CC", "FFCC99FF", "FFFFCC99",
   "FF3366FF", "FF33CCCC", "FF99CC00", "FFFFCC00", "FFFF9900", "FFFF6600", "FF666699", "FF969696",
   "FF003366", "FF339966", "FF003300", "FF333300", "FF993300", "FF993366", "FF333399", "FF333333"]

def xlsxColors.indexedColor (c : xlsxColors) (index : Int) : Except GoPanic String :=
  match c.IndexedColors with
  | some indexedColors => (·.Rgb) <$> sliceAt indexedColors (index - 1)
  | none => sliceAt xlsxIndexedColors (index - 1)

def argbValue (styles : xlsxStyleSheet Parsed) (color : xlsxColor) : Except GoPanic String :=
  match color.Theme, styles.theme with
  | some themeIndex, some t => .ok (t.themeColor themeIndex color.Tint)
  | _, _ =>
    match color.Indexed, styles.Colors with
    | some indexed, some colors => colors.indexedColor indexed
    | _, _ => .ok color.RGB

/-- A `b`, `i`, `u` or `strike` element that is present and not `val="0"`. -/
def flagSet (flag : Option xlsxVal) : Bool := flag.any (·.Val != "0")

def populateStyleFromXf (lib : Collaborators Parsed) (styles : xlsxStyleSheet Parsed)
    (style : Style) (xf : xlsxXf) : Except GoPanic Style := do
  let style := { style with
    ApplyBorder := xf.ApplyBorder, ApplyFill := xf.ApplyFill, ApplyFont := xf.ApplyFont
    ApplyAlignment := xf.ApplyAlignment }
  let style ←
    if xf.BorderId > -1 ∧ xf.BorderId < styles.Borders.Count then do
      let border ← sliceAt styles.Borders.Border xf.BorderId
      pure { style with
        Border := { style.Border with
          Left := border.Left.Style, LeftColor := border.Left.Color.RGB
          Right := border.Right.Style, RightColor := border.Right.Color.RGB
          Top := border.Top.Style, TopColor := border.Top.Color.RGB
          Bottom := border.Bottom.Style, BottomColor := border.Bottom.Color.RGB } }
    else pure style
  let style ←
    if xf.FillId > -1 ∧ xf.FillId < styles.Fills.Count then do
      let xFill ← sliceAt styles.Fills.Fill xf.FillId
      let fgColor ← argbValue styles xFill.PatternFill.FgColor
      let bgColor ← argbValue styles xFill.PatternFill.BgColor
      pure { style with
        Fill := { style.Fill with
          PatternType := xFill.PatternFill.PatternType, FgColor := fgColor, BgColor := bgColor } }
    else pure style
  let style ←
    if xf.FontId > -1 ∧ xf.FontId < styles.Fonts.Count then do
      let xfont ← sliceAt styles.Fonts.Font xf.FontId
      let color ← argbValue styles xfont.Color
      pure { style with
        Font := { style.Font with
          Size := lib.parseFloat xfont.Sz.Val, Name := xfont.Name.Val
          Family := lib.atoi xfont.Family.Val, Charset := lib.atoi xfont.Charset.Val, Color := color
          Bold := style.Font.Bold || flagSet xfont.B, Italic := style.Font.Italic || flagSet xfont.I
          Underline := style.Font.Underline || flagSet xfont.U
          Strike := style.Font.Strike || flagSet xfont.Strike } }
    else pure style
  pure { style with
    Alignment := { style.Alignment with
      Horizontal := if xf.Alignment.Horizontal != "" then xf.Alignment.Horizontal
        else style.Alignment.Horizontal
      Vertical := if xf.Alignment.Vertical != "" then xf.Alignment.Vertical else style.Alignment.Vertical
      ShrinkToFit := xf.Alignment.ShrinkToFit, WrapText := xf.Alignment.WrapText
      TextRotation := xf.Alignment.TextRotation
      Indent := if xf.Alignment.Indent != 0 then xf.Alignment.Indent else style.Alignment.Indent } }

/-- The named-style cascade of `getStyle`: an `XfId` below the length of `CellStyleXfs`
ORs that entry's apply flags into the style. -/
def cascadeNamedStyle (styles : xlsxStyleSheet Parsed) (style : Style) (xf : xlsxXf) :
    Except GoPanic Style :=
  match xf.XfId, styles.CellStyleXfs with
  | some xfId, some cellStyleXfs =>
    if xfId < cellStyleXfs.Xf.length then do
      let namedStyleXf ← sliceAt cellStyleXfs.Xf xfId
      pure { style with
        NamedStyleIndex := some xfId
        ApplyBorder := style.ApplyBorder || namedStyleXf.ApplyBorder
        ApplyFill := style.ApplyFill || namedStyleXf.ApplyFill
        ApplyFont := style.ApplyFont || namedStyleXf.ApplyFont
        ApplyAlignment := style.ApplyAlignment || namedStyleXf.ApplyAlignment }
    else pure style
  | _, _ => pure style

/-- What `getStyle` computes for the cell format `xf` on a cache miss. -/
def resolveStyle (lib : Collaborators Parsed) (styles : xlsxStyleSheet Parsed) (xf : xlsxXf) :
    Except GoPanic Style := do
  let style ← populateStyleFromXf lib styles {} xf
  let style ← cascadeNamedStyle styles style xf
  pure { style with
    Alignment := { style.Alignment with
      Vertical := if xf.Alignment.Vertical != "" then xf.Alignment.Vertical else style.Alignment.Vertical
      WrapText := xf.Alignment.WrapText, TextRotation := xf.Alignment.TextRotation } }

/-- The guard of `getStyle`, written against `CellXfs.Count`. -/
def styleIndexInRange (styles : xlsxStyleSheet Parsed) (styleIndex : Int) : Prop :=
  styleIndex > -1 ∧ styles.CellXfs.Count > 0 ∧ styleIndex < styles.CellXfs.Count

instance (styles : xlsxStyleSheet Parsed) (styleIndex : Int) :
    Decidable (styleIndexInRange styles styleIndex) :=
  inferInstanceAs (Decidable (_ ∧ _ ∧ _))

/-- `getStyle` without its cache: the style a miss would compute and store. -/
def uncachedStyle (lib : Collaborators Parsed) (styles : xlsxStyleSheet Parsed) (styleIndex : Int) :
    Except GoPanic Style :=
  if styleIndexInRange styles styleIndex then do
    let xf ← sliceAt styles.CellXfs.Xf styleIndex
    resolveStyle lib styles xf
  else pure {}

def getStyle (lib : Collaborators Parsed) (styles : xlsxStyleSheet Parsed) (styleIndex : Int) :
    Except GoPanic (Style × xlsxStyleSheet Parsed) :=
  match styles.styleCache.bind (·.lookup styleIndex) with
  | some style => pure (style, styles)
  | none =>
    if styleIndexInRange styles styleIndex then do
      let xf ← sliceAt styles.CellXfs.Xf styleIndex
      let style ← resolveStyle lib styles xf
      match styles.styleCache with
      | none => throw .nilMapAssignment
      | some styleCache => pure (style, { styles with styleCache := some (styleCache.insert styleIndex style) })
    else pure ({}, styles)

/-- The format code `getNumberFormat` settles on before consulting its parse cache. -/
def numberFormatOf (styles : xlsxStyleSheet Parsed) (styleIndex : Int) : Except GoPanic String :=
  if styles.CellXfs.Xf ≠ [] ∧ styleIndex > -1 ∧ styleIndex < styles.CellXfs.Count then do
    let xf ← sliceAt styles.CellXfs.Xf styleIndex
    let builtin := getBuiltinNumberFormat xf.NumFmtId
    if builtin != "" then pure builtin
    else
      match styles.numFmtRefTable with
      | some table => pure ((table.lookup xf.NumFmtId).getD {}).FormatCode
      | none => pure "general"
  else pure "general"

def getNumberFormat (lib : Collaborators Parsed) (styles : xlsxStyleSheet Parsed) (styleIndex : Int) :
    Except GoPanic ((String × Parsed) × xlsxStyleSheet Parsed) := do
  let numberFormat ← numberFormatOf styles styleIndex
  match styles.parsedNumFmtTable.bind (·.lookup numberFormat) with
  | some parsedFmt => pure ((numberFormat, parsedFmt), styles)
  | none =>
    let parsedFmt := lib.parseFullNumberFormatString numberFormat
    pure ((numberFormat, parsedFmt), { styles with
      parsedNumFmtTable := some ((styles.parsedNumFmtTable.getD ∅).insert numberFormat parsedFmt) })

end Xlsx
