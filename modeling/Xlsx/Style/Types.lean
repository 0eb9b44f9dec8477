import Mathlib.Data.List.AList

namespace Xlsx

structure xlsxVal where
  Val : String := ""
deriving DecidableEq, Repr

def xlsxVal.Equals (val other : xlsxVal) : Bool := val.Val == other.Val

/-- `Theme` and `Indexed` are `*int` in Go; `none` is the nil pointer. -/
structure xlsxColor where
  RGB : String := ""
  Theme : Option Int := none
  Tint : Float := 0
  Indexed : Option Int := none

def xlsxColor.Equals (color other : xlsxColor) : Bool := color.RGB == other.RGB

structure xlsxFont where
  Sz : xlsxVal := {}
  Name : xlsxVal := {}
  Family : xlsxVal := {}
  Charset : xlsxVal := {}
  Color : xlsxColor := {}
  B : Option xlsxVal := none
  I : Option xlsxVal := none
  U : Option xlsxVal := none
  Scheme : Option xlsxVal := none
  Strike : Option xlsxVal := none

/-- The three early `return false`s compare only whether `B`, `I` and `U` are set. -/
def xlsxFont.Equals (font other : xlsxFont) : Bool :=
  font.B.isSome == other.B.isSome && font.I.isSome == other.I.isSome &&
    font.U.isSome == other.U.isSome && font.Sz.Equals other.Sz && font.Name.Equals other.Name &&
    font.Family.Equals other.Family && font.Charset.Equals other.Charset &&
    font.Color.Equals other.Color

structure xlsxPatternFill where
  PatternType : String := ""
  FgColor : xlsxColor := {}
  BgColor : xlsxColor := {}

def xlsxPatternFill.Equals (patternFill other : xlsxPatternFill) : Bool :=
  patternFill.PatternType == other.PatternType && patternFill.FgColor.Equals other.FgColor &&
    patternFill.BgColor.Equals other.BgColor

structure xlsxFill where
  PatternFill : xlsxPatternFill := {}

def xlsxFill.Equals (fill other : xlsxFill) : Bool := fill.PatternFill.Equals other.PatternFill

structure xlsxLine where
  Style : String := ""
  Color : xlsxColor := {}

def xlsxLine.Equals (line other : xlsxLine) : Bool :=
  line.Style == other.Style && line.Color.Equals other.Color

structure xlsxBorder where
  Left : xlsxLine := {}
  Right : xlsxLine := {}
  Top : xlsxLine := {}
  Bottom : xlsxLine := {}

def xlsxBorder.Equals (border other : xlsxBorder) : Bool :=
  border.Left.Equals other.Left && border.Right.Equals other.Right &&
    border.Top.Equals other.Top && border.Bottom.Equals other.Bottom

structure xlsxAlignment where
  Horizontal : String := ""
  Indent : Int := 0
  ShrinkToFit : Bool := false
  TextRotation : Int := 0
  Vertical : String := ""
  WrapText : Bool := false
deriving DecidableEq, Repr

def xlsxAlignment.Equals (alignment other : xlsxAlignment) : Bool :=
  alignment.Horizontal == other.Horizontal && alignment.Indent == other.Indent &&
    alignment.ShrinkToFit == other.ShrinkToFit && alignment.TextRotation == other.TextRotation &&
    alignment.Vertical == other.Vertical && alignment.WrapText == other.WrapText

structure xlsxXf where
  ApplyAlignment : Bool := false
  ApplyBorder : Bool := false
  ApplyFont : Bool := false
  ApplyFill : Bool := false
  ApplyNumberFormat : Bool := false
  ApplyProtection : Bool := false
  BorderId : Int := 0
  FillId : Int := 0
  FontId : Int := 0
  NumFmtId : Int := 0
  XfId : Option Int := none
  Alignment : xlsxAlignment := {}
deriving DecidableEq, Repr

/-- Go compares the `XfId` pointers, then their targets when both are set: that is
equality of the optional values. `ApplyNumberFormat` is not compared. -/
def xlsxXf.Equals (xf other : xlsxXf) : Bool :=
  xf.ApplyAlignment == other.ApplyAlignment && xf.ApplyBorder == other.ApplyBorder &&
    xf.ApplyFont == other.ApplyFont && xf.ApplyFill == other.ApplyFill &&
    xf.ApplyProtection == other.ApplyProtection && xf.BorderId == other.BorderId &&
    xf.FillId == other.FillId && xf.FontId == other.FontId && xf.NumFmtId == other.NumFmtId &&
    xf.XfId == other.XfId && xf.Alignment.Equals other.Alignment

structure xlsxFonts where
  Count : Int := 0
  Font : List xlsxFont := []

structure xlsxFills where
  Count : Int := 0
  Fill : List xlsxFill := []

structure xlsxBorders where
  Count : Int := 0
  Border : List xlsxBorder := []

structure xlsxCellStyleXfs where
  Count : Int := 0
  Xf : List xlsxXf := []
deriving DecidableEq, Repr

structure xlsxCellXfs where
  Count : Int := 0
  Xf : List xlsxXf := []
deriving DecidableEq, Repr

structure xlsxNumFmt where
  NumFmtId : Int := 0
  FormatCode : String := ""
deriving DecidableEq, Repr

structure xlsxNumFmts where
  Count : Int := 0
  NumFmt : List xlsxNumFmt := []
deriving DecidableEq, Repr

structure xlsxRgbColor where
  Rgb : String := ""
deriving DecidableEq, Repr

/-- `IndexedColors` is a Go slice, and `indexedColor` tests it against nil. -/
structure xlsxColors where
  IndexedColors : Option (List xlsxRgbColor) := none
deriving DecidableEq, Repr

/-- The theme of `theme.go` is reached only through `themeColor(index, tint)`. -/
structure theme where
  themeColor : Int → Float → String

/-- The resolved `Style` of `style.go`, with the fields `getStyle` writes. -/
structure Border where
  Left : String := ""
  LeftColor : String := ""
  Right : String := ""
  RightColor : String := ""
  Top : String := ""
  TopColor : String := ""
  Bottom : String := ""
  BottomColor : String := ""
deriving DecidableEq, Repr

structure Fill where
  PatternType : String := ""
  BgColor : String := ""
  FgColor : String := ""
deriving DecidableEq, Repr

structure Font where
  Size : Float := 0
  Name : String := ""
  Family : Int := 0
  Charset : Int := 0
  Color : String := ""
  Bold : Bool := false
  Italic : Bool := false
  Underline : Bool := false
  Strike : Bool := false

structure Alignment where
  Horizontal : String := ""
  Indent : Int := 0
  ShrinkToFit : Bool := false
  TextRotation : Int := 0
  Vertical : String := ""
  WrapText : Bool := false
deriving DecidableEq, Repr

structure Style where
  Border : Border := {}
  Fill : Fill := {}
  Font : Font := {}
  Alignment : Alignment := {}
  ApplyBorder : Bool := false
  ApplyFill : Bool := false
  ApplyFont : Bool := false
  ApplyAlignment : Bool := false
  NamedStyleIndex : Option Int := none

/-- The standard-library and `format_code.go` functions the style sheet calls; they are
not under `src/`, so every result below holds for any choice of them. -/
structure Collaborators (Parsed : Type) where
  /-- `strconv.ParseFloat(s, 64)` with its error dropped. -/
  parseFloat : String → Float
  /-- `strconv.Atoi(s)` with its error dropped. -/
  atoi : String → Int
  parseFullNumberFormatString : String → Parsed

abbrev StyleCache := AList fun _ : Int => Style

abbrev NumFmtRefTable := AList fun _ : Int => xlsxNumFmt

abbrev ParsedNumFmtTable (Parsed : Type) := AList fun _ : String => Parsed

structure xlsxCellStyle where
  BuiltInId : Option Int := none
  CustomBuiltIn : Option Bool := none
  Hidden : Option Bool := none
  ILevel : Option Bool := none
  Name : String := ""
  XfId : Int := 0

structure xlsxCellStyles where
  Count : Int := 0
  CellStyle : List xlsxCellStyle := []

/-- The style sheet with the fields the modelled functions read or write. A Go map is
`none` while nil; the three mutexes only order accesses and are not state. -/
structure xlsxStyleSheet (Parsed : Type) where
  Fonts : xlsxFonts := {}
  Fills : xlsxFills := {}
  Borders : xlsxBorders := {}
  Colors : Option xlsxColors := none
  CellStyles : Option xlsxCellStyles := none
  CellStyleXfs : Option xlsxCellStyleXfs := none
  CellXfs : xlsxCellXfs := {}
  NumFmts : Option xlsxNumFmts := none
  theme : Option theme := none
  styleCache : Option StyleCache := none
  numFmtRefTable : Option NumFmtRefTable := none
  parsedNumFmtTable : Option (ParsedNumFmtTable Parsed) := none

def newXlsxStyleSheet {Parsed : Type} (t : Option theme) : xlsxStyleSheet Parsed :=
  { theme := t, styleCache := some ∅ }

/-- A runtime panic of the Go program: `index out of range [i] with length n`, or an
assignment to an entry of a nil map. -/
inductive GoPanic
  | indexOutOfRange (index : Int) (length : Nat)
  | nilMapAssignment
deriving DecidableEq, Repr

/-- `s[i]` on a Go slice. -/
def sliceAt {α : Type} (s : List α) (i : Int) : Except GoPanic α :=
  if h : 0 ≤ i ∧ i.toNat < s.length then .ok (s.get ⟨i.toNat, h.2⟩)
  else .error (.indexOutOfRange i s.length)

theorem sliceAt_ok {α : Type} {s : List α} {i : Int} {a : α} (h : sliceAt s i = .ok a) :
    0 ≤ i ∧ s[i.toNat]? = some a := by
  unfold sliceAt at h
  split at h
  · rename_i bound
    cases h
    exact ⟨bound.1, by simp [bound.2]⟩
  · cases h

theorem sliceAt_of_lt {α : Type} {s : List α} {i : Int} (lower : 0 ≤ i) (upper : i < s.length) :
    ∃ a, sliceAt s i = .ok a ∧ s[i.toNat]? = some a := by
  have bound : i.toNat < s.length := by omega
  exact ⟨s.get ⟨i.toNat, bound⟩, by simp [sliceAt, lower, bound], by simp [bound]⟩

theorem sliceAt_of_get {α : Type} {s : List α} {i : Int} {a : α} (lower : 0 ≤ i)
    (found : s[i.toNat]? = some a) : sliceAt s i = .ok a := by
  obtain ⟨bound, rfl⟩ := List.getElem?_eq_some_iff.mp found
  simp [sliceAt, lower, bound]

theorem sliceAt_panics {α : Type} {s : List α} {i : Int} (outside : i < 0 ∨ s.length ≤ i) :
    sliceAt s i = .error (.indexOutOfRange i s.length) := by
  unfold sliceAt
  rw [dif_neg (by omega)]

theorem except_bind_ok {ε α β : Type} {x : Except ε α} {f : α → Except ε β} {b : β}
    (h : x >>= f = .ok b) : ∃ a, x = .ok a ∧ f a = .ok b := by
  cases x with
  | error e => cases h
  | ok a => exact ⟨a, rfl, h⟩

theorem except_map_ok {ε α β : Type} {f : α → β} {x : Except ε α} {b : β} (h : f <$> x = .ok b) :
    ∃ a, x = .ok a ∧ f a = b := by
  cases x with
  | error e => cases h
  | ok a => exact ⟨a, rfl, by cases h; rfl⟩

end Xlsx
