import Xlsx.Style.Marshal

namespace Xlsx

variable {Parsed : Type}

/-- `[]byte(s)`: the UTF-8 bytes of `s`. -/
def toBytes (s : String) : List UInt8 := s.data.flatMap String.utf8EncodeChar

/-- `bytebufferpool.ByteBuffer`, reduced to its slice `B`, as a fresh buffer from the pool. Every
emitter puts its buffer back into the pool right after `Get` and goes on writing to it. On one
goroutine the pool hands that same buffer to the next `Get`, so nested emitters reset and overwrite
each other's bytes; that reuse, and the pool itself, are not modelled. -/
structure ByteBuffer where
  B : List UInt8 := []

def ByteBuffer.WriteString (b : ByteBuffer) (s : String) : ByteBuffer := { B := b.B ++ toBytes s }

def ByteBuffer.Write (b : ByteBuffer) (p : List UInt8) : ByteBuffer := { B := b.B ++ p }

def ByteBuffer.WriteByte (b : ByteBuffer) (c : Char) : ByteBuffer := { B := b.B ++ [c.toUInt8] }

/-- No closing `"/>` is written after the format code. -/
def xlsxNumFmt.MarshalBytes (numFmt : xlsxNumFmt) : List UInt8 :=
  let b : ByteBuffer := {}
  let formatCode : ByteBuffer := ({} : ByteBuffer).WriteString (escapeText numFmt.FormatCode)
  let b := b.WriteString "<numFmt numFmtId=\""
  let b := b.WriteString (toString numFmt.NumFmtId)
  let b := b.WriteString "\" formatCode=\""
  let b := b.Write formatCode.B
  b.B

def xlsxNumFmts.MarshalBytes (numFmts : xlsxNumFmts) : List UInt8 :=
  let b : ByteBuffer := {}
  let b :=
    if numFmts.Count > 0 then
      let b := b.WriteString "<numFmts count=\""
      let b := b.WriteString (toString numFmts.Count)
      let b := b.WriteString "\">"
      let b := numFmts.NumFmt.foldl (fun b numFmt => b.Write numFmt.MarshalBytes) b
      b.WriteString "</numFmts>"
    else b
  b.B

/-- The theme colour is closed with `"/>`, where `Marshal` writes `" />`. -/
def xlsxFont.MarshalBytes (font : xlsxFont) : List UInt8 :=
  let b : ByteBuffer := {}
  let b := b.WriteString "<font>"
  let b := if font.Sz.Val != "" then ((b.WriteString "<sz val=\"").WriteString font.Sz.Val).WriteString "\"/>" else b
  let b :=
    if font.Name.Val != "" then ((b.WriteString "<name val=\"").WriteString font.Name.Val).WriteString "\"/>" else b
  let b :=
    if font.Family.Val != "" then ((b.WriteString "<family val=\"").WriteString font.Family.Val).WriteString "\"/>"
    else b
  let b :=
    if font.Charset.Val != "" then ((b.WriteString "<charset val=\"").WriteString font.Charset.Val).WriteString "\"/>"
    else b
  let b :=
    if font.Color.RGB != "" then ((b.WriteString "<color rgb=\"").WriteString font.Color.RGB).WriteString "\"/>"
    else b
  let b := match font.Color.Theme with
    | some theme => ((b.WriteString "<color theme=\"").WriteString (toString theme)).WriteString "\"/>"
    | none => b
  let b := match font.Scheme with
    | some scheme =>
      if scheme.Val != "" then ((b.WriteString "<scheme val=\"").WriteString scheme.Val).WriteString "\"/>" else b
    | none => b
  let b := if font.B.isSome then b.WriteString "<b/>" else b
  let b := if font.I.isSome then b.WriteString "<i/>" else b
  let b := if font.U.isSome then b.WriteString "<u/>" else b
  let b := if font.Strike.isSome then b.WriteString "<strike/>" else b
  (b.WriteString "</font>").B

def xlsxPatternFill.MarshalBytes (patternFill : xlsxPatternFill) : List UInt8 :=
  let b : ByteBuffer := {}
  let b := b.WriteString "<patternFill patternType=\""
  let b := b.WriteString patternFill.PatternType
  let b := b.WriteByte '"'
  let subparts : ByteBuffer := {}
  let (ending, terminator, subparts) :=
    if patternFill.FgColor.RGB != "" then
      (">", "</patternFill>",
        ((subparts.WriteString "<fgColor rgb=\"").WriteString patternFill.FgColor.RGB).WriteString "\"/>")
    else ("/>", "", subparts)
  let (ending, terminator, subparts) :=
    if patternFill.BgColor.RGB != "" then
      (">", "</patternFill>",
        ((subparts.WriteString "<bgColor rgb=\"").WriteString patternFill.BgColor.RGB).WriteString "\"/>")
    else (ending, terminator, subparts)
  let b := b.WriteString ending
  let b := b.Write subparts.B
  (b.WriteString terminator).B

def xlsxFill.MarshalBytes (fill : xlsxFill) : List UInt8 :=
  let b : ByteBuffer := {}
  let b :=
    if fill.PatternFill.PatternType != "" then
      ((b.WriteString "<fill>").Write fill.PatternFill.MarshalBytes).WriteString "</fill>"
    else b
  b.B

def xlsxBorder.marshalBorderLineBytes (line : xlsxLine) (name : String) : List UInt8 :=
  let b : ByteBuffer := {}
  if line.Style = "" then ((((b.WriteByte '<').WriteString name).WriteByte '/').WriteByte '>').B
  else
    let b := ((((b.WriteByte '<').WriteString name).WriteString " style=\"").WriteString line.Style).WriteString "\">"
    let b := if line.Color.RGB != "" then ((b.WriteString "<color rgb=\"").WriteString line.Color.RGB).WriteString "\"/>"
      else b
    ((((b.WriteByte '<').WriteByte '/').WriteString name).WriteByte '>').B

def xlsxBorder.MarshalBytes (border : xlsxBorder) : List UInt8 :=
  let b : ByteBuffer := {}
  let b := b.WriteString "<border>"
  let b := b.Write (xlsxBorder.marshalBorderLineBytes border.Left "left")
  let b := b.Write (xlsxBorder.marshalBorderLineBytes border.Right "right")
  let b := b.Write (xlsxBorder.marshalBorderLineBytes border.Top "top")
  let b := b.Write (xlsxBorder.marshalBorderLineBytes border.Bottom "bottom")
  (b.WriteString "</border>").B

def marshalBytesEntries {α : Type} (marshal : α → List UInt8) :
    List α → Int → Int × OutputMap × ByteBuffer → Int × OutputMap × ByteBuffer
  | [], _, acc => acc
  | x :: xs, i, (emittedCount, outputMap, subparts) =>
    marshalBytesEntries marshal xs (i + 1)
      (if (marshal x).length > 0 then (emittedCount + 1, outputMap.insert i emittedCount, subparts.Write (marshal x))
       else (emittedCount, outputMap, subparts))

def xlsxFonts.MarshalBytes (fonts : xlsxFonts) (outputFontMap : OutputMap) : List UInt8 × OutputMap :=
  let b : ByteBuffer := {}
  let (emittedCount, outputFontMap, subparts) :=
    marshalBytesEntries xlsxFont.MarshalBytes fonts.Font 0 (0, outputFontMap, {})
  let b :=
    if emittedCount > 0 then
      ((((b.WriteString "<fonts count=\"").WriteString (toString fonts.Count)).WriteString "\">").Write
        subparts.B).WriteString "</fonts>"
    else b
  (b.B, outputFontMap)

def xlsxFills.MarshalBytes (fills : xlsxFills) (outputFillMap : OutputMap) : List UInt8 × OutputMap :=
  let b : ByteBuffer := {}
  let (emittedCount, outputFillMap, subparts) :=
    marshalBytesEntries xlsxFill.MarshalBytes fills.Fill 0 (0, outputFillMap, {})
  let b :=
    if emittedCount > 0 then
      ((((b.WriteString "<fills count=\"").WriteString (toString emittedCount)).WriteString "\">").Write
        subparts.B).WriteString "</fills>"
    else b
  (b.B, outputFillMap)

/-- The opening tag is closed with `">"`, one quote too many. -/
def xlsxBorders.MarshalBytes (borders : xlsxBorders) (outputBorderMap : OutputMap) : List UInt8 × OutputMap :=
  let b : ByteBuffer := {}
  let (emittedCount, outputBorderMap, subparts) :=
    marshalBytesEntries xlsxBorder.MarshalBytes borders.Border 0 (0, outputBorderMap, {})
  let b :=
    if emittedCount > 0 then
      ((((b.WriteString "<borders count=\"").WriteString (toString emittedCount)).WriteString "\">\"").Write
        subparts.B).WriteString "</borders>"
    else b
  (b.B, outputBorderMap)

/-- The horizontal value is not closed with a quote. -/
def xlsxAlignment.MarshalBytes (alignment : xlsxAlignment) : List UInt8 :=
  let b : ByteBuffer := {}
  let horizontal := if alignment.Horizontal = "" then "general" else alignment.Horizontal
  let vertical := if alignment.Vertical = "" then "bottom" else alignment.Vertical
  let b := b.WriteString "<alignment horizontal=\""
  let b := b.WriteString horizontal
  let b := b.WriteString " indent=\""
  let b := b.WriteString (toString alignment.Indent)
  let b := b.WriteString "\" shrinkToFit=\""
  let b := b.WriteString (toString (bool2Int alignment.ShrinkToFit))
  let b := b.WriteString "\" textRotation=\""
  let b := b.WriteString (toString alignment.TextRotation)
  let b := b.WriteString "\" vertical=\""
  let b := b.WriteString vertical
  let b := b.WriteString "\" wrapText=\""
  let b := b.WriteString (toString (bool2Int alignment.WrapText))
  (b.WriteString "\"/>").B

/-- The font id is not closed with a quote. -/
def xlsxXf.MarshalBytes (xf : xlsxXf) (outputBorderMap outputFillMap outputFontMap : OutputMap) : List UInt8 :=
  let b : ByteBuffer := {}
  let b := b.WriteString "<xf applyAlignment=\""
  let b := b.WriteString (toString (bool2Int xf.ApplyAlignment))
  let b := b.WriteString "\" applyBorder=\""
  let b := b.WriteString (toString (bool2Int xf.ApplyBorder))
  let b := b.WriteString "\" applyFont=\""
  let b := b.WriteString (toString (bool2Int xf.ApplyFont))
  let b := b.WriteString "\" applyFill=\""
  let b := b.WriteString (toString (bool2Int xf.ApplyFill))
  let b := b.WriteString "\" applyNumberFormat=\""
  let b := b.WriteString (toString (bool2Int xf.ApplyNumberFormat))
  let b := b.WriteString "\" applyProtection=\""
  let b := b.WriteString (toString (bool2Int xf.ApplyProtection))
  let b := b.WriteString "\" borderId=\""
  let b := b.WriteString (toString (outputBorderMap.get xf.BorderId))
  let b := b.WriteString "\" fillId=\""
  let b := b.WriteString (toString (outputFillMap.get xf.FillId))
  let b := b.WriteString "\" fontId=\""
  let b := b.WriteString (toString (outputFontMap.get xf.FontId))
  let b := b.WriteString " numFmtId=\""
  let b := b.WriteString (toString xf.NumFmtId)
  let b := b.WriteByte '"'
  let b := match xf.XfId with
    | some xfId => ((b.WriteString " xfId=\"").WriteString (toString xfId)).WriteByte '"'
    | none => b
  let b := b.WriteByte '>'
  let b := b.Write xf.Alignment.MarshalBytes
  (b.WriteString "</xf>").B

def xlsxCellStyleXfs.MarshalBytes (cellStyleXfs : xlsxCellStyleXfs)
    (outputBorderMap outputFillMap outputFontMap : OutputMap) : List UInt8 :=
  let b : ByteBuffer := {}
  let b :=
    if cellStyleXfs.Count > 0 then
      let b := ((b.WriteString "<cellStyleXfs count=\"").WriteString (toString cellStyleXfs.Count)).WriteString "\">"
      let b := cellStyleXfs.Xf.foldl (fun b xf => b.Write (xf.MarshalBytes outputBorderMap outputFillMap outputFontMap)) b
      b.WriteString "</cellStyleXfs>"
    else b
  b.B

def xlsxCellXfs.MarshalBytes (cellXfs : xlsxCellXfs) (outputBorderMap outputFillMap outputFontMap : OutputMap) :
    List UInt8 :=
  let b : ByteBuffer := {}
  let b :=
    if cellXfs.Count > 0 then
      let b := ((b.WriteString "<cellXfs count=\"").WriteString (toString cellXfs.Count)).WriteString "\">"
      let b := cellXfs.Xf.foldl (fun b xf => b.Write (xf.MarshalBytes outputBorderMap outputFillMap outputFontMap)) b
      b.WriteString "</cellXfs>"
    else b
  b.B

section Sheet

/- `xml.Marshal` of one cell style, as for `Marshal`; and the package's `xmlHeader` bytes, which
are not under `src/`. -/
variable (marshalCellStyle : xlsxCellStyle → Except String String) (xmlHeader : List UInt8)

def xlsxCellStyles.MarshalBytes (cellStyles : xlsxCellStyles) : Except String (List UInt8) :=
  let b : ByteBuffer := {}
  if cellStyles.Count > 0 then do
    let b := ((b.WriteString "<cellStyles count=\"").WriteString (toString cellStyles.Count)).WriteString "\">"
    let xCellStyles ← cellStyles.CellStyle.mapM marshalCellStyle
    let b := xCellStyles.foldl (fun b xCellStyle => b.Write (toBytes xCellStyle)) b
    pure (b.WriteString "</cellStyles>").B
  else pure b.B

def xlsxStyleSheet.MarshalBytes (styles : xlsxStyleSheet Parsed) : Except String (List UInt8) :=
  let b : ByteBuffer := {}
  let b := b.Write xmlHeader
  let b := b.WriteString styleSheetTag
  let b := match styles.NumFmts with
    | some numFmts => b.Write numFmts.MarshalBytes
    | none => b
  let (xfonts, outputFontMap) := styles.Fonts.MarshalBytes ∅
  let b := b.Write xfonts
  let (xfills, outputFillMap) := styles.Fills.MarshalBytes ∅
  let b := b.Write xfills
  let (xborders, outputBorderMap) := styles.Borders.MarshalBytes ∅
  let b := b.Write xborders
  let b := match styles.CellStyleXfs with
    | some cellStyleXfs => b.Write (cellStyleXfs.MarshalBytes outputBorderMap outputFillMap outputFontMap)
    | none => b
  let b := b.Write (styles.CellXfs.MarshalBytes outputBorderMap outputFillMap outputFontMap)
  match styles.CellStyles with
  | some cellStyles => do
    let xcellStyles ← cellStyles.MarshalBytes marshalCellStyle
    pure ((b.Write xcellStyles).WriteString "</styleSheet>").B
  | none => pure (b.WriteString "</styleSheet>").B

end Sheet

@[simp] theorem ByteBuffer.WriteString_B (b : ByteBuffer) (s : String) : (b.WriteString s).B = b.B ++ toBytes s := rfl

@[simp] theorem ByteBuffer.Write_B (b : ByteBuffer) (p : List UInt8) : (b.Write p).B = b.B ++ p := rfl

theorem xlsxStyleSheet.MarshalBytes_header (marshalCellStyle : xlsxCellStyle → Except String String)
    (xmlHeader : List UInt8) (styles : xlsxStyleSheet Parsed) :
    styles.MarshalBytes marshalCellStyle xmlHeader = (xmlHeader ++ ·) <$> styles.MarshalBytes marshalCellStyle [] := by
  unfold xlsxStyleSheet.MarshalBytes
  cases styles.Fonts.MarshalBytes ∅
  cases styles.Fills.MarshalBytes ∅
  cases styles.Borders.MarshalBytes ∅
  cases styles.NumFmts <;> cases styles.CellStyleXfs <;> cases styles.CellStyles
  all_goals simp only [ByteBuffer.Write_B, ByteBuffer.WriteString_B, List.nil_append, bind, Except.bind,
    Functor.map, Except.map, pure, Except.pure, List.append_assoc]
  all_goals try split <;> rfl

theorem getD_suffix_map_append {ε : Type} (x : Except ε (List UInt8)) (header : List UInt8) :
    x.toOption.getD [] <:+ ((header ++ ·) <$> x).toOption.getD [] := by
  cases x with
  | error => exact List.suffix_refl _
  | ok bytes => exact List.suffix_append header bytes

/-- A sheet whose one border is the empty border `reset` adds: whatever the package's header
bytes, the byte emitter's output is not the bytes of `Marshal`'s, since it opens the borders
element with `">"`. -/
theorem MarshalBytes_differs_from_Marshal (xmlHeader : List UInt8) :
    let styles : xlsxStyleSheet Unit := { Borders := { Count := 1, Border := [{}] } }
    styles.MarshalBytes (fun _ => .ok "") xmlHeader ≠ toBytes <$> styles.Marshal (fun _ => .ok "") := by
  intro styles
  have differs : ¬ (styles.MarshalBytes (fun _ => .ok "") []).toOption.getD [] <:+
      (toBytes <$> styles.Marshal (fun _ => .ok "")).toOption.getD [] := by
    set_option maxRecDepth 4000 in decide
  rw [xlsxStyleSheet.MarshalBytes_header]
  intro same
  exact differs (same ▸ getD_suffix_map_append _ xmlHeader)

end Xlsx
