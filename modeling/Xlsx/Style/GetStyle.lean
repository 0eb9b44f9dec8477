import Xlsx.Style.Run

namespace Xlsx

variable {Parsed : Type} {lib : Collaborators Parsed} {styles : xlsxStyleSheet Parsed} {styleIndex : Int}

theorem getStyle_of_cached {style : Style} (cached : styles.styleCache.bind (·.lookup styleIndex) = some style) :
    getStyle lib styles styleIndex = .ok (style, styles) := by
  simp only [getStyle, cached]
  rfl

theorem getStyle_of_miss {style : Style} {styleCache : StyleCache}
    (missed : styles.styleCache.bind (·.lookup styleIndex) = none) (present : styles.styleCache = some styleCache)
    (inRange : styleIndexInRange styles styleIndex) (resolved : uncachedStyle lib styles styleIndex = .ok style) :
    getStyle lib styles styleIndex =
      .ok (style, { styles with styleCache := some (styleCache.insert styleIndex style) }) := by
  simp only [uncachedStyle, if_pos inRange] at resolved
  obtain ⟨xf, xfAt, resolved⟩ := except_bind_ok resolved
  simp only [present, Option.some_bind] at missed
  simp only [getStyle, present, Option.some_bind, missed, if_pos inRange, xfAt, bind, Except.bind, resolved]
  rfl

theorem reset_styleCache (styles : xlsxStyleSheet Parsed) : (reset styles).styleCache = styles.styleCache :=
  rfl

theorem getStyle_reset_of_cached {style : Style}
    (cached : styles.styleCache.bind (·.lookup styleIndex) = some style) :
    getStyle lib (reset styles) styleIndex = .ok (style, reset styles) :=
  getStyle_of_cached (by rw [reset_styleCache]; exact cached)

/-- A cell format with left alignment is added after `reset` and resolved, so its style is
cached under index 1; after a second `reset` index 1 is out of range, but `getStyle` still
answers the cached style. -/
theorem getStyle_stale_after_reset :
    let lib : Collaborators Unit := ⟨fun _ => 0, fun _ => 0, fun _ => ()⟩
    let xf : xlsxXf := { Alignment := { Horizontal := "left" } }
    let styles := reset (newXlsxStyleSheet none : xlsxStyleSheet Unit)
    (addCellXf styles xf).1 = 1 ∧
      ∃ style cached, getStyle lib (addCellXf styles xf).2 1 = .ok (style, cached) ∧
        style.Alignment.Horizontal = "left" ∧
        (getStyle lib (reset cached) 1).map (·.1) = .ok style ∧
        uncachedStyle lib (reset cached) 1 = .ok {} := by
  intro lib xf styles
  have resolved := @getStyle_of_miss _ lib (addCellXf styles xf).2 1 _ _ rfl rfl (by decide) rfl
  refine ⟨rfl, _, _, resolved, rfl, (congrArg (Except.map (·.1)) (getStyle_reset_of_cached ?_)).trans rfl, rfl⟩
  rfl

theorem cascadeNamedStyle_of_negative {xf : xlsxXf} {xfId : Int} {cellStyleXfs : xlsxCellStyleXfs}
    (named : xf.XfId = some xfId) (negative : xfId < 0) (present : styles.CellStyleXfs = some cellStyleXfs)
    (style : Style) :
    cascadeNamedStyle styles style xf = .error (.indexOutOfRange xfId cellStyleXfs.Xf.length) := by
  simp only [cascadeNamedStyle, named, present, if_pos (show xfId < cellStyleXfs.Xf.length by omega),
    sliceAt_panics (.inl negative)]
  rfl

theorem getStyle_of_negative_XfId {xf : xlsxXf} {style : Style} {xfId : Int} {cellStyleXfs : xlsxCellStyleXfs}
    (missed : styles.styleCache.bind (·.lookup styleIndex) = none) (inRange : styleIndexInRange styles styleIndex)
    (xfAt : sliceAt styles.CellXfs.Xf styleIndex = .ok xf) (populated : populateStyleFromXf lib styles {} xf = .ok style)
    (named : xf.XfId = some xfId) (negative : xfId < 0) (present : styles.CellStyleXfs = some cellStyleXfs) :
    getStyle lib styles styleIndex = .error (.indexOutOfRange xfId cellStyleXfs.Xf.length) := by
  simp only [getStyle, missed, if_pos inRange, xfAt, resolveStyle, populated, bind, Except.bind,
    cascadeNamedStyle_of_negative named negative present]

/-- A sheet read from a document whose only cell format names the named style `-1`. -/
theorem getStyle_reads_negative_XfId :
    let lib : Collaborators Unit := ⟨fun _ => 0, fun _ => 0, fun _ => ()⟩
    let styles : xlsxStyleSheet Unit :=
      { newXlsxStyleSheet none with
        CellXfs := { Count := 1, Xf := [{ XfId := some (-1) }] }
        CellStyleXfs := some { Count := 1, Xf := [{}] } }
    getStyle lib styles 0 = .error (.indexOutOfRange (-1) 1) := by
  intro lib styles
  exact @getStyle_of_negative_XfId _ lib styles 0 _ _ _ _ rfl (by decide) rfl rfl rfl (by decide) rfl

/-- A cell format with no vertical alignment under a named style aligned to the centre: the
cascade applies the named style, but the resolved vertical alignment stays empty. -/
theorem getStyle_ignores_named_vertical :
    let lib : Collaborators Unit := ⟨fun _ => 0, fun _ => 0, fun _ => ()⟩
    let styles : xlsxStyleSheet Unit :=
      { newXlsxStyleSheet none with
        CellXfs := { Count := 1, Xf := [{ XfId := some 0 }] }
        CellStyleXfs := some { Count := 1, Xf := [{ Alignment := { Vertical := "center" } }] } }
    (getStyle lib styles 0).map (fun result => (result.1.NamedStyleIndex, result.1.Alignment.Vertical)) =
      .ok (some 0, "") :=
  rfl

theorem argbValue_of_no_colors {color : xlsxColor} (unthemed : color.Theme = none ∨ styles.theme = none)
    (absent : styles.Colors = none) : argbValue styles color = .ok color.RGB := by
  unfold argbValue
  split
  · rcases unthemed with h | h <;> simp_all
  · simp only [absent]
    split <;> simp_all

/-- A sheet with no `colors` element and no theme: colour 3 of the legacy palette is red, but
`argbValue` answers the colour's own `rgb` value. -/
theorem argbValue_skips_legacy_palette :
    let styles : xlsxStyleSheet Unit := newXlsxStyleSheet none
    let color : xlsxColor := { RGB := "FF123456", Indexed := some 3 }
    xlsxIndexedColors[2]? = some "FFFF0000" ∧ argbValue styles color = .ok "FF123456" :=
  ⟨rfl, argbValue_of_no_colors (.inl rfl) rfl⟩

end Xlsx
