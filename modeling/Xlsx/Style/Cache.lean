import Xlsx.Style.GetStyle
import Xlsx.Style.NumFmtRun

namespace Xlsx

open Relation
open List (prefix_rfl prefix_append)

variable {Parsed : Type} {lib : Collaborators Parsed} {styles styles' : xlsxStyleSheet Parsed}

/-! Outside `reset`, the five interned tables are only appended to, and what `getStyle` resolves
from an index depends only on entries that are already there. Its cache therefore answers what
the plain resolution would, as long as every cell format refers to entries the tables hold. -/

/-! Congruence and success of the binds the resolution is written with, taken one bind or one
guard at a time so that the join points of a do-block are never unfolded together. -/

section Except

variable {ε α β : Type}

theorem except_bind_congr {x x' : Except ε α} {f f' : α → Except ε β} (first : x' = x)
    (rest : ∀ a, f' a = f a) : x' >>= f' = x >>= f := by
  rw [first, funext rest]

end Except

theorem sliceAt_of_grown {α : Type} {l l' : List α} {i : Int} (grown : l <+: l') (lower : 0 ≤ i)
    (upper : i < l.length) : sliceAt l' i = sliceAt l i := by
  have inside : i.toNat < l.length := by omega
  have inside' : i.toNat < l'.length := lt_of_lt_of_le inside grown.length_le
  simp only [sliceAt, lower, inside, inside', and_self, dite_true, List.get_eq_getElem]
  rw [List.IsPrefix.getElem grown inside]

theorem StyleTable.add_keeps {α β : Type} {table : StyleTable Parsed α} (f : xlsxStyleSheet Parsed → β)
    (keeps : ∀ styles c l, f (table.store styles c l) = f styles) (styles : xlsxStyleSheet Parsed) (x : α) :
    f (table.add styles x).2 = f styles := by
  unfold StyleTable.add
  split
  · rfl
  · exact keeps _ _ _

theorem StyleTable.count_le_of_grown {α : Type} (table : StyleTable Parsed α)
    (agree : table.count styles = (table.entries styles).length)
    (agree' : table.count styles' = (table.entries styles').length)
    (grown : table.entries styles <+: table.entries styles') : table.count styles ≤ table.count styles' := by
  have := grown.length_le
  omega

/-- `styles'` keeps every entry of the five tables of `styles` at its index, and the same theme
and colours: what a run of steps without `reset` leaves. -/
structure Extends (styles styles' : xlsxStyleSheet Parsed) : Prop where
  fonts : styles.Fonts.Font <+: styles'.Fonts.Font
  fills : styles.Fills.Fill <+: styles'.Fills.Fill
  borders : styles.Borders.Border <+: styles'.Borders.Border
  cellStyleXfs : (styles.CellStyleXfs.getD {}).Xf <+: (styles'.CellStyleXfs.getD {}).Xf
  cellXfs : styles.CellXfs.Xf <+: styles'.CellXfs.Xf
  theme : styles'.theme = styles.theme
  colors : styles'.Colors = styles.Colors

namespace Extends

theorem refl (styles : xlsxStyleSheet Parsed) : Extends styles styles :=
  ⟨prefix_rfl, prefix_rfl, prefix_rfl, prefix_rfl, prefix_rfl, rfl, rfl⟩

theorem trans {styles'' : xlsxStyleSheet Parsed} (first : Extends styles styles')
    (second : Extends styles' styles'') : Extends styles styles'' :=
  ⟨first.fonts.trans second.fonts, first.fills.trans second.fills, first.borders.trans second.borders,
    first.cellStyleXfs.trans second.cellStyleXfs, first.cellXfs.trans second.cellXfs,
    second.theme.trans first.theme, second.colors.trans first.colors⟩

theorem of_add {α : Type} {table : StyleTable Parsed α} {x : α}
    (stored : ∀ c, Extends styles (table.store styles c (table.entries styles ++ [x]))) :
    Extends styles (table.add styles x).2 := by
  unfold StyleTable.add
  split
  · exact .refl _
  · exact stored _

end Extends

theorem StyleOp.run_extends {op : StyleOp} (kept : op ≠ .reset) (ran : op.run lib styles = .ok styles') :
    Extends styles styles' := by
  cases op <;> simp only [StyleOp.run, pure, Except.pure, Except.ok.injEq] at ran <;> subst_vars
  case reset => exact absurd rfl kept
  case addFont =>
    unfold Xlsx.addFont
    split
    · exact .refl _
    · exact .of_add fun _ => ⟨prefix_append _ _, prefix_rfl, prefix_rfl, prefix_rfl, prefix_rfl, rfl, rfl⟩
  case addFill => exact .of_add fun _ => ⟨prefix_rfl, prefix_append _ _, prefix_rfl, prefix_rfl, prefix_rfl, rfl, rfl⟩
  case addBorder =>
    exact .of_add fun _ => ⟨prefix_rfl, prefix_rfl, prefix_append _ _, prefix_rfl, prefix_rfl, rfl, rfl⟩
  case addCellStyleXf =>
    have emptied : Extends styles
        (if styles.CellStyleXfs.isNone then { styles with CellStyleXfs := some { Count := 0 } } else styles) := by
      split
      · rename_i none
        simp only [Option.isNone_iff_eq_none] at none
        exact ⟨prefix_rfl, prefix_rfl, prefix_rfl, by simp [none], prefix_rfl, rfl, rfl⟩
      · exact .refl _
    exact emptied.trans (.of_add fun _ => ⟨prefix_rfl, prefix_rfl, prefix_rfl, prefix_append _ _, prefix_rfl, rfl, rfl⟩)
  case addCellXf =>
    exact .of_add fun _ => ⟨prefix_rfl, prefix_rfl, prefix_rfl, prefix_rfl, prefix_append _ _, rfl, rfl⟩
  case addNumFmt =>
    obtain ⟨_, _, same⟩ := addNumFmt_frame styles ‹_›
    rw [same]
    exact ⟨prefix_rfl, prefix_rfl, prefix_rfl, prefix_rfl, prefix_rfl, rfl, rfl⟩
  case newNumFmt =>
    obtain ⟨_, _, same⟩ := newNumFmt_frame styles ‹_›
    rw [same]
    exact ⟨prefix_rfl, prefix_rfl, prefix_rfl, prefix_rfl, prefix_rfl, rfl, rfl⟩
  case getStyle =>
    obtain ⟨⟨_, _⟩, got, rfl⟩ := except_map_ok ran
    obtain ⟨_, rfl⟩ := getStyle_frame got
    exact ⟨prefix_rfl, prefix_rfl, prefix_rfl, prefix_rfl, prefix_rfl, rfl, rfl⟩
  case getNumberFormat =>
    obtain ⟨⟨_, _⟩, got, rfl⟩ := except_map_ok ran
    obtain ⟨_, rfl⟩ := getNumberFormat_frame got
    exact ⟨prefix_rfl, prefix_rfl, prefix_rfl, prefix_rfl, prefix_rfl, rfl, rfl⟩

theorem Extends.of_run (run : ReflTransGen (StyleStepKeeping lib) styles styles') : Extends styles styles' := by
  induction run with
  | refl => exact .refl _
  | tail _ step grown =>
    obtain ⟨op, kept, ran⟩ := step
    exact grown.trans (StyleOp.run_extends kept ran)

/-- Whatever operations other than `reset` are made on a sheet, every font, fill, border, named
cell format, cell format and custom number format it held stays at its index, and the theme
and colours stay: an index handed out by an `add` call keeps naming the same entry. -/
theorem style_tables_append_only (run : ReflTransGen (StyleStepKeeping lib) styles styles') :
    Extends styles styles' ∧ numFmtEntries styles <+: numFmtEntries styles' :=
  ⟨.of_run run, StyleStepKeeping.grows_run run⟩

theorem style_tables_append_only_after_addFont :
    let lib : Collaborators Unit := ⟨fun _ => 0, fun _ => 0, fun _ => ()⟩
    let styles := reset (newXlsxStyleSheet none : xlsxStyleSheet Unit)
    ReflTransGen (StyleStepKeeping lib) styles (addFont styles { Name := ⟨"Calibri"⟩ }).2 ∧
      Extends styles (addFont styles { Name := ⟨"Calibri"⟩ }).2 ∧
      numFmtEntries styles <+: numFmtEntries (addFont styles { Name := ⟨"Calibri"⟩ }).2 :=
  have run := ReflTransGen.single ⟨.addFont { Name := ⟨"Calibri"⟩ }, nofun, rfl⟩
  ⟨run, style_tables_append_only run⟩

/-! ### Resolution reads only entries that are already there -/

/-- The entries `xf` names are in the tables of `styles`: its border, fill and font below their
`Count`, and its named style, if any, an index of `CellStyleXfs`. -/
def xlsxXf.ReferencesWithin (xf : xlsxXf) (styles : xlsxStyleSheet Parsed) : Prop :=
  xf.BorderId < styles.Borders.Count ∧ xf.FillId < styles.Fills.Count ∧ xf.FontId < styles.Fonts.Count ∧
    ∀ xfId, xf.XfId = some xfId → 0 ≤ xfId ∧ xfId < (styles.CellStyleXfs.getD {}).Xf.length

section Grown

variable (ext : Extends styles styles') (agree : TablesAgree styles) (agree' : TablesAgree styles')
include ext agree agree'

theorem xlsxXf.ReferencesWithin.mono {xf : xlsxXf} (within : xf.ReferencesWithin styles) :
    xf.ReferencesWithin styles' := by
  obtain ⟨border, fill, font, named⟩ := within
  refine ⟨lt_of_lt_of_le border ?_, lt_of_lt_of_le fill ?_, lt_of_lt_of_le font ?_, fun xfId found => ?_⟩
  · exact StyleTable.count_le_of_grown borderTable agree.2.2.1 agree'.2.2.1 ext.borders
  · exact StyleTable.count_le_of_grown fillTable agree.2.1 agree'.2.1 ext.fills
  · exact StyleTable.count_le_of_grown fontTable agree.1 agree'.1 ext.fonts
  · have grown := ext.cellStyleXfs.length_le
    have := named xfId found
    omega

theorem styleIndexInRange.mono {styleIndex : Int} (inRange : styleIndexInRange styles styleIndex) :
    styleIndexInRange styles' styleIndex := by
  have := StyleTable.count_le_of_grown cellXfTable agree.2.2.2.2 agree'.2.2.2.2 ext.cellXfs
  simp only [styleIndexInRange, cellXfTable] at inRange this ⊢
  omega

omit agree agree' in
theorem argbValue_of_extends (color : xlsxColor) : argbValue styles' color = argbValue styles color := by
  simp only [argbValue, ext.theme, ext.colors]

theorem populateStyleFromXf_of_extends {xf : xlsxXf} (within : xf.ReferencesWithin styles) (style : Style) :
    populateStyleFromXf lib styles' style xf = populateStyleFromXf lib styles style xf := by
  obtain ⟨fonts, fills, borders, -, -⟩ := agree
  obtain ⟨fonts', fills', borders', -, -⟩ := agree'
  obtain ⟨borderWithin, fillWithin, fontWithin, -⟩ := within
  simp only [agreesProperty, fontTable, fillTable, borderTable] at fonts fills borders fonts' fills' borders'
  have fontGuard : xf.FontId < styles'.Fonts.Count ↔ xf.FontId < styles.Fonts.Count := by
    have := ext.fonts.length_le; omega
  have fillGuard : xf.FillId < styles'.Fills.Count ↔ xf.FillId < styles.Fills.Count := by
    have := ext.fills.length_le; omega
  have borderGuard : xf.BorderId < styles'.Borders.Count ↔ xf.BorderId < styles.Borders.Count := by
    have := ext.borders.length_le; omega
  have fontAt (lower : xf.FontId > -1) : sliceAt styles'.Fonts.Font xf.FontId = sliceAt styles.Fonts.Font xf.FontId :=
    sliceAt_of_grown ext.fonts (by omega) (by omega)
  have fillAt (lower : xf.FillId > -1) : sliceAt styles'.Fills.Fill xf.FillId = sliceAt styles.Fills.Fill xf.FillId :=
    sliceAt_of_grown ext.fills (by omega) (by omega)
  have borderAt (lower : xf.BorderId > -1) :
      sliceAt styles'.Borders.Border xf.BorderId = sliceAt styles.Borders.Border xf.BorderId :=
    sliceAt_of_grown ext.borders (by omega) (by omega)
  unfold populateStyleFromXf
  refine ite_congr (propext (and_congr_right fun _ => borderGuard))
    (fun guard => except_bind_congr (borderAt guard.1) fun _ => except_bind_congr rfl fun _ => ?_)
    fun _ => except_bind_congr rfl fun _ => ?_ <;>
  refine ite_congr (propext (and_congr_right fun _ => fillGuard))
    (fun guard => except_bind_congr (fillAt guard.1) fun _ => except_bind_congr (argbValue_of_extends ext _) fun _ =>
      except_bind_congr (argbValue_of_extends ext _) fun _ => except_bind_congr rfl fun _ => ?_)
    fun _ => except_bind_congr rfl fun _ => ?_ <;>
  refine ite_congr (propext (and_congr_right fun _ => fontGuard))
    (fun guard => except_bind_congr (fontAt guard.1) fun _ => except_bind_congr (argbValue_of_extends ext _) fun _ =>
      except_bind_congr rfl fun _ => ?_)
    fun _ => except_bind_congr rfl fun _ => ?_ <;>
  rfl

omit agree agree' in
theorem cascadeNamedStyle_of_extends {xf : xlsxXf}
    (within : ∀ xfId, xf.XfId = some xfId → 0 ≤ xfId ∧ xfId < (styles.CellStyleXfs.getD {}).Xf.length)
    (style : Style) : cascadeNamedStyle styles' style xf = cascadeNamedStyle styles style xf := by
  unfold cascadeNamedStyle
  cases named : xf.XfId with
  | none => rfl
  | some xfId =>
    obtain ⟨lower, upper⟩ := within xfId named
    have grown := ext.cellStyleXfs
    cases present : styles.CellStyleXfs with
    | none => simp [present] at upper; omega
    | some cellStyleXfs =>
      cases present' : styles'.CellStyleXfs with
      | none =>
        have := grown.length_le
        simp only [present, present', Option.getD_some, Option.getD_none, List.length_nil] at this upper
        omega
      | some cellStyleXfs' =>
        simp only [present, present', Option.getD_some] at grown upper
        have upper' : xfId < cellStyleXfs'.Xf.length := lt_of_lt_of_le upper (by exact_mod_cast grown.length_le)
        simp only [if_pos upper, if_pos upper', sliceAt_of_grown grown lower upper]

theorem resolveStyle_of_extends {xf : xlsxXf} (within : xf.ReferencesWithin styles) :
    resolveStyle lib styles' xf = resolveStyle lib styles xf := by
  simp only [resolveStyle, populateStyleFromXf_of_extends ext agree agree' within,
    cascadeNamedStyle_of_extends ext within.2.2.2]

theorem uncachedStyle_of_extends (within : ∀ xf ∈ styles.CellXfs.Xf, xf.ReferencesWithin styles)
    {styleIndex : Int} (inRange : styleIndexInRange styles styleIndex) :
    uncachedStyle lib styles' styleIndex = uncachedStyle lib styles styleIndex := by
  have count : styles.CellXfs.Count = styles.CellXfs.Xf.length := agree.2.2.2.2
  obtain ⟨xf, xfAt, found⟩ := sliceAt_of_lt (s := styles.CellXfs.Xf) (i := styleIndex)
    (by simp only [styleIndexInRange] at inRange; omega) (by simp only [styleIndexInRange] at inRange; omega)
  have xfAt' : sliceAt styles'.CellXfs.Xf styleIndex = .ok xf := by
    rw [sliceAt_of_grown ext.cellXfs (sliceAt_ok xfAt).1 (by simp only [styleIndexInRange] at inRange; omega), xfAt]
  simp only [uncachedStyle, if_pos inRange, if_pos (inRange.mono ext agree agree'), xfAt, xfAt', bind,
    Except.bind, resolveStyle_of_extends ext agree agree' (within xf (List.getElem?_mem found))]

end Grown

/-! ### The style cache -/

/-- Every style in the cache is what `getStyle` would resolve now without it. -/
def StyleCacheCoherent (lib : Collaborators Parsed) (styles : xlsxStyleSheet Parsed) : Prop :=
  ∀ styleIndex style, styles.styleCache.bind (·.lookup styleIndex) = some style →
    styleIndexInRange styles styleIndex ∧ uncachedStyle lib styles styleIndex = .ok style

/-- The invariant under which the cache of `getStyle` is coherent: the tables agree with their
counts, the cache map exists, and every cell format refers to entries the tables hold. -/
structure StyleCacheInvariant (lib : Collaborators Parsed) (styles : xlsxStyleSheet Parsed) : Prop where
  agrees : TablesAgree styles
  present : styles.styleCache.isSome
  within : ∀ xf ∈ styles.CellXfs.Xf, xf.ReferencesWithin styles
  coherent : StyleCacheCoherent lib styles

/-- The precondition of a step: no `reset`, which keeps the cache but rebuilds the tables, and a
cell format added only when it refers to entries the tables hold. -/
def StyleOp.Within (styles : xlsxStyleSheet Parsed) : StyleOp → Prop
  | .reset => False
  | .addCellXf xf => xf.ReferencesWithin styles
  | _ => True

def StyleStepWithin (lib : Collaborators Parsed) (styles styles' : xlsxStyleSheet Parsed) : Prop :=
  ∃ op : StyleOp, op.Within styles ∧ op.run lib styles = .ok styles'

def styleCacheState (styles : xlsxStyleSheet Parsed) : xlsxCellXfs × Option StyleCache :=
  (styles.CellXfs, styles.styleCache)

theorem StyleOp.styleCache_cases {op : StyleOp} (ran : op.run lib styles = .ok styles') :
    styleCacheState styles' = styleCacheState styles ∨ op = .reset ∨
      (∃ xf, op = .addCellXf xf ∧ styles' = (Xlsx.addCellXf styles xf).2) ∨
      ∃ styleIndex style, op = .getStyle styleIndex ∧ Xlsx.getStyle lib styles styleIndex = .ok (style, styles') := by
  cases op <;> simp only [StyleOp.run, pure, Except.pure, Except.ok.injEq] at ran <;> subst_vars
  case reset => exact .inr (.inl rfl)
  case addFont =>
    refine .inl ?_
    unfold Xlsx.addFont
    split
    · rfl
    · exact StyleTable.add_keeps styleCacheState (fun _ _ _ => rfl) _ _
  case addFill => exact .inl (StyleTable.add_keeps styleCacheState (fun _ _ _ => rfl) _ _)
  case addBorder => exact .inl (StyleTable.add_keeps styleCacheState (fun _ _ _ => rfl) _ _)
  case addCellStyleXf =>
    exact .inl ((StyleTable.add_keeps styleCacheState (fun _ _ _ => rfl) _ _).trans (by split <;> rfl))
  case addCellXf => exact .inr (.inr (.inl ⟨_, rfl, rfl⟩))
  case addNumFmt =>
    obtain ⟨_, _, same⟩ := addNumFmt_frame styles ‹_›
    exact .inl (by rw [same]; rfl)
  case newNumFmt =>
    obtain ⟨_, _, same⟩ := newNumFmt_frame styles ‹_›
    exact .inl (by rw [same]; rfl)
  case getStyle =>
    obtain ⟨⟨_, _⟩, got, rfl⟩ := except_map_ok ran
    exact .inr (.inr (.inr ⟨_, _, rfl, got⟩))
  case getNumberFormat =>
    obtain ⟨⟨_, _⟩, got, rfl⟩ := except_map_ok ran
    obtain ⟨_, rfl⟩ := getNumberFormat_frame got
    exact .inl rfl

theorem getStyle_cases {styleIndex : Int} {style : Style}
    (got : getStyle lib styles styleIndex = .ok (style, styles')) :
    styles' = styles ∨ styleIndexInRange styles styleIndex ∧ uncachedStyle lib styles styleIndex = .ok style ∧
      ∃ styleCache, styles.styleCache = some styleCache ∧
        styles' = { styles with styleCache := some (styleCache.insert styleIndex style) } := by
  unfold getStyle at got
  split at got
  · cases got
    exact .inl rfl
  split at got
  case isTrue inRange =>
    obtain ⟨xf, xfAt, got⟩ := except_bind_ok got
    obtain ⟨resolved, resolves, got⟩ := except_bind_ok got
    split at got
    · cases got
    · cases got
      refine .inr ⟨inRange, ?_, _, ‹_›, rfl⟩
      simp only [uncachedStyle, if_pos inRange, xfAt, resolves, bind, Except.bind]
  · cases got
    exact .inl rfl

theorem StyleCacheInvariant.of_extends (inv : StyleCacheInvariant lib styles) (ext : Extends styles styles')
    (agree' : TablesAgree styles') (within' : ∀ xf ∈ styles'.CellXfs.Xf, xf.ReferencesWithin styles')
    (sameCache : styles'.styleCache = styles.styleCache) : StyleCacheInvariant lib styles' := by
  refine ⟨agree', sameCache ▸ inv.present, within', fun styleIndex style cached => ?_⟩
  obtain ⟨inRange, resolved⟩ := inv.coherent styleIndex style (sameCache ▸ cached)
  exact ⟨inRange.mono ext inv.agrees agree',
    (uncachedStyle_of_extends ext inv.agrees agree' inv.within inRange).trans resolved⟩

theorem StyleCacheInvariant.of_getStyle (inv : StyleCacheInvariant lib styles) {styleIndex : Int} {style : Style}
    (got : Xlsx.getStyle lib styles styleIndex = .ok (style, styles')) : StyleCacheInvariant lib styles' := by
  rcases getStyle_cases got with rfl | ⟨inRange, resolved, styleCache, present, rfl⟩
  · exact inv
  refine ⟨inv.agrees, rfl, inv.within, fun index cached found => ?_⟩
  by_cases same : index = styleIndex
  · subst same
    simp only [Option.some_bind, AList.lookup_insert, Option.some.injEq] at found
    exact found ▸ ⟨inRange, resolved⟩
  · simp only [Option.some_bind, AList.lookup_insert_ne same] at found
    exact inv.coherent index cached (by simpa only [present, Option.some_bind] using found)

theorem StyleCacheInvariant.step {op : StyleOp} (inv : StyleCacheInvariant lib styles) (within : op.Within styles)
    (ran : op.run lib styles = .ok styles') : StyleCacheInvariant lib styles' := by
  have kept : op ≠ .reset := by rintro rfl; exact within
  have ext := StyleOp.run_extends kept ran
  have agree' := TablesAgree.step op inv.agrees ran
  rcases StyleOp.styleCache_cases ran with same | rfl | ⟨xf, rfl, rfl⟩ | ⟨styleIndex, style, -, got⟩
  · simp only [styleCacheState, Prod.mk.injEq] at same
    refine inv.of_extends ext agree' (fun xf member => ?_) same.2
    exact (inv.within xf (same.1 ▸ member)).mono ext inv.agrees agree'
  · exact absurd rfl kept
  · have added := @StyleTable.add_keeps _ _ _ cellXfTable (·.styleCache) (fun _ _ _ => rfl) styles xf
    refine inv.of_extends ext agree' (fun xf' member => ?_) added
    have old : xf' ∈ styles.CellXfs.Xf ∨ xf' = xf := by
      simp only [Xlsx.addCellXf, StyleTable.add] at member
      split at member
      · exact .inl member
      · simpa [cellXfTable] using member
    rcases old with old | rfl
    · exact (inv.within xf' old).mono ext inv.agrees agree'
    · exact within.mono ext inv.agrees agree'
  · exact inv.of_getStyle got

/-- A new sheet after its first `reset`: the default entries, one cell format referring to them,
and an empty cache. -/
theorem StyleCacheInvariant.initial (t : Option theme) :
    StyleCacheInvariant lib (reset (newXlsxStyleSheet t) : xlsxStyleSheet Parsed) := by
  refine ⟨AllTables.imp (reset_interned _) fun _ interned => interned.1, rfl, fun xf member => ?_,
    fun _ _ cached => ?_⟩
  · obtain rfl : xf = {} := List.mem_singleton.mp member
    exact ⟨show (0 : Int) < 1 by decide, show (0 : Int) < 2 by decide, show (0 : Int) < 1 by decide, nofun⟩
  · have empty : (reset (newXlsxStyleSheet t) : xlsxStyleSheet Parsed).styleCache = some ∅ := rfl
    simp [empty] at cached

theorem StyleCacheInvariant.of_reach {start : xlsxStyleSheet Parsed} (initial : StyleCacheInvariant lib start)
    (reach : ReflTransGen (StyleStepWithin lib) start styles) : StyleCacheInvariant lib styles := by
  induction reach with
  | refl => exact initial
  | tail _ step inv =>
    obtain ⟨op, within, ran⟩ := step
    exact inv.step within ran

theorem StyleCacheInvariant.getStyle_eq (inv : StyleCacheInvariant lib styles) (styleIndex : Int) :
    (·.1) <$> Xlsx.getStyle lib styles styleIndex = uncachedStyle lib styles styleIndex := by
  cases cached : styles.styleCache.bind (·.lookup styleIndex) with
  | some style =>
    rw [getStyle_of_cached cached, (inv.coherent styleIndex style cached).2]
    rfl
  | none =>
    obtain ⟨styleCache, present⟩ := Option.isSome_iff_exists.mp inv.present
    by_cases inRange : styleIndexInRange styles styleIndex
    · simp only [getStyle, uncachedStyle, cached, if_pos inRange]
      simp only [present]
      cases sliceAt styles.CellXfs.Xf styleIndex with
      | error => rfl
      | ok xf =>
        simp only [bind, Except.bind]
        cases resolveStyle lib styles xf <;> rfl
    · simp only [getStyle, uncachedStyle, cached, if_neg inRange]
      rfl

/-- From a new sheet after its first `reset`, through any operations that keep away from a later
`reset` and add cell formats only when they refer to fonts, fills, borders and named styles
already in the tables, `getStyle` answers, for every index, what it would compute without its
cache: the same style, or the same panic. -/
theorem getStyle_agrees_with_uncached (t : Option theme)
    (reach : ReflTransGen (StyleStepWithin lib) (reset (newXlsxStyleSheet t)) styles) (styleIndex : Int) :
    (·.1) <$> getStyle lib styles styleIndex = uncachedStyle lib styles styleIndex :=
  (StyleCacheInvariant.of_reach (.initial t) reach).getStyle_eq styleIndex

theorem getStyle_agrees_with_uncached_after_caching :
    let lib : Collaborators Unit := ⟨fun _ => 0, fun _ => 0, fun _ => ()⟩
    ∃ styles, ReflTransGen (StyleStepWithin lib) (reset (newXlsxStyleSheet none)) styles ∧
      (styles.styleCache.bind (·.lookup 1)).isSome ∧
      (·.1) <$> getStyle lib styles 1 = uncachedStyle lib styles 1 :=
  have run : ReflTransGen (StyleStepWithin ⟨fun _ => 0, fun _ => 0, fun _ => ()⟩) (reset (newXlsxStyleSheet none)) _ :=
    .tail (.tail (.single ⟨.addFont { defaultFont with Sz := ⟨"12"⟩ }, trivial, rfl⟩)
      ⟨.addCellXf { FontId := 1 }, ⟨by decide, by decide, by decide, nofun⟩, rfl⟩) ⟨.getStyle 1, trivial, rfl⟩
  ⟨_, run, rfl, getStyle_agrees_with_uncached none run 1⟩

/-! ### What `getStyle` never does

Without a custom palette, `argbValue` cannot fail, `populateStyleFromXf` guards every table it
reads, and only a named style read at a negative index or a cache map that is `nil` can panic.
Neither happens on a sheet built from `newXlsxStyleSheet` by steps that keep to their
precondition. -/

/-- The number-format cache is keyed by the format code itself, so unlike the style cache it
survives `reset`: on every reachable sheet, `getNumberFormat` answers the code it resolves
together with that code's parse, or the same panic as resolving the code. -/
theorem getNumberFormat_agrees_with_parse (t : Option theme)
    (reach : ReflTransGen (StyleStep lib) (newXlsxStyleSheet t) styles) (styleIndex : Int) :
    (·.1) <$> getNumberFormat lib styles styleIndex =
      (fun code => (code, lib.parseFullNumberFormatString code)) <$> numberFormatOf styles styleIndex := by
  cases formatted : numberFormatOf styles styleIndex with
  | error => simp only [getNumberFormat, formatted]; rfl
  | ok code =>
    obtain ⟨_, got, -⟩ := getNumberFormat_coherent (NumFmtInvariant.of_reach reach).coherent formatted
    rw [got]
    rfl

theorem getNumberFormat_agrees_with_parse_after_custom_formats :
    let lib : Collaborators Unit := ⟨fun _ => 0, fun _ => 0, fun _ => ()⟩
    let formats := (newNumFmt (addNumFmt (reset (newXlsxStyleSheet none)) { NumFmtId := 164, FormatCode := "a" }) "b").2
    let styles : xlsxStyleSheet Unit := (addCellXf formats { NumFmtId := 164 }).2
    ReflTransGen (StyleStep lib) (newXlsxStyleSheet none) styles ∧
      (·.1) <$> getNumberFormat lib styles 1 =
        (fun code => (code, lib.parseFullNumberFormatString code)) <$> numberFormatOf styles 1 :=
  have run := ReflTransGen.tail (.tail (.tail (.single ⟨.reset, rfl⟩) ⟨.addNumFmt { NumFmtId := 164, FormatCode := "a" },
    rfl⟩) ⟨.newNumFmt "b", rfl⟩) ⟨.addCellXf { NumFmtId := 164 }, rfl⟩
  ⟨run, getNumberFormat_agrees_with_parse none run 1⟩

end Xlsx
