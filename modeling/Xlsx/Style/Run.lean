import Xlsx.Style.Resolve
import Mathlib.Logic.Relation

namespace Xlsx

variable {Parsed : Type}

/-- The operations a caller can make on one style sheet. -/
inductive StyleOp
  | reset
  | addFont (xFont : xlsxFont)
  | addFill (xFill : xlsxFill)
  | addBorder (xBorder : xlsxBorder)
  | addCellStyleXf (xCellStyleXf : xlsxXf)
  | addCellXf (xCellXf : xlsxXf)
  | addNumFmt (xNumFmt : xlsxNumFmt)
  | newNumFmt (formatCode : String)
  | getStyle (styleIndex : Int)
  | getNumberFormat (styleIndex : Int)

def StyleOp.run (lib : Collaborators Parsed) :
    StyleOp → xlsxStyleSheet Parsed → Except GoPanic (xlsxStyleSheet Parsed)
  | .reset, styles => pure (Xlsx.reset styles)
  | .addFont xFont, styles => pure (Xlsx.addFont styles xFont).2
  | .addFill xFill, styles => pure (Xlsx.addFill styles xFill).2
  | .addBorder xBorder, styles => pure (Xlsx.addBorder styles xBorder).2
  | .addCellStyleXf xf, styles => pure (Xlsx.addCellStyleXf styles xf).2
  | .addCellXf xf, styles => pure (Xlsx.addCellXf styles xf).2
  | .addNumFmt xNumFmt, styles => pure (Xlsx.addNumFmt styles xNumFmt)
  | .newNumFmt formatCode, styles => pure (Xlsx.newNumFmt styles formatCode).2
  | .getStyle styleIndex, styles => (·.2) <$> Xlsx.getStyle lib styles styleIndex
  | .getNumberFormat styleIndex, styles => (·.2) <$> Xlsx.getNumberFormat lib styles styleIndex

def StyleStep (lib : Collaborators Parsed) (styles styles' : xlsxStyleSheet Parsed) : Prop :=
  ∃ op : StyleOp, op.run lib styles = .ok styles'

/-- A step that is not `reset`. -/
def StyleStepKeeping (lib : Collaborators Parsed) (styles styles' : xlsxStyleSheet Parsed) : Prop :=
  ∃ op : StyleOp, op ≠ .reset ∧ op.run lib styles = .ok styles'

theorem StyleStep.invariant {lib : Collaborators Parsed} {P : xlsxStyleSheet Parsed → Prop}
    {start styles : xlsxStyleSheet Parsed} (reach : Relation.ReflTransGen (StyleStep lib) start styles)
    (initial : P start) (step : ∀ {s s'} (op : StyleOp), P s → op.run lib s = .ok s' → P s') :
    P styles := by
  induction reach with
  | refl => exact initial
  | tail _ last ih =>
    obtain ⟨op, ran⟩ := last
    exact step op ih ran

theorem getStyle_frame {lib : Collaborators Parsed} {styles styles' : xlsxStyleSheet Parsed}
    {styleIndex : Int} {style : Style} (h : getStyle lib styles styleIndex = .ok (style, styles')) :
    ∃ styleCache, styles' = { styles with styleCache } := by
  unfold getStyle at h
  split at h
  · cases h
    exact ⟨styles.styleCache, rfl⟩
  split at h
  · obtain ⟨_, -, h⟩ := except_bind_ok h
    obtain ⟨_, -, h⟩ := except_bind_ok h
    split at h
    · cases h
    · cases h
      exact ⟨_, rfl⟩
  · cases h
    exact ⟨styles.styleCache, rfl⟩

theorem getNumberFormat_frame {lib : Collaborators Parsed} {styles styles' : xlsxStyleSheet Parsed}
    {styleIndex : Int} {result : String × Parsed}
    (h : getNumberFormat lib styles styleIndex = .ok (result, styles')) :
    ∃ parsedNumFmtTable, styles' = { styles with parsedNumFmtTable } := by
  unfold getNumberFormat at h
  obtain ⟨_, -, h⟩ := except_bind_ok h
  split at h
  · cases h
    exact ⟨styles.parsedNumFmtTable, rfl⟩
  · cases h
    exact ⟨_, rfl⟩

theorem addNumFmt_frame (styles : xlsxStyleSheet Parsed) (xNumFmt : xlsxNumFmt) :
    ∃ NumFmts numFmtRefTable, addNumFmt styles xNumFmt = { styles with NumFmts, numFmtRefTable } := by
  unfold addNumFmt
  split
  · exact ⟨styles.NumFmts, styles.numFmtRefTable, rfl⟩
  split
  · exact ⟨styles.NumFmts, styles.numFmtRefTable, rfl⟩
  · exact ⟨_, _, rfl⟩

theorem newNumFmt_frame (styles : xlsxStyleSheet Parsed) (formatCode : String) :
    ∃ NumFmts numFmtRefTable, (newNumFmt styles formatCode).2 = { styles with NumFmts, numFmtRefTable } := by
  unfold newNumFmt
  split
  · exact ⟨styles.NumFmts, styles.numFmtRefTable, rfl⟩
  split
  · exact ⟨styles.NumFmts, styles.numFmtRefTable, rfl⟩
  split
  · exact ⟨styles.NumFmts, styles.numFmtRefTable, rfl⟩
  · exact addNumFmt_frame styles _

end Xlsx
