import Xlsx.Redis.Server

namespace Xlsx

section Methods

variable {Byte DV RT : Type} (codec : CellCodec Byte DV RT) (keys : Keyspace)

/-- Modelled from the spec: `newCell(row, num)` (`cell.go`, not under `src/`) makes the empty
cell at column `num`, linked to the row. -/
def newCell (row : Row) (num : Int) : Cell DV RT := { Row := some row, num }

/-- `Cell.Modified` of `cell.go`, which is not under `src/`, as the codec gives it; asked of a
nil cell, as `setCurrentCell` may, it answers false. -/
def Cell.Modified : Option (Cell DV RT) → Bool
  | some c => codec.Modified c
  | none => false

def makeRedisRow (sheet : Sheet) : RedisRow DV RT where
  row := { Sheet := sheet }
  maxCol := -1
  currentCell := none

def getRow : RowM Byte DV RT (RedisRow DV RT) := do
  return (← get).rr

def setRow (f : RedisRow DV RT → RedisRow DV RT) : RowM Byte DV RT Unit :=
  modify fun st => { st with rr := f st.rr }

/-- The package-level `readCell` of `lib.go` (not under `src/`) reads the cell record of
§4.5 the way `RedisRow.readCell` does; both decode with `decodeCell`. -/
def readCell (bytes : List Byte) : RowM Byte DV RT (Option (Cell DV RT)) :=
  match decodeCell codec bytes with
  | some (cell, _) => pure cell
  | none => throw .malformed

/-- The record of column `index` in this row: `HGET` answers nil for a missing one, and nil
reads as an empty record. -/
def RedisRow.readCell (index : Int) : RowM Byte DV RT (Option (Cell DV RT)) := do
  let rr ← getRow
  let b ← HGET (keys.makeCellKeyPrefix rr.row.Sheet.Name index) (keys.makeRowNum rr.row.num)
  Xlsx.readCell codec (b.getD [])

/-- The two commands that store a cell record, in `RedisRow.writeCell` and in `MoveRow`: the
column key is indexed under the column, then the record is set under the row number. -/
def storeCell (sheetName rowNum : String) (c : Cell DV RT) : RowM Byte DV RT Unit := do
  let key := keys.makeCellKeyPrefix sheetName c.num
  ZADD (keys.makeSheetCellsStore sheetName) c.num key
  HSET key rowNum (encodeCell codec (some c))

/-- A nil cell is only buffered; a cell is stored under the row's number. -/
def RedisRow.writeCell : Option (Cell DV RT) → RowM Byte DV RT Unit
  | none => pure ()
  | some c => do
    let rr ← getRow
    storeCell codec keys rr.row.Sheet.Name (keys.makeRowNum rr.row.num) c

/-- The start of `setCurrentCell`: a modified current cell is written back, and a failed
write-back panics. -/
def RedisRow.flushCurrentCell : RowM Byte DV RT Unit := do
  let rr ← getRow
  if Cell.Modified codec rr.currentCell then
    tryCatch (RedisRow.writeCell codec keys rr.currentCell) fun err => throw (.panic err)

def RedisRow.setCurrentCell (cell : Option (Cell DV RT)) : RowM Byte DV RT Unit := do
  RedisRow.flushCurrentCell codec keys
  match cell with
  | none => throw .nilDereference
  | some cell =>
    setRow fun rr =>
      { rr with maxCol := if cell.num > rr.maxCol then cell.num else rr.maxCol, currentCell := some cell }

def RedisRow.PushCell (c : Cell DV RT) : RowM Byte DV RT Unit :=
  RedisRow.setCurrentCell codec keys (some { c with modified := true })

def RedisRow.AddCell : RowM Byte DV RT (Cell DV RT) := do
  let rr ← getRow
  let cell := newCell rr.row (rr.maxCol + 1)
  RedisRow.setCurrentCell codec keys (some cell)
  return cell

/-- The rest of `GetCell` once the current cell is not at `colIdx`: the stored cell made
current, else a new modified cell pushed in its place. -/
def RedisRow.readOrNewCell (colIdx : Int) : RowM Byte DV RT (Option (Cell DV RT)) := do
  match ← observing (RedisRow.readCell codec keys colIdx) with
  | .ok cell =>
    RedisRow.setCurrentCell codec keys cell
    return cell
  | .error _ =>
    let cell := newCell (← getRow).row colIdx
    RedisRow.PushCell codec keys cell
    return some { cell with modified := true }

def RedisRow.GetCell (colIdx : Int) : RowM Byte DV RT (Option (Cell DV RT)) := do
  match (← getRow).currentCell with
  | some current => if current.num = colIdx then return some current else RedisRow.readOrNewCell codec keys colIdx
  | none => RedisRow.readOrNewCell codec keys colIdx

/-- A caller edits the current cell through its setters: they mark it modified and cannot
move it to another column. -/
def RedisRow.editCurrentCell (f : Cell DV RT → Cell DV RT) : RowM Byte DV RT Unit := do
  if let some c := (← getRow).currentCell then
    setRow fun rr => { rr with currentCell := some { f c with num := c.num, modified := true } }

/-- The closure `fn` of `ForEachCell` once it has its cell: an unmodified cell is skipped when
empty cells are, and any other is linked to the row, made current and visited. -/
def RedisRow.visitCell (cvf : Option (Cell DV RT) → RowM Byte DV RT Unit) (skipEmptyCells : Bool)
    (c : Option (Cell DV RT)) : RowM Byte DV RT Unit :=
  if !Cell.Modified codec c && skipEmptyCells then pure ()
  else match c with
    | none => throw .nilDereference
    | some c => do
      let c := { c with Row := some (← getRow).row }
      RedisRow.setCurrentCell codec keys (some c)
      cvf (some c)

/-- The closure `fn` of `ForEachCell` on column `ci` and the cell stored there: a missing cell
is skipped or fetched with `GetCell`. -/
def RedisRow.visitColumn (cvf : Option (Cell DV RT) → RowM Byte DV RT Unit) (skipEmptyCells : Bool)
    (ci : Int) : Option (Cell DV RT) → RowM Byte DV RT Unit
  | none =>
    if skipEmptyCells then pure ()
    else do RedisRow.visitCell codec keys cvf skipEmptyCells (← RedisRow.GetCell codec keys ci)
  | some c => RedisRow.visitCell codec keys cvf skipEmptyCells (some c)

/-- The first loop of `ForEachCell`, over columns `ci` to `maxCol`, which it reads again on
every turn; `fuel` bounds the turns. -/
def RedisRow.eachStoredColumn (cvf : Option (Cell DV RT) → RowM Byte DV RT Unit) (skipEmptyCells : Bool) :
    Nat → Int → RowM Byte DV RT Unit
  | 0, ci => do
    if ci ≤ (← getRow).maxCol then throw .outOfFuel
  | fuel + 1, ci => do
    let rr ← getRow
    if ci ≤ rr.maxCol then
      let b ← HGET (keys.makeCellKeyPrefix rr.row.Sheet.Name ci) (keys.makeRowNum rr.row.num)
      let cell ← Xlsx.readCell codec (b.getD [])
      RedisRow.visitColumn codec keys cvf skipEmptyCells ci cell
      RedisRow.eachStoredColumn cvf skipEmptyCells fuel (ci + 1)

/-- The second loop of `ForEachCell`, from `ci` up to the sheet's `MaxCol`. -/
def RedisRow.eachEmptyColumn (cvf : Option (Cell DV RT) → RowM Byte DV RT Unit) :
    Nat → Int → RowM Byte DV RT Unit
  | 0, ci => do
    if ci < (← getRow).row.Sheet.MaxCol then throw .outOfFuel
  | fuel + 1, ci => do
    if ci < (← getRow).row.Sheet.MaxCol then
      let c ← RedisRow.GetCell codec keys ci
      cvf c
      RedisRow.eachEmptyColumn cvf fuel (ci + 1)

def RedisRow.ForEachCell (cvf : Option (Cell DV RT) → RowM Byte DV RT Unit) (skipEmptyCells : Bool)
    (fuel : Nat) : RowM Byte DV RT Unit := do
  RedisRow.eachStoredColumn codec keys cvf skipEmptyCells fuel 0
  if !skipEmptyCells then
    let rr ← getRow
    RedisRow.eachEmptyColumn codec keys cvf fuel (rr.maxCol + 1)

def RedisRow.MaxCol (rr : RedisRow DV RT) : Int := rr.maxCol

def RedisRow.CellCount (rr : RedisRow DV RT) : Int := rr.maxCol + 1

section Triples

theorem storeCell_run (st : Session Byte DV RT) (sheetName rowNum : String) (c : Cell DV RT) :
    let key := keys.makeCellKeyPrefix sheetName c.num
    let indexed := st.server.zadd (keys.makeSheetCellsStore sheetName) c.num key
    storeCell codec keys sheetName rowNum c st =
      if st.faults st.clock then .error .backend { st with clock := st.clock + 1 }
      else if st.faults (st.clock + 1) then .error .backend { st with server := indexed, clock := st.clock + 1 + 1 }
      else .ok () { st with server := indexed.hset key rowNum (some (encodeCell codec (some c))), clock := st.clock + 1 + 1 } := by
  simp only [storeCell, ZADD, HSET, bind, EStateM.bind, Xlsx.command]
  cases first : st.faults st.clock <;> cases second : st.faults (st.clock + 1) <;> simp [first, second]

variable {P E : Session Byte DV RT → Prop}

theorem Triple.getRow {Q : RedisRow DV RT → Session Byte DV RT → Prop} (post : ∀ st, P st → Q st.rr st) :
    Triple P getRow Q E :=
  post

theorem Keeps.getRow : Keeps P (getRow : RowM Byte DV RT (RedisRow DV RT)) :=
  fun _ pre => pre

theorem Triple.getRow_bind {α : Type} {f : RedisRow DV RT → RowM Byte DV RT α} {Q : α → Session Byte DV RT → Prop}
    (rest : ∀ st, P st → Triple P (f st.rr) Q E) : Triple P (Xlsx.getRow >>= f) Q E :=
  fun st pre => rest st pre st pre

theorem Triple.setRow (f : RedisRow DV RT → RedisRow DV RT) {Q : Unit → Session Byte DV RT → Prop}
    (post : ∀ st, P st → Q () { st with rr := f st.rr }) : Triple P (setRow f) Q E :=
  post

theorem readCell_fresh (bytes : List Byte) :
    Triple P (readCell codec bytes) (fun c st => P st ∧ ∀ x ∈ c, x.modified = false ∧ x.Row = none) P := by
  unfold readCell
  split
  · next cell rest decoded =>
    refine Triple.pure _ fun st pre => ⟨pre, fun x found => ?_⟩
    cases found
    exact decodeCell_fresh codec decoded
  · exact Triple.throw _ fun _ pre => pre

theorem readCell_decoded {bytes rest : List Byte} {cell : Option (Cell DV RT)}
    (decoded : decodeCell codec bytes = some (cell, rest)) : Xlsx.readCell codec bytes = (pure cell : RowM Byte DV RT _) := by
  rw [Xlsx.readCell, decoded]

theorem readCell_rejected {bytes : List Byte} (rejected : decodeCell codec bytes = none) :
    Xlsx.readCell codec bytes = (throw .malformed : RowM Byte DV RT (Option (Cell DV RT))) := by
  rw [Xlsx.readCell, rejected]

theorem RedisRow.setCurrentCell_none :
    Triple P (RedisRow.setCurrentCell codec keys none) (fun _ _ => False) (fun _ => True) :=
  Triple.bind (Triple.const _ fun _ _ => trivial) fun _ => Triple.throw _ fun _ _ => trivial

/-- A cell added and edited, not yet flushed, then `ForEachCell` with and without
`SkipEmptyCells`: column 0 is within `maxCol` but holds no record, so both walks fail. -/
theorem ForEachCell_fails_on_pending_cell :
    let sheet : Sheet := { Name := "S", MaxCol := 1 }
    let run (skipEmptyCells : Bool) : RowM (Token Unit Unit) Unit Unit Unit := do
      discard (RedisRow.AddCell tokenCodec tallyKeyspace)
      RedisRow.editCurrentCell fun c => { c with Value := "x" }
      RedisRow.ForEachCell tokenCodec tallyKeyspace (fun _ => pure ()) skipEmptyCells 2
    returned (run false { server := {}, rr := makeRedisRow sheet }) = none ∧
      returned (run true { server := {}, rr := makeRedisRow sheet }) = none := by
  simp only [RedisRow.ForEachCell, RedisRow.eachStoredColumn, RedisRow.eachEmptyColumn]
  decide

end Triples

end Methods

end Xlsx
