import Xlsx.Redis.Row

namespace Xlsx

def splitKey (key : String) : List String :=
  (key.toList.splitOn ':').map String.mk

section Store

variable {Byte DV RT : Type} (codec : CellCodec Byte DV RT) (keys : Keyspace)

/-- The guard `len(cs.sheetName) == 0` that opens `MakeRow`, `ReadRow`, `MoveRow` and
`WriteRow`: the store keeps the name of the first sheet it sees. -/
def recordedSheetName (sheetName name : String) : String :=
  if sheetName.length = 0 then name else sheetName

def recordSheetName (name : String) : RowM Byte DV RT Unit :=
  modify fun st => { st with sheetName := recordedSheetName st.sheetName name }

def MakeRow (sheet : Sheet) : RowM Byte DV RT (RedisRow DV RT) := do
  recordSheetName sheet.Name
  pure (makeRedisRow sheet)

/-- `MakeRowWithLen`: an empty row whose cells up to `len - 1` count as present. Unlike
`MakeRow`, it records no sheet name. -/
def MakeRowWithLen (sheet : Sheet) (len : Int) : RowM Byte DV RT (RedisRow DV RT) :=
  pure { makeRedisRow sheet with maxCol := len - 1 }

/-- The row's current cell is written whether or not it was modified, then the row record
under the row's number. -/
def WriteRow : RowM Byte DV RT Unit := do
  let rr ← getRow
  recordSheetName rr.row.Sheet.Name
  RedisRow.writeCell codec keys rr.currentCell
  HSET (keys.makeSheetRowsStore rr.row.Sheet.Name) (keys.makeRowNum rr.row.num) (encodeRow codec rr.row rr.maxCol)

/-- The row stored under the second part of `key` in the sheet's rows hash, as a new row object
of `sheet` with no current cell. -/
def ReadRow (key : String) (sheet : Sheet) : RowM Byte DV RT (RedisRow DV RT) := do
  recordSheetName sheet.Name
  match splitKey key with
  | [_, rowNum] =>
    match ← HGET (keys.makeSheetRowsStore sheet.Name) rowNum with
    | none => throw (.rowNotFound key "no such row")
    | some b =>
      match decodeRow codec b with
      | none => throw .malformed
      | some ((row, maxCol), _) => pure { row := { row with Sheet := sheet }, maxCol, currentCell := none }
  | _ => throw (.rowNotFound key "no such row")

/-- The visitor `MoveRow` hands to `ForEachCell`: the cell is written under the new row number,
then deleted under the old one. -/
def moveCell (oldKey newKey : String) : Option (Cell DV RT) → RowM Byte DV RT Unit
  | none => throw .nilDereference
  | some c => do
    let rr ← getRow
    let k := keys.makeCellKeyPrefix rr.row.Sheet.Name c.num
    HSET k newKey (encodeCell codec (some c))
    HDEL k oldKey

/-- The pending current cell is stored under the old number, the target is checked free, the
old row record is deleted, the cells are handed to `moveCell`, and the row record is written
under the new number. -/
def MoveRow (index : Int) (fuel : Nat) : RowM Byte DV RT Unit := do
  let rr ← getRow
  recordSheetName rr.row.Sheet.Name
  rr.currentCell.forM fun cell => storeCell codec keys rr.row.Sheet.Name (keys.makeRowNum rr.row.num) cell
  let oldKey := keys.makeRowNum rr.row.num
  let newKey := toString index
  if (← HGET (keys.makeSheetRowsStore rr.row.Sheet.Name) newKey).isSome then
    throw (.overwrite index)
  else
    HDEL (keys.makeSheetRowsStore rr.row.Sheet.Name) oldKey
    RedisRow.ForEachCell codec keys (moveCell codec keys oldKey newKey) true fuel
    setRow fun rr => { rr with row := { rr.row with num := index } }
    let rr ← getRow
    HSET (keys.makeSheetRowsStore rr.row.Sheet.Name) newKey (encodeRow codec rr.row rr.maxCol)

/-- Every column key in the cell index of the sheet named by `key` loses its record for the
row, then the hash named by the sheet itself loses the row's field. The error of `ZRANGE` is
dropped: a failed `ZRANGE` reads as no columns. -/
def RemoveRow (key : String) : RowM Byte DV RT Unit :=
  match splitKey key with
  | [sheetName, rowNum] => do
    let cells ← tryCatch (ZRANGE (keys.makeSheetCellsStore sheetName)) fun _ => pure []
    cells.forM fun cell => HDEL cell rowNum
    HDEL sheetName rowNum
  | _ => throw (.rowNotFound key "no such row")

/-- The cell hashes listed in the cell index of the recorded sheet, its rows hash and its cell
index are deleted, and the client is closed; a failed command returns its error at once,
before the client is closed. -/
def Close : RowM Byte DV RT Unit := do
  let sheetName := (← get).sheetName
  let cells ← ZRANGE (keys.makeSheetCellsStore sheetName)
  DEL cells
  DEL [keys.makeSheetRowsStore sheetName]
  DEL [keys.makeSheetCellsStore sheetName]
  closeClient

section RowRecord

variable {P : Session Byte DV RT → Prop}

theorem Triple.recordSheetName (name : String) {Q : Unit → Session Byte DV RT → Prop} {E : Session Byte DV RT → Prop}
    (post : ∀ st, P st → Q () { st with sheetName := recordedSheetName st.sheetName name }) :
    Triple P (Xlsx.recordSheetName name) Q E :=
  post

theorem Keeps.recordSheetName (name : String) (blind : ∀ st name, P st → P { st with sheetName := name }) :
    Keeps P (Xlsx.recordSheetName name) :=
  Triple.recordSheetName name fun st pre => blind st _ pre

theorem Keeps.command_row {α : Type} (R : RedisRow DV RT) (act : Server Byte → α × Server Byte) :
    Keeps (fun st : Session Byte DV RT => st.rr = R) (Xlsx.command act) :=
  Keeps.command (fun rr _ => rr = R) fun _ _ same => same

theorem storeCell_keeps_row (R : RedisRow DV RT) (sheetName rowNum : String) (c : Cell DV RT) :
    Keeps (fun st : Session Byte DV RT => st.rr = R) (storeCell codec keys sheetName rowNum c) :=
  Triple.bind (Keeps.command_row R _) fun _ => Keeps.command_row R _

theorem writeCell_keeps_row (R : RedisRow DV RT) (c : Option (Cell DV RT)) :
    Keeps (fun st : Session Byte DV RT => st.rr = R) (RedisRow.writeCell codec keys c) := by
  cases c with
  | none => exact Keeps.pure _
  | some c => exact Triple.bind Keeps.getRow fun _ => storeCell_keeps_row codec keys R _ _ c

theorem WriteRow_stores_row (R : RedisRow DV RT) :
    Triple (fun st : Session Byte DV RT => st.rr = R) (WriteRow codec keys)
      (fun _ st => st.rr = R ∧
        st.server.hashes (keys.makeSheetRowsStore R.row.Sheet.Name) (keys.makeRowNum R.row.num) =
          some (encodeRow codec R.row R.maxCol))
      (fun _ => True) := by
  refine Triple.getRow_bind fun st same => ?_
  subst same
  refine Triple.bind (Triple.mono (Keeps.recordSheetName _ fun _ _ same => same) (fun _ same => same)
    (fun _ _ same => same) fun _ _ => trivial) fun _ => ?_
  refine Triple.bind (Triple.mono (writeCell_keeps_row codec keys st.rr _) (fun _ same => same)
    (fun _ _ same => same) fun _ _ => trivial) fun _ => ?_
  exact Triple.command (fun _ same => ⟨same, by rw [← same]; exact Server.hset_hashes_self ..⟩) fun _ _ => trivial

theorem ReadRow_WriteRow {st st' : Session Byte DV RT} {key sheetPart : String}
    (written : WriteRow codec keys st = .ok () st')
    (named : splitKey key = [sheetPart, keys.makeRowNum st.rr.row.num]) (up : st'.faults st'.clock = false) :
    ReadRow codec keys key st.rr.row.Sheet st' =
      .ok { row := st.rr.row, maxCol := st.rr.maxCol, currentCell := none }
        { st' with sheetName := recordedSheetName st'.sheetName st.rr.row.Sheet.Name, clock := st'.clock + 1 } := by
  have stored := WriteRow_stores_row codec keys st.rr st rfl
  rw [written] at stored
  have decoded := decodeRow_encodeRow codec st.rr.row st.rr.maxCol []
  rw [List.append_nil] at decoded
  simp only [ReadRow, Xlsx.recordSheetName, modify, modifyGet, MonadStateOf.modifyGet, EStateM.modifyGet, named,
    HGET, bind, EStateM.bind, Xlsx.command, up, Bool.false_eq_true, if_false, stored.2, decoded]
  rfl

/-- A row is written, its cell edited again, and the row walked with `ForEachCell` and written
once more. The walk reads column 0's record, flushes the pending edit over it, then makes the
copy it read current, and `WriteRow` writes that copy back: the row read again holds the first
value, not the edit. -/
theorem WriteRow_after_ForEachCell_loses_edit :
    let sheet : Sheet := { Name := "S", MaxCol := 1 }
    let edit (value : String) : RowM (Token Unit Unit) Unit Unit Unit :=
      RedisRow.editCurrentCell fun c => { c with Value := value }
    let run : RowM (Token Unit Unit) Unit Unit (Option (Cell Unit Unit)) := do
      discard (RedisRow.AddCell tokenCodec tallyKeyspace)
      edit "a"
      WriteRow tokenCodec tallyKeyspace
      edit "b"
      RedisRow.ForEachCell tokenCodec tallyKeyspace (fun _ => pure ()) false 2
      WriteRow tokenCodec tallyKeyspace
      let rr ← ReadRow tokenCodec tallyKeyspace (tallyKeyspace.key "S" 0) sheet
      setRow fun _ => rr
      RedisRow.GetCell tokenCodec tallyKeyspace 0
    ((returned (run { server := {}, rr := makeRedisRow sheet })).bind id).map (·.Value) = some "a" := by
  simp only [RedisRow.ForEachCell, RedisRow.eachStoredColumn, RedisRow.eachEmptyColumn]
  decide

/-- A row is written with its cell at column 0, read back as a new row object, and asked for
column 0: `GetCell` returns the stored cell, made current, but its `Row` link is nil, since
`readCell` builds the cell without one and `GetCell` sets none. -/
theorem GetCell_returns_unlinked_cell :
    let sheet : Sheet := { Name := "S", MaxCol := 1 }
    let run : RowM (Token Unit Unit) Unit Unit (Option (Cell Unit Unit)) := do
      discard (RedisRow.AddCell tokenCodec tallyKeyspace)
      RedisRow.editCurrentCell fun c => { c with Value := "x" }
      WriteRow tokenCodec tallyKeyspace
      let rr ← ReadRow tokenCodec tallyKeyspace (tallyKeyspace.key "S" 0) sheet
      setRow fun _ => rr
      RedisRow.GetCell tokenCodec tallyKeyspace 0
    let result := run { server := {}, rr := makeRedisRow sheet }
    ((returned result).bind id).map (fun c => (c.num, c.Value, c.Row.isNone)) = some (0, "x", true) ∧
      (finalState result).rr.currentCell.map (·.Row.isNone) = some true := by
  decide

end RowRecord

/-- `MoveRow` to row 5 of a row numbered 3 whose two cells, holding `x` and `y`, were written
row by row. The walk moves column 0's cell under row 5 and deletes it under row 3, and makes it
current; moving on to column 1, `setCurrentCell` flushes that cell, modified since it holds a
value, under the row's number, which is still 3. `MoveRow` returns and the row is numbered 5,
but column 0 keeps a record under row 3. -/
theorem MoveRow_leaves_cells_behind :
    let sheet : Sheet := { Name := "S", MaxCol := 2 }
    let run : RowM (Token Unit Unit) Unit Unit Unit := do
      discard (RedisRow.AddCell tokenCodec tallyKeyspace)
      RedisRow.editCurrentCell fun c => { c with Value := "x" }
      discard (RedisRow.AddCell tokenCodec tallyKeyspace)
      RedisRow.editCurrentCell fun c => { c with Value := "y" }
      WriteRow tokenCodec tallyKeyspace
      MoveRow tokenCodec tallyKeyspace 5 2
    let result := run { server := {}, rr := { makeRedisRow sheet with row := { Sheet := sheet, num := 3 } } }
    let cells (col : Int) := tallyKeyspace.makeCellKeyPrefix "S" col
    let server := (finalState result).server
    returned result = some () ∧ (finalState result).rr.row.num = 5 ∧
      (server.hashes "S#rows" "5").isSome ∧ (server.hashes "S#rows" "3").isNone ∧
      (server.hashes (cells 0) "5").isSome ∧ (server.hashes (cells 1) "5").isSome ∧
      (server.hashes (cells 1) "3").isNone ∧ (server.hashes (cells 0) "3").isSome := by
  simp only [MoveRow, RedisRow.ForEachCell, RedisRow.eachStoredColumn, RedisRow.eachEmptyColumn]
  decide

section Occupied

/-- The hashes of `server'` are those of `server`, except that the record of the row's current
cell, at its column and the row's number, may hold the bytes a flush writes for it. -/
def FlushFrame (rr : RedisRow DV RT) (server server' : Server Byte) : Prop :=
  ∀ key field, server'.hashes key field = server.hashes key field ∨
    ∃ c, rr.currentCell = some c ∧ key = keys.makeCellKeyPrefix rr.row.Sheet.Name c.num ∧
      field = keys.makeRowNum rr.row.num ∧ server'.hashes key field = some (encodeCell codec (some c))

variable {codec keys} {rr : RedisRow DV RT} {server server' : Server Byte}

theorem FlushFrame.refl : FlushFrame codec keys rr server server :=
  fun _ _ => .inl rfl

theorem FlushFrame.store {c : Cell DV RT} (current : rr.currentCell = some c) (score : Int) (member : String) :
    FlushFrame codec keys rr server ((server.zadd (keys.makeSheetCellsStore rr.row.Sheet.Name) score member).hset
      (keys.makeCellKeyPrefix rr.row.Sheet.Name c.num) (keys.makeRowNum rr.row.num) (some (encodeCell codec (some c)))) := by
  intro key field
  by_cases here : key = keys.makeCellKeyPrefix rr.row.Sheet.Name c.num ∧ field = keys.makeRowNum rr.row.num
  · obtain ⟨rfl, rfl⟩ := here
    exact .inr ⟨c, current, rfl, rfl, Server.hset_hashes_self ..⟩
  · exact .inl (Server.hset_hashes_ne _ _ (not_and_or.mp here))

theorem FlushFrame.rows (frame : FlushFrame codec keys rr server server') (field : String) :
    server'.hashes (keys.makeSheetRowsStore rr.row.Sheet.Name) field =
      server.hashes (keys.makeSheetRowsStore rr.row.Sheet.Name) field := by
  rcases frame _ field with same | ⟨c, -, here, -⟩
  · exact same
  · exact absurd here (keys.makeSheetRowsStore_ne _ c.num)

variable (codec keys)

/-- What the flush that opens `MoveRow` leaves from session `st`: the row object as it was, the
hashes within the frame, and the current cell's record written when both of its commands succeed. -/
def Flushed (st st' : Session Byte DV RT) : Prop :=
  st'.rr = st.rr ∧ FlushFrame codec keys st.rr st.server st'.server ∧
    ∀ c, st.rr.currentCell = some c → st.faults st.clock = false → st.faults (st.clock + 1) = false →
      st'.server.hashes (keys.makeCellKeyPrefix st.rr.row.Sheet.Name c.num) (keys.makeRowNum st.rr.row.num) =
        some (encodeCell codec (some c))

theorem flush_Flushed (st : Session Byte DV RT) :
    Triple (· = { st with sheetName := recordedSheetName st.sheetName st.rr.row.Sheet.Name })
      (st.rr.currentCell.forM fun cell => storeCell codec keys st.rr.row.Sheet.Name (keys.makeRowNum st.rr.row.num) cell)
      (fun _ => Flushed codec keys st) (Flushed codec keys st) := by
  rintro _ rfl
  cases current : st.rr.currentCell with
  | none => exact ⟨rfl, .refl, fun _ cur => nomatch cur.symm.trans current⟩
  | some c =>
    simp only [Option.forM, storeCell_run]
    split_ifs with first second
    · exact ⟨rfl, .refl, fun _ _ up => absurd first (by simp [up])⟩
    · exact ⟨rfl, fun _ _ => .inl rfl, fun _ _ _ up => absurd second (by simp [up])⟩
    · refine ⟨rfl, .store current _ _, fun c' cur _ _ => ?_⟩
      cases cur.symm.trans current
      exact Server.hset_hashes_self ..

/-- `MoveRow` onto an index under which its sheet's rows hash holds an entry fails after its
flush: the row object and the rows hash are as they were, and the hashes differ from those it
started from only in the current cell's record under the old row number, which holds the bytes
the flush writes once the flush's two commands succeed. -/
theorem MoveRow_onto_occupied (index : Int) (fuel : Nat) (st : Session Byte DV RT)
    (occupied : (st.server.hashes (keys.makeSheetRowsStore st.rr.row.Sheet.Name) (toString index)).isSome) :
    ∃ e st', MoveRow codec keys index fuel st = .error e st' ∧ st'.rr = st.rr ∧
      (∀ field, st'.server.hashes (keys.makeSheetRowsStore st.rr.row.Sheet.Name) field =
        st.server.hashes (keys.makeSheetRowsStore st.rr.row.Sheet.Name) field) ∧
      FlushFrame codec keys st.rr st.server st'.server ∧
      ∀ c, st.rr.currentCell = some c → st.faults st.clock = false → st.faults (st.clock + 1) = false →
        st'.server.hashes (keys.makeCellKeyPrefix st.rr.row.Sheet.Name c.num) (keys.makeRowNum st.rr.row.num) =
          some (encodeCell codec (some c)) := by
  let rows := keys.makeSheetRowsStore st.rr.row.Sheet.Name
  have recorded : Triple (· = st) (recordSheetName st.rr.row.Sheet.Name)
      (fun _ st' => st' = { st with sheetName := recordedSheetName st.sheetName st.rr.row.Sheet.Name })
      (Flushed codec keys st) :=
    Triple.recordSheetName _ fun _ same => same ▸ rfl
  have read : Triple (Flushed codec keys st) (HGET rows (toString index))
      (fun v st' => Flushed codec keys st st' ∧ v = st'.server.hashes rows (toString index)) (Flushed codec keys st) :=
    Triple.command (fun _ flushed => ⟨flushed, rfl⟩) fun _ flushed => flushed
  have fails : Triple (· = st) (MoveRow codec keys index fuel) (fun _ _ => False) (Flushed codec keys st) := by
    refine Triple.getRow_bind fun _ same => ?_
    rw [same]
    refine Triple.bind recorded fun _ => Triple.bind (flush_Flushed codec keys st) fun _ => Triple.bind read fun v => ?_
    split
    · exact Triple.throw _ fun _ flushed => flushed.1
    · next free => exact fun _ ⟨⟨_, frame, _⟩, value⟩ => absurd (by rw [value, frame.rows]; exact occupied) free
  have run := fails st rfl
  revert run
  cases MoveRow codec keys index fuel st with
  | ok _ _ => exact False.elim
  | error e st' => exact fun ⟨same, frame, written⟩ => ⟨e, st', rfl, same, frame.rows, frame, written⟩

theorem MoveRow_onto_occupied_row_five :
    let st : Session (Token Unit Unit) Unit Unit :=
      { server := { hashes := fun key field => if key = "S#rows" ∧ field = "5" then some [] else none },
        rr := { row := { num := 3, Sheet := { Name := "S" } }, maxCol := 0, currentCell := some { num := 0 } } }
    let keys := tallyKeyspace
    ∃ e st', MoveRow tokenCodec keys 5 2 st = .error e st' ∧ st'.rr = st.rr ∧
      (∀ field, st'.server.hashes (keys.makeSheetRowsStore st.rr.row.Sheet.Name) field =
        st.server.hashes (keys.makeSheetRowsStore st.rr.row.Sheet.Name) field) ∧
      FlushFrame tokenCodec keys st.rr st.server st'.server ∧
      ∀ c, st.rr.currentCell = some c → st.faults st.clock = false → st.faults (st.clock + 1) = false →
        st'.server.hashes (keys.makeCellKeyPrefix st.rr.row.Sheet.Name c.num) (keys.makeRowNum st.rr.row.num) =
          some (encodeCell tokenCodec (some c)) :=
  MoveRow_onto_occupied tokenCodec tallyKeyspace 5 2 _ (by decide)

end Occupied

theorem RemoveRow_after_failed_ZRANGE {key sheetName rowNum : String} (st : Session Byte DV RT)
    (named : splitKey key = [sheetName, rowNum]) (failed : st.faults st.clock = true)
    (up : st.faults (st.clock + 1) = false) :
    RemoveRow keys key st = .ok () { st with server := st.server.hset sheetName rowNum none, clock := st.clock + 1 + 1 } := by
  simp only [RemoveRow, named, ZRANGE, HDEL, Xlsx.command, failed, up, tryCatch, tryCatchThe, MonadExceptOf.tryCatch,
    EStateM.tryCatch, bind, EStateM.bind, if_true, Bool.false_eq_true, if_false, List.forM, pure, EStateM.pure,
    EStateM.Backtrackable.restore, EStateM.dummyRestore]

/-- Row 0 of sheet `S` is written with its cell at column 0, then removed while the first
command of `RemoveRow`, its `ZRANGE`, fails: `RemoveRow` returns, the cell record is still there,
and so is the row record, which `ReadRow` reads back, since the field deleted is in the hash named
by the sheet and not in the sheet's rows hash. -/
theorem RemoveRow_leaves_cells_after_failed_ZRANGE :
    let sheet : Sheet := { Name := "S", MaxCol := 1 }
    let write : RowM (Token Unit Unit) Unit Unit Unit := do
      discard (RedisRow.AddCell tokenCodec tallyKeyspace)
      RedisRow.editCurrentCell fun c => { c with Value := "x" }
      WriteRow tokenCodec tallyKeyspace
    let written := finalState (write { server := {}, rr := makeRedisRow sheet })
    let removed := RemoveRow tallyKeyspace (tallyKeyspace.key "S" 0) { written with faults := fun tick => tick == written.clock }
    returned removed = some () ∧
      ((finalState removed).server.hashes (tallyKeyspace.makeCellKeyPrefix "S" 0) "0").isSome ∧
      (returned (ReadRow tokenCodec tallyKeyspace (tallyKeyspace.key "S" 0) sheet (finalState removed))).isSome := by
  intro sheet write written removed
  have ran : removed = _ :=
    @RemoveRow_after_failed_ZRANGE _ _ _ tallyKeyspace (tallyKeyspace.key "S" 0) "S" "0" _ (by decide) (by decide)
      (by decide)
  rw [ran]
  decide

end Store

end Xlsx
