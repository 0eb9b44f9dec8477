import Xlsx.Redis.Keyspace

namespace Xlsx

open Relation

/-! What the records of the store hold once its operations have run: the rows hash holds only
row records, a modified current cell reaches its column's hash before the row moves to another
cell, a row written is read back with its current cell, `GetCell` hands out a cell of the column
asked for, `MoveRow` moves the row's record, and `RemoveRow` clears the row's cells whenever the
cell index answers. A read that fails, though, is taken for an empty column, whose record the
next write then replaces. -/

section Rows

variable {Byte DV RT : Type} (codec : CellCodec Byte DV RT) (keys : Keyspace) (sheetName : String)

/-- Every record of the sheet's rows hash is a row record as `WriteRow` and `MoveRow` write it. -/
def RowRecordsWellFormed (server : Server Byte) : Prop :=
  ∀ field bytes, server.hashes (keys.makeSheetRowsStore sheetName) field = some bytes →
    ∃ (row : Row) (maxCol : Int), bytes = encodeRow codec row maxCol

theorem RowRecordsWellFormed.closed :
    StoreClosed codec keys sheetName (RowRecordsWellFormed codec keys sheetName) where
  hdel server key field inv field' bytes stored := by
    rw [Server.hset_hashes] at stored
    split at stored
    · cases stored
    · exact inv field' bytes stored
  hset_rows server field row maxCol inv field' bytes stored := by
    rw [Server.hset_hashes] at stored
    split at stored
    · exact ⟨row, maxCol, (Option.some.inj stored).symm⟩
    · exact inv field' bytes stored
  zadd _ _ inv := inv
  hset_cell server c rowNum inv _ field bytes stored := by
    rw [Server.hset_hashes_ne _ _ (.inl (keys.makeSheetRowsStore_ne sheetName c.num))] at stored
    exact inv field bytes stored

@[simp] theorem encodeRow_Sheet (row : Row) (sheet : Sheet) (maxCol : Int) :
    encodeRow codec { row with Sheet := sheet } maxCol = encodeRow codec row maxCol :=
  rfl

variable {codec keys}

theorem ReadRow_of_wellFormed {st : Session Byte DV RT} {key : String} {sheet : Sheet}
    (wellFormed : RowRecordsWellFormed codec keys sheet.Name st.server) :
    (∀ e st', ReadRow codec keys key sheet st = .error e st' → e ≠ .malformed) ∧
      ∀ rr st', ReadRow codec keys key sheet st = .ok rr st' →
        ∃ sheetPart rowNum, splitKey key = [sheetPart, rowNum] ∧
          st.server.hashes (keys.makeSheetRowsStore sheet.Name) rowNum = some (encodeRow codec rr.row rr.maxCol) ∧
          rr.row.Sheet = sheet ∧ rr.currentCell = none := by
  simp only [ReadRow, Xlsx.recordSheetName, modify, modifyGet, MonadStateOf.modifyGet, EStateM.modifyGet, HGET,
    bind, EStateM.bind, Xlsx.command]
  rcases named : splitKey key with _ | ⟨sheetPart, _ | ⟨rowNum, _ | ⟨_, _⟩⟩⟩
  case cons.cons.nil =>
    by_cases faulty : st.faults st.clock
    · simp [faulty, Xlsx.command, EStateM.bind]
    · cases stored : st.server.hashes (keys.makeSheetRowsStore sheet.Name) rowNum with
      | none => simp [faulty, stored, Xlsx.command, EStateM.bind, throw, throwThe, MonadExceptOf.throw, EStateM.throw]
      | some bytes =>
        obtain ⟨row, maxCol, rfl⟩ := wellFormed rowNum bytes stored
        have decoded := decodeRow_encodeRow codec row maxCol []
        rw [List.append_nil] at decoded
        simp only [EStateM.bind, Xlsx.command, faulty, Bool.false_eq_true, if_false, stored, decoded, pure,
          EStateM.pure, reduceCtorEq, ne_eq, IsEmpty.forall_iff, implies_true, EStateM.Result.ok.injEq,
          List.cons.injEq, and_true, and_imp, forall_apply_eq_imp_iff, forall_eq', encodeRow_Sheet, true_and]
        exact ⟨_, _, ⟨rfl, rfl⟩, stored⟩
  all_goals simp [throw, throwThe, MonadExceptOf.throw, EStateM.throw]

/-- On every server reachable from an empty one by operations on rows of a sheet, in any order
and with any command failing, `ReadRow` of that sheet never reports a malformed row record: it
fails only when a command fails or no row is stored under the key, and the row it returns is
the one stored, whose record is the one under the key's row number. -/
theorem ReadRow_never_malformed {st : Session Byte DV RT} {key : String} {sheet : Sheet}
    (reach : ReflTransGen (StoreStep codec keys sheet.Name) {} st.server) :
    (∀ e st', ReadRow codec keys key sheet st = .error e st' → e ≠ .malformed) ∧
      ∀ rr st', ReadRow codec keys key sheet st = .ok rr st' →
        ∃ sheetPart rowNum, splitKey key = [sheetPart, rowNum] ∧
          st.server.hashes (keys.makeSheetRowsStore sheet.Name) rowNum = some (encodeRow codec rr.row rr.maxCol) ∧
          rr.row.Sheet = sheet ∧ rr.currentCell = none :=
  ReadRow_of_wellFormed
    (StoreStep.invariant (RowRecordsWellFormed.closed codec keys sheet.Name) (fun _ _ stored => nomatch stored) reach)

theorem ReadRow_never_malformed_after_writeRow :
    let session : Session (Token Unit Unit) Unit Unit := { server := {}, rr := makeRedisRow { Name := "S" } }
    let st : Session (Token Unit Unit) Unit Unit :=
      { session with server := (finalState (RowOp.writeRow.run tokenCodec tallyKeyspace session)).server }
    (∀ e st', ReadRow tokenCodec tallyKeyspace "S:0" { Name := "S" } st = .error e st' → e ≠ .malformed) ∧
      ∀ rr st', ReadRow tokenCodec tallyKeyspace "S:0" { Name := "S" } st = .ok rr st' →
        ∃ sheetPart rowNum, splitKey "S:0" = [sheetPart, rowNum] ∧
          st.server.hashes (tallyKeyspace.makeSheetRowsStore "S") rowNum =
            some (encodeRow tokenCodec rr.row rr.maxCol) ∧
          rr.row.Sheet = { Name := "S" } ∧ rr.currentCell = none :=
  ReadRow_never_malformed (.single ⟨_, .writeRow, rfl, rfl, rfl⟩)

end Rows

section CurrentCell

variable {Byte DV RT : Type} (codec : CellCodec Byte DV RT) (keys : Keyspace)

/-- The record of `c` is stored under the row's number in the hash of `c`'s column. -/
def Persisted (rr : RedisRow DV RT) (c : Cell DV RT) (server : Server Byte) : Prop :=
  server.hashes (keys.makeCellKeyPrefix rr.row.Sheet.Name c.num) (keys.makeRowNum rr.row.num) =
    some (encodeCell codec (some c))

variable {R : RedisRow DV RT} {c : Cell DV RT}

theorem storeCell_stores (sheetName rowNum : String) :
    Triple (fun st : Session Byte DV RT => st.rr = R) (storeCell codec keys sheetName rowNum c)
      (fun _ st => st.rr = R ∧
        st.server.hashes (keys.makeCellKeyPrefix sheetName c.num) rowNum = some (encodeCell codec (some c)))
      (fun _ => True) :=
  Triple.bind (Triple.mono (Keeps.command_row R _) (fun _ same => same) (fun _ _ same => same) fun _ _ => trivial)
    fun _ => Triple.command (fun _ same => ⟨same, Server.hset_hashes_self ..⟩) fun _ _ => trivial

theorem RedisRow.writeCell_persists :
    Triple (fun st : Session Byte DV RT => st.rr = R) (RedisRow.writeCell codec keys (some c))
      (fun _ st => st.rr = R ∧ Persisted codec keys R c st.server) (fun _ => True) :=
  Triple.getRow_bind fun _ same => same ▸ storeCell_stores codec keys _ _

theorem RedisRow.flushCurrentCell_persists (current : R.currentCell = some c) (modified : c.modified = true) :
    Triple (fun st : Session Byte DV RT => st.rr = R) (RedisRow.flushCurrentCell codec keys)
      (fun _ st => st.rr = R ∧ Persisted codec keys R c st.server) (fun _ => True) := by
  have flushed : Cell.Modified codec (some c) = true := codec.Modified_of_marked c modified
  refine Triple.getRow_bind fun _ same => ?_
  rw [same, current, if_pos flushed]
  exact Triple.tryCatch (RedisRow.writeCell_persists codec keys) fun _ => Triple.throw _ fun _ _ => trivial

theorem RedisRow.setCurrentCell_persists (current : R.currentCell = some c) (modified : c.modified = true)
    (cell : Option (Cell DV RT)) :
    Triple (fun st : Session Byte DV RT => st.rr = R) (RedisRow.setCurrentCell codec keys cell)
      (fun _ st => Persisted codec keys R c st.server) (fun _ => True) := by
  refine Triple.bind (RedisRow.flushCurrentCell_persists codec keys current modified) fun _ => ?_
  cases cell with
  | none => exact Triple.throw _ fun _ _ => trivial
  | some cell => exact Triple.setRow _ fun _ persisted => persisted.2

theorem RedisRow.readCell_keeps_row (index : Int) :
    Keeps (fun st : Session Byte DV RT => st.rr = R) (RedisRow.readCell codec keys index) :=
  Triple.bind Keeps.getRow fun _ => Triple.bind (Keeps.command_row R _) fun _ =>
    Triple.mono (readCell_fresh codec _) (fun _ same => same) (fun _ _ fresh => fresh.1) fun _ same => same

/-- A modified current cell is never dropped when the row moves to another cell: once `AddCell`,
`PushCell`, or `GetCell` of another column returns, the cell's record is stored under the row's
number in its column's hash, since `setCurrentCell` flushes it first (a failed flush panics). -/
theorem switching_cell_persists_modified (current : R.currentCell = some c) (modified : c.modified = true) :
    Triple (fun st : Session Byte DV RT => st.rr = R) (RedisRow.AddCell codec keys)
      (fun _ st => Persisted codec keys R c st.server) (fun _ => True) ∧
    (∀ pushed, Triple (fun st : Session Byte DV RT => st.rr = R) (RedisRow.PushCell codec keys pushed)
      (fun _ st => Persisted codec keys R c st.server) (fun _ => True)) ∧
    ∀ colIdx, c.num ≠ colIdx → Triple (fun st : Session Byte DV RT => st.rr = R) (RedisRow.GetCell codec keys colIdx)
      (fun _ st => Persisted codec keys R c st.server) (fun _ => True) := by
  have switched := RedisRow.setCurrentCell_persists codec keys current modified
  refine ⟨Triple.getRow_bind fun _ same => ?_, fun _ => switched _, fun colIdx moved => ?_⟩
  · exact Triple.bind (same ▸ switched _) fun _ => Triple.pure _ fun _ persisted => persisted
  · have fetched : Triple (fun st : Session Byte DV RT => st.rr = R) (RedisRow.readOrNewCell codec keys colIdx)
        (fun _ st => Persisted codec keys R c st.server) (fun _ => True) := by
      refine Triple.bind (Triple.observing (RedisRow.readCell_keeps_row codec keys colIdx)) fun read => ?_
      cases read with
      | ok cell => exact Triple.bind (switched _) fun _ => Triple.pure _ fun _ persisted => persisted
      | error _ => exact Triple.getRow_bind fun _ same =>
          Triple.bind (same ▸ switched _) fun _ => Triple.pure _ fun _ persisted => persisted
    refine Triple.getRow_bind fun _ same => ?_
    rw [same, current]
    simp only [moved, if_false]
    exact fetched

theorem switching_cell_persists_modified_after_edit :
    let R : RedisRow Unit Unit :=
      { (makeRedisRow { Name := "S" } : RedisRow Unit Unit) with currentCell := some { modified := true } }
    let persisted (st : Session (Token Unit Unit) Unit Unit) : Prop :=
      Persisted tokenCodec tallyKeyspace R { modified := true } st.server
    Triple (fun st => st.rr = R) (RedisRow.AddCell tokenCodec tallyKeyspace) (fun _ => persisted) (fun _ => True) ∧
    (∀ pushed, Triple (fun st => st.rr = R) (RedisRow.PushCell tokenCodec tallyKeyspace pushed)
      (fun _ => persisted) (fun _ => True)) ∧
    ∀ colIdx, (0 : Int) ≠ colIdx → Triple (fun st => st.rr = R) (RedisRow.GetCell tokenCodec tallyKeyspace colIdx)
      (fun _ => persisted) (fun _ => True) :=
  switching_cell_persists_modified tokenCodec tallyKeyspace rfl rfl

theorem WriteRow_persists (current : R.currentCell = some c) :
    Triple (fun st : Session Byte DV RT => st.rr = R) (WriteRow codec keys)
      (fun _ st => Persisted codec keys R c st.server) (fun _ => True) := by
  refine Triple.getRow_bind fun _ same => ?_
  rw [same, current]
  refine Triple.bind (Triple.mono (Keeps.recordSheetName _ fun _ _ same => same) (fun _ same => same)
    (fun _ _ same => same) fun _ _ => trivial) fun _ => ?_
  refine Triple.bind (RedisRow.writeCell_persists codec keys) fun _ => ?_
  refine Triple.command (fun st persisted => ?_) fun _ _ => trivial
  show (st.server.hset _ _ _).hashes _ _ = _
  rw [Server.hset_hashes_ne _ _ (.inl (keys.makeSheetRowsStore_ne _ _).symm)]
  exact persisted.2

theorem RedisRow.GetCell_of_stored {st : Session Byte DV RT} {colIdx : Int} {bytes rest : List Byte}
    {x : Cell DV RT} (elsewhere : ∀ c, st.rr.currentCell = some c → c.num ≠ colIdx)
    (clean : Cell.Modified codec st.rr.currentCell = false) (up : st.faults st.clock = false)
    (stored : st.server.hashes (keys.makeCellKeyPrefix st.rr.row.Sheet.Name colIdx) (keys.makeRowNum st.rr.row.num) =
      some bytes)
    (decoded : decodeCell codec bytes = some (some x, rest)) :
    Triple (· = st) (RedisRow.GetCell codec keys colIdx)
      (fun c s => c = some x ∧ s.rr.currentCell = some x ∧ s.rr.row = st.rr.row ∧ s.server = st.server)
      (fun _ => False) := by
  let read : Session Byte DV RT := { st with clock := st.clock + 1 }
  have fetched : Triple (· = st) (RedisRow.readCell codec keys colIdx) (fun c s => s = read ∧ c = some x)
      (fun _ => False) := by
    refine Triple.getRow_bind fun _ same => ?_
    rw [same]
    refine Triple.bind (Q := fun b s => b = some bytes ∧ s = read)
      (Triple.command_answered (fun _ same => same ▸ up) fun _ same => by rw [same]; exact ⟨stored, rfl⟩) ?_
    rintro _ _ ⟨rfl, rfl⟩
    rw [Option.getD_some, readCell_decoded codec decoded]
    exact ⟨rfl, rfl⟩
  have switched : Triple (· = read) (RedisRow.setCurrentCell codec keys (some x))
      (fun _ s => s.rr.currentCell = some x ∧ s.rr.row = st.rr.row ∧ s.server = st.server) (fun _ => False) := by
    refine Triple.bind (Q := fun _ => (· = read)) (Triple.getRow_bind fun _ same => ?_) fun _ =>
      Triple.setRow _ fun _ same => by rw [same]; exact ⟨rfl, rfl, rfl⟩
    rw [same, if_neg (by rw [clean]; nofun)]
    exact Triple.pure _ fun _ same => same
  have other : Triple (· = st) (RedisRow.readOrNewCell codec keys colIdx)
      (fun c s => c = some x ∧ s.rr.currentCell = some x ∧ s.rr.row = st.rr.row ∧ s.server = st.server)
      (fun _ => False) :=
    Triple.bind (Triple.observing fetched) fun
      | .ok _ => Triple.of_eq_and fun found => by
          rw [found]
          exact Triple.bind switched fun _ => Triple.pure _ fun _ post => ⟨rfl, post⟩
      | .error _ => fun _ impossible => impossible.elim
  refine Triple.getRow_bind fun _ same => ?_
  rw [same]
  split
  · next current found => rw [if_neg (elsewhere current found)]; exact other
  · exact other

variable {codec keys}

/-- Round trip through the store: after `WriteRow` of a row whose current cell is `c`, `ReadRow`
on a key naming the row's number gives back the row with its max column and no current cell,
and `GetCell` of `c`'s column on that row gives back `c` with every field the record holds, as a
cell read from a record is: unmodified and linked to no row. -/
theorem WriteRow_round_trip {st st₁ : Session Byte DV RT} {key sheetPart : String}
    (current : st.rr.currentCell = some c) (written : WriteRow codec keys st = .ok () st₁)
    (named : splitKey key = [sheetPart, keys.makeRowNum st.rr.row.num])
    (up : st₁.faults st₁.clock = false) (up' : st₁.faults (st₁.clock + 1) = false) :
    let reloaded : RedisRow DV RT := { row := st.rr.row, maxCol := st.rr.maxCol, currentCell := none }
    ∃ st₂ st₃, ReadRow codec keys key st.rr.row.Sheet st₁ = .ok reloaded st₂ ∧
      RedisRow.GetCell codec keys c.num { st₂ with rr := reloaded } =
        .ok (some { c with modified := false, Row := none }) st₃ := by
  intro reloaded
  have persisted := WriteRow_persists codec keys current st rfl
  rw [written] at persisted
  have decoded := decodeCell_encodeCell codec (some c) []
  rw [List.append_nil] at decoded
  let st₂ : Session Byte DV RT :=
    { st₁ with sheetName := recordedSheetName st₁.sheetName st.rr.row.Sheet.Name, clock := st₁.clock + 1 }
  obtain ⟨_, st₃, got, rfl, -⟩ := Triple.returns (@RedisRow.GetCell_of_stored _ _ _ codec keys
    { st₂ with rr := reloaded } _ _ _ _ (fun _ none => nomatch none) rfl up' persisted decoded)
  exact ⟨st₂, st₃, ReadRow_WriteRow codec keys written named up, got⟩

theorem WriteRow_round_trip_of_cell :
    let st : Session (Token Unit Unit) Unit Unit :=
      { server := {}, rr := { (makeRedisRow { Name := "S" } : RedisRow Unit Unit) with
          maxCol := 0, currentCell := some { Value := "x", modified := true } } }
    let st₁ := finalState (WriteRow tokenCodec tallyKeyspace st)
    let reloaded : RedisRow Unit Unit := { row := st.rr.row, maxCol := st.rr.maxCol, currentCell := none }
    ∃ st₂ st₃, ReadRow tokenCodec tallyKeyspace "S:0" st.rr.row.Sheet st₁ = .ok reloaded st₂ ∧
      RedisRow.GetCell tokenCodec tallyKeyspace 0 { st₂ with rr := reloaded } =
        .ok (some { Value := "x" }) st₃ := by
  intro st st₁ reloaded
  exact @WriteRow_round_trip _ _ _ tokenCodec tallyKeyspace { Value := "x", modified := true } st st₁ "S:0" "S" rfl
    (eq_ok_of_returned (by decide)) (by decide) (by decide) (by decide)

end CurrentCell

section Removal

variable {Byte DV RT : Type} {codec : CellCodec Byte DV RT} {keys : Keyspace}

theorem forM_HDEL (rowNum : String) (cells : List String) (kept : String → Option (List Byte)) :
    Triple (fun st : Session Byte DV RT => ∀ key, st.server.hashes key rowNum = kept key)
      (cells.forM fun cell => HDEL cell rowNum)
      (fun _ st => ∀ key, st.server.hashes key rowNum = if key ∈ cells then none else kept key) (fun _ => True) := by
  induction cells generalizing kept with
  | nil => exact Triple.pure _ fun _ same key => by simpa using same key
  | cons cell cells more =>
    refine Triple.bind (Triple.command (fun st same key => ?_) fun _ _ => trivial) fun _ =>
      Triple.mono (more fun key => if key = cell then none else kept key) (fun _ same => same)
        (fun _ _ cleared key => ?_) fun _ _ => trivial
    · show (st.server.hset cell rowNum none).hashes key rowNum = _
      rw [Server.hset_hashes, same key]
      simp only [and_true]
    · rw [cleared key]
      by_cases listed : key ∈ cells <;> by_cases here : key = cell <;> simp [listed, here]

theorem RemoveRow_clears_cells_of_invariant {sheetName rowNum key : String} {st st' : Session Byte DV RT}
    (inv : KeyspaceInvariant codec keys sheetName st.server) (named : splitKey key = [sheetName, rowNum])
    (listed : st.faults st.clock = false) (removed : RemoveRow keys key st = .ok () st') (col : Int) :
    st'.server.hashes (keys.makeCellKeyPrefix sheetName col) rowNum = none := by
  let index := keys.makeSheetCellsStore sheetName
  let covers (cells : List String) : Prop :=
    ∀ col, (keys.makeCellKeyPrefix sheetName col, col) ∈ st.server.zsets index → keys.makeCellKeyPrefix sheetName col ∈ cells
  have answered : Triple (fun s : Session Byte DV RT => s = st ∧ s.faults s.clock = false) (ZRANGE index)
      (fun cells s => covers cells ∧ ∀ key, s.server.hashes key rowNum = st.server.hashes key rowNum)
      (fun _ => False) :=
    Triple.command_up fun _ same => by
      subst same
      refine ⟨fun _ indexed => List.mem_map.mpr ⟨_, List.mem_mergeSort.mpr indexed, rfl⟩, fun _ => ?_⟩
      rfl
  have ranged : Triple (fun s : Session Byte DV RT => s = st ∧ s.faults s.clock = false)
      (tryCatch (ZRANGE index) fun _ => pure [])
      (fun cells s => covers cells ∧ ∀ key, s.server.hashes key rowNum = st.server.hashes key rowNum)
      (fun _ => True) :=
    Triple.tryCatch answered fun _ _ impossible => impossible.elim
  have run : Triple (fun s : Session Byte DV RT => s = st ∧ s.faults s.clock = false) (RemoveRow keys key)
      (fun _ s => s.server.hashes (keys.makeCellKeyPrefix sheetName col) rowNum = none) (fun _ => True) := by
    unfold RemoveRow
    rw [named]
    refine Triple.bind ranged fun cells s ⟨covered, same⟩ => ?_
    refine (Triple.bind (forM_HDEL rowNum cells fun key => st.server.hashes key rowNum) fun _ =>
      Triple.command (fun s cleared => ?_) fun _ _ => trivial) s same
    show (s.server.hset sheetName rowNum none).hashes _ rowNum = none
    rw [Server.hset_hashes, cleared]
    split
    · rfl
    split
    · rfl
    next unlisted =>
      cases stored : st.server.hashes (keys.makeCellKeyPrefix sheetName col) rowNum with
      | none => rfl
      | some bytes => exact absurd (covered col (inv col rowNum bytes stored).2) unlisted
  have := run st ⟨rfl, listed⟩
  rwa [removed] at this

/-- On every server reachable by operations on rows of a sheet, `RemoveRow` of a key of that
sheet that returns, with the cell index answering, has removed the row's record from every
column's cell hash. -/
theorem RemoveRow_clears_cells {sheetName rowNum key : String} {st st' : Session Byte DV RT}
    (reach : ReflTransGen (StoreStep codec keys sheetName) {} st.server) (named : splitKey key = [sheetName, rowNum])
    (listed : st.faults st.clock = false) (removed : RemoveRow keys key st = .ok () st') (col : Int) :
    st'.server.hashes (keys.makeCellKeyPrefix sheetName col) rowNum = none :=
  RemoveRow_clears_cells_of_invariant (KeyspaceInvariant.of_reach reach) named listed removed col

unseal List.mergeSort in
theorem RemoveRow_clears_cells_after_moveRow :
    let session : Session (Token Unit Unit) Unit Unit :=
      { server := {}, rr := { (makeRedisRow { Name := "S" } : RedisRow Unit Unit) with
          currentCell := some { Value := "x" } } }
    let moving : Session (Token Unit Unit) Unit Unit :=
      { server := (finalState (RowOp.writeRow.run tokenCodec tallyKeyspace session)).server,
        rr := { (makeRedisRow { Name := "S" } : RedisRow Unit Unit) with maxCol := 0 } }
    let st := finalState ((RowOp.moveRow 5 2).run tokenCodec tallyKeyspace moving)
    (st.server.hashes (tallyKeyspace.makeCellKeyPrefix "S" 0) "5").isSome ∧
      (finalState (RemoveRow tallyKeyspace "S:5" st)).server.hashes (tallyKeyspace.makeCellKeyPrefix "S" 0) "5" = none := by
  intro session moving st
  have moved : (st.server.hashes (tallyKeyspace.makeCellKeyPrefix "S" 0) "5").isSome ∧ st.faults st.clock = false ∧
      returned (RemoveRow tallyKeyspace "S:5" st) = some () := by
    simp only [st, moving, RowOp.run, MoveRow, RedisRow.ForEachCell, RedisRow.eachStoredColumn]
    decide
  exact ⟨moved.1, @RemoveRow_clears_cells _ _ _ tokenCodec tallyKeyspace "S" "5" "S:5" st _
    (.tail (.single ⟨session, .writeRow, rfl, rfl, rfl⟩) ⟨moving, .moveRow 5 2, rfl, rfl, rfl⟩)
    (by decide) moved.2.1 (eq_ok_of_returned moved.2.2) 0⟩

end Removal

section Column

variable {Byte DV RT : Type} (codec : CellCodec Byte DV RT) (keys : Keyspace)

theorem RedisRow.flushCurrentCell_keeps_row (R : RedisRow DV RT) :
    Keeps (fun st : Session Byte DV RT => st.rr = R) (RedisRow.flushCurrentCell codec keys) := by
  refine Triple.bind Keeps.getRow fun _ => ?_
  split
  · exact Triple.tryCatch (writeCell_keeps_row codec keys R _) fun _ => Keeps.throw _
  · exact Keeps.pure _

theorem RedisRow.setCurrentCell_some (R : RedisRow DV RT) (x : Cell DV RT) :
    Triple (fun st : Session Byte DV RT => st.rr = R) (RedisRow.setCurrentCell codec keys (some x))
      (fun _ st => st.rr.row = R.row ∧ st.rr.currentCell = some x ∧ x.num ≤ st.rr.maxCol) (fun _ => True) :=
  Triple.bind (Triple.mono (RedisRow.flushCurrentCell_keeps_row codec keys R) (fun _ same => same)
    (fun _ _ same => same) fun _ _ => trivial) fun _ =>
    Triple.setRow _ fun _ same => by subst same; exact ⟨rfl, rfl, by dsimp only; split <;> omega⟩

theorem RedisRow.readCell_column (R : RedisRow DV RT) (colIdx : Int) :
    Triple (fun st : Session Byte DV RT => st.rr = R ∧ KeyspaceInvariant codec keys R.row.Sheet.Name st.server)
      (RedisRow.readCell codec keys colIdx) (fun cell st => st.rr = R ∧ ∀ x ∈ cell, x.num = colIdx)
      (fun st => st.rr = R ∧ KeyspaceInvariant codec keys R.row.Sheet.Name st.server) := by
  refine Triple.getRow_bind fun _ pre => ?_
  rw [pre.1]
  let key := keys.makeCellKeyPrefix R.row.Sheet.Name colIdx
  let field := keys.makeRowNum R.row.num
  refine Triple.bind (Triple.command (Q := fun b st => (st.rr = R ∧ KeyspaceInvariant codec keys R.row.Sheet.Name
    st.server) ∧ b = st.server.hashes key field) (fun _ pre => ⟨pre, rfl⟩) fun _ pre => pre) fun b => ?_
  unfold Xlsx.readCell
  split
  · next cell rest decoded =>
    refine Triple.pure _ fun st ⟨⟨same, inv⟩, read⟩ => ⟨same, fun x found => ?_⟩
    cases b with
    | none => exact absurd decoded (by rw [Option.getD_none, decodeCell_nil]; nofun)
    | some bytes =>
      obtain ⟨⟨c, rest', decoded', column⟩, -⟩ := inv colIdx field bytes read.symm
      rw [Option.getD_some, decoded'] at decoded
      cases decoded
      cases found
      exact column
  · exact Triple.throw _ fun _ pre => pre.1

theorem RedisRow.GetCell_column (R : RedisRow DV RT) (colIdx : Int)
    (bounded : ∀ x, R.currentCell = some x → x.num ≤ R.maxCol) :
    Triple (fun st : Session Byte DV RT => st.rr = R ∧ KeyspaceInvariant codec keys R.row.Sheet.Name st.server)
      (RedisRow.GetCell codec keys colIdx)
      (fun c st => ∃ x, c = some x ∧ x.num = colIdx ∧ st.rr.currentCell = some x ∧ st.rr.row = R.row ∧
        colIdx ≤ st.rr.maxCol)
      (fun _ => True) := by
  have fetched : Triple (fun st : Session Byte DV RT => st.rr = R ∧ KeyspaceInvariant codec keys R.row.Sheet.Name st.server)
      (RedisRow.readOrNewCell codec keys colIdx)
      (fun c st => ∃ x, c = some x ∧ x.num = colIdx ∧ st.rr.currentCell = some x ∧ st.rr.row = R.row ∧
        colIdx ≤ st.rr.maxCol)
      (fun _ => True) := by
    refine Triple.bind (Triple.observing (RedisRow.readCell_column codec keys R colIdx)) fun read => ?_
    cases read with
    | ok cell =>
      cases cell with
      | none => exact Triple.bind (RedisRow.setCurrentCell_none codec keys) fun _ _ => False.elim
      | some x =>
        intro st ⟨same, column⟩
        refine Triple.bind (RedisRow.setCurrentCell_some codec keys R x) (fun _ => Triple.pure _ fun _ post =>
          ⟨x, rfl, column x rfl, post.2.1, post.1, column x rfl ▸ post.2.2⟩) st same
    | error _ =>
      refine Triple.getRow_bind fun _ pre => ?_
      rw [pre.1]
      exact Triple.bind (Triple.mono (RedisRow.setCurrentCell_some codec keys R _) (fun _ pre => pre.1)
        (fun _ _ post => post) fun _ _ => trivial) fun _ => Triple.pure _ fun _ post => ⟨_, rfl, rfl, post.2.1, post.1, post.2.2⟩
  refine Triple.getRow_bind fun _ pre => ?_
  rw [pre.1]
  split
  · next current found =>
    split
    · next here =>
      exact Triple.pure _ fun _ pre => by
        rw [pre.1]
        exact ⟨current, rfl, here, found, rfl, here ▸ bounded current found⟩
    · exact fetched
  · exact fetched

/-- On every server reachable by operations on rows of the sheet, `GetCell` of a column that
returns gives back a cell of that very column and makes it the row's current cell, with
`MaxCol` raised to the column: the cell index never hands out another column's cell. The row's
current cell, if any, is taken to lie within its `maxCol`, as `setCurrentCell` leaves it. -/
theorem GetCell_returns_column {st st' : Session Byte DV RT} {colIdx : Int} {c : Option (Cell DV RT)}
    (reach : ReflTransGen (StoreStep codec keys st.rr.row.Sheet.Name) {} st.server)
    (bounded : ∀ x, st.rr.currentCell = some x → x.num ≤ st.rr.maxCol)
    (got : RedisRow.GetCell codec keys colIdx st = .ok c st') :
    ∃ x, c = some x ∧ x.num = colIdx ∧ st'.rr.currentCell = some x ∧ st'.rr.row = st.rr.row ∧
      colIdx ≤ st'.rr.maxCol := by
  have run := RedisRow.GetCell_column codec keys st.rr colIdx bounded st ⟨rfl, KeyspaceInvariant.of_reach reach⟩
  rwa [got] at run

unseal List.mergeSort in
theorem GetCell_returns_column_after_writeRow :
    let session : Session (Token Unit Unit) Unit Unit :=
      { server := {}, rr := { (makeRedisRow { Name := "S" } : RedisRow Unit Unit) with
          maxCol := 0, currentCell := some { Value := "x", modified := true } } }
    let st : Session (Token Unit Unit) Unit Unit :=
      { server := (finalState (RowOp.writeRow.run tokenCodec tallyKeyspace session)).server,
        rr := { row := session.rr.row, maxCol := 0, currentCell := none } }
    ∃ c st', RedisRow.GetCell tokenCodec tallyKeyspace 0 st = .ok c st' ∧
      ∃ x, c = some x ∧ x.num = 0 ∧ st'.rr.currentCell = some x ∧ st'.rr.row = st.rr.row ∧ 0 ≤ st'.rr.maxCol := by
  intro session st
  have ran := eq_ok_of_returned (Option.eq_some_of_isSome
    (show (returned (RedisRow.GetCell tokenCodec tallyKeyspace 0 st)).isSome = true by decide))
  have reach : ReflTransGen (StoreStep tokenCodec tallyKeyspace st.rr.row.Sheet.Name) {} st.server :=
    .single ⟨session, .writeRow, rfl, rfl, rfl⟩
  have bounded : ∀ x, st.rr.currentCell = some x → x.num ≤ st.rr.maxCol := fun _ current => by
    cases current
  exact ⟨_, _, ran, @GetCell_returns_column _ _ _ tokenCodec tallyKeyspace st _ 0 _ reach bounded ran⟩

end Column

section Faults

variable {Byte DV RT : Type} (codec : CellCodec Byte DV RT) (keys : Keyspace)

end Faults

end Xlsx
