import Xlsx.Redis.Store
import Mathlib.Logic.Relation

namespace Xlsx

/-- What a caller's visitor does with the cell `ForEachCell` hands it, which is then the row's
current cell: it leaves it, edits it through its setters, or fails. -/
inductive Visit (DV RT : Type)
  | keep
  | edit (f : Cell DV RT → Cell DV RT)
  | stop (reason : String)

/-- The operations of the store on a row object. -/
inductive RowOp (DV RT : Type)
  | addCell
  | getCell (colIdx : Int)
  | pushCell (c : Cell DV RT)
  | edit (f : Cell DV RT → Cell DV RT)
  | forEachCell (visit : Visit DV RT) (skipEmptyCells : Bool) (fuel : Nat)
  | writeRow
  | moveRow (index : Int) (fuel : Nat)
  | removeRow (key : String)
  | readRow (key : String) (sheet : Sheet)

section Keyspace

variable {Byte DV RT : Type} (codec : CellCodec Byte DV RT) (keys : Keyspace) (sheetName : String)

def Visit.run : Visit DV RT → Option (Cell DV RT) → RowM Byte DV RT Unit
  | .keep, _ => pure ()
  | .edit f, _ => RedisRow.editCurrentCell f
  | .stop reason, _ => throw (.visitor reason)

def RowOp.run : RowOp DV RT → RowM Byte DV RT Unit
  | .addCell => discard (RedisRow.AddCell codec keys)
  | .getCell colIdx => discard (RedisRow.GetCell codec keys colIdx)
  | .pushCell c => RedisRow.PushCell codec keys c
  | .edit f => RedisRow.editCurrentCell f
  | .forEachCell visit skipEmptyCells fuel => RedisRow.ForEachCell codec keys visit.run skipEmptyCells fuel
  | .writeRow => WriteRow codec keys
  | .moveRow index fuel => MoveRow codec keys index fuel
  | .removeRow key => RemoveRow keys key
  | .readRow key sheet => discard (ReadRow codec keys key sheet)

/-- One operation on the server: the program may hold any row object of the sheet, and any
command may fail. -/
def StoreStep (server server' : Server Byte) : Prop :=
  ∃ (session : Session Byte DV RT) (op : RowOp DV RT), session.server = server ∧
    session.rr.row.Sheet.Name = sheetName ∧ (finalState (op.run codec keys session)).server = server'

/-- Every cell record of the sheet decodes to a cell of its column, and the column's key is in
the sheet's cell index with the column as score. -/
def KeyspaceInvariant (server : Server Byte) : Prop :=
  ∀ col rowNum bytes, server.hashes (keys.makeCellKeyPrefix sheetName col) rowNum = some bytes →
    (∃ c rest, decodeCell codec bytes = some (some c, rest) ∧ c.num = col) ∧
    (keys.makeCellKeyPrefix sheetName col, col) ∈ server.zsets (keys.makeSheetCellsStore sheetName)

def Indexed (col : Int) (server : Server Byte) : Prop :=
  (keys.makeCellKeyPrefix sheetName col, col) ∈ server.zsets (keys.makeSheetCellsStore sheetName)

section Server

variable {codec keys sheetName} {server : Server Byte}

theorem KeyspaceInvariant.empty : KeyspaceInvariant codec keys sheetName ({} : Server Byte) :=
  fun _ _ _ stored => nomatch stored

theorem KeyspaceInvariant.hdel (inv : KeyspaceInvariant codec keys sheetName server) (key field : String) :
    KeyspaceInvariant codec keys sheetName (server.hset key field none) := by
  intro col rowNum bytes stored
  rw [Server.hset_hashes] at stored
  split at stored
  · cases stored
  · exact inv col rowNum bytes stored

theorem KeyspaceInvariant.hset_rows (inv : KeyspaceInvariant codec keys sheetName server) (field : String)
    (value : List Byte) :
    KeyspaceInvariant codec keys sheetName (server.hset (keys.makeSheetRowsStore sheetName) field (some value)) := by
  intro col rowNum bytes stored
  rw [Server.hset_hashes_ne _ _ (.inl (keys.makeSheetRowsStore_ne sheetName col).symm)] at stored
  exact inv col rowNum bytes stored

theorem Indexed.zadd {col : Int} (indexed : Indexed keys sheetName col server) (col' : Int) :
    Indexed keys sheetName col
      (server.zadd (keys.makeSheetCellsStore sheetName) col' (keys.makeCellKeyPrefix sheetName col')) := by
  refine (Server.mem_zadd ..).mpr ?_
  by_cases same : keys.makeCellKeyPrefix sheetName col = keys.makeCellKeyPrefix sheetName col'
  · cases keys.makeCellKeyPrefix_injective sheetName same
    exact .inl rfl
  · exact .inr ⟨indexed, same⟩

theorem KeyspaceInvariant.zadd (inv : KeyspaceInvariant codec keys sheetName server) (col : Int) :
    KeyspaceInvariant codec keys sheetName
      (server.zadd (keys.makeSheetCellsStore sheetName) col (keys.makeCellKeyPrefix sheetName col)) :=
  fun col' rowNum bytes stored =>
    have ⟨decoded, indexed⟩ := inv col' rowNum bytes stored
    ⟨decoded, Indexed.zadd indexed col⟩

theorem KeyspaceInvariant.hset_cell (inv : KeyspaceInvariant codec keys sheetName server) (c : Cell DV RT)
    (rowNum : String) (indexed : Indexed keys sheetName c.num server) :
    KeyspaceInvariant codec keys sheetName
      (server.hset (keys.makeCellKeyPrefix sheetName c.num) rowNum (some (encodeCell codec (some c)))) := by
  intro col rowNum' bytes stored
  by_cases same : keys.makeCellKeyPrefix sheetName col = keys.makeCellKeyPrefix sheetName c.num ∧ rowNum' = rowNum
  · obtain ⟨sameKey, rfl⟩ := same
    have sameCol := keys.makeCellKeyPrefix_injective sheetName sameKey
    subst sameCol
    rw [Server.hset_hashes_self] at stored
    have decoded := decodeCell_encodeCell codec (some c) []
    rw [List.append_nil, Option.some.inj stored] at decoded
    exact ⟨⟨_, _, decoded, rfl⟩, indexed⟩
  · rw [Server.hset_hashes_ne _ _ (not_and_or.mp same)] at stored
    exact inv col rowNum' bytes stored

theorem KeyspaceInvariant.indexed (inv : KeyspaceInvariant codec keys sheetName server) {col : Int}
    {rowNum : String} {bytes rest : List Byte} {c : Cell DV RT}
    (stored : server.hashes (keys.makeCellKeyPrefix sheetName col) rowNum = some bytes)
    (decoded : decodeCell codec bytes = some (some c, rest)) : Indexed keys sheetName c.num server := by
  obtain ⟨⟨c', rest', decoded', column⟩, indexed⟩ := inv col rowNum bytes stored
  rw [decoded] at decoded'
  cases decoded'
  rwa [column]

end Server

/-- The effects a row's cell operations and the walks of `ForEachCell` have on the server: a
column key indexed under its column, a cell record stored under an indexed column key, and a
field deleted from a column's hash. -/
structure CellClosed (I : Server Byte → Prop) : Prop where
  zadd : ∀ server col, I server →
    I (server.zadd (keys.makeSheetCellsStore sheetName) col (keys.makeCellKeyPrefix sheetName col))
  hset_cell : ∀ server (c : Cell DV RT) rowNum, I server → Indexed keys sheetName c.num server →
    I (server.hset (keys.makeCellKeyPrefix sheetName c.num) rowNum (some (encodeCell codec (some c))))
  hdel_cell : ∀ server col field, I server → I (server.hset (keys.makeCellKeyPrefix sheetName col) field none)

/-- The effects the store's operations on rows of the sheet have on the server: a field deleted
anywhere, a row record stored in the sheet's rows hash, and the effects of the cell operations.
A property of the server that each of them keeps is kept by every operation. -/
structure StoreClosed (I : Server Byte → Prop) : Prop where
  hdel : ∀ server key field, I server → I (server.hset key field none)
  hset_rows : ∀ server field (row : Row) maxCol, I server →
    I (server.hset (keys.makeSheetRowsStore sheetName) field (some (encodeRow codec row maxCol)))
  zadd : ∀ server col, I server →
    I (server.zadd (keys.makeSheetCellsStore sheetName) col (keys.makeCellKeyPrefix sheetName col))
  hset_cell : ∀ server (c : Cell DV RT) rowNum, I server → Indexed keys sheetName c.num server →
    I (server.hset (keys.makeCellKeyPrefix sheetName c.num) rowNum (some (encodeCell codec (some c))))

section Closure

variable {codec keys sheetName} {I J : Server Byte → Prop}

theorem StoreClosed.cells (closed : StoreClosed codec keys sheetName I) : CellClosed codec keys sheetName I :=
  ⟨closed.zadd, closed.hset_cell, fun server _ field inv => closed.hdel server _ field inv⟩

theorem CellClosed.and (closed : CellClosed codec keys sheetName I) (closed' : CellClosed codec keys sheetName J) :
    CellClosed codec keys sheetName fun server => I server ∧ J server :=
  ⟨fun server col inv => ⟨closed.zadd server col inv.1, closed'.zadd server col inv.2⟩,
    fun server c rowNum inv indexed => ⟨closed.hset_cell server c rowNum inv.1 indexed,
      closed'.hset_cell server c rowNum inv.2 indexed⟩,
    fun server col field inv => ⟨closed.hdel_cell server col field inv.1, closed'.hdel_cell server col field inv.2⟩⟩

theorem StoreClosed.and (closed : StoreClosed codec keys sheetName I) (closed' : StoreClosed codec keys sheetName J) :
    StoreClosed codec keys sheetName fun server => I server ∧ J server :=
  ⟨fun server key field inv => ⟨closed.hdel server key field inv.1, closed'.hdel server key field inv.2⟩,
    fun server field row maxCol inv => ⟨closed.hset_rows server field row maxCol inv.1,
      closed'.hset_rows server field row maxCol inv.2⟩,
    (closed.cells.and closed'.cells).zadd, (closed.cells.and closed'.cells).hset_cell⟩

theorem Indexed.closed (col : Int) : CellClosed codec keys sheetName (Indexed keys sheetName col) :=
  ⟨fun _ col' indexed => indexed.zadd col', fun server _ _ indexed _ => by rwa [Indexed, Server.hset_zsets],
    fun server _ _ indexed => by rwa [Indexed, Server.hset_zsets]⟩

theorem KeyspaceInvariant.closed : StoreClosed codec keys sheetName (KeyspaceInvariant codec keys sheetName) :=
  ⟨fun _ key field inv => inv.hdel key field, fun _ field _ _ inv => inv.hset_rows field _,
    fun _ col inv => inv.zadd col, fun _ c rowNum inv indexed => inv.hset_cell c rowNum indexed⟩

end Closure

def OnSheet (I : Server Byte → Prop) (st : Session Byte DV RT) : Prop :=
  st.rr.row.Sheet.Name = sheetName ∧ I st.server

section Operations

variable {codec keys sheetName} {I : Server Byte → Prop}

theorem Keeps.read {α : Type} {act : Server Byte → α × Server Byte} (same : ∀ server, (act server).2 = server) :
    Keeps (OnSheet sheetName I : Session Byte DV RT → Prop) (Xlsx.command act) :=
  Keeps.command (fun rr server => rr.row.Sheet.Name = sheetName ∧ I server)
    fun _ server inv => by rw [same server]; exact inv

theorem Keeps.hdel (closed : StoreClosed codec keys sheetName I) (key field : String) :
    Keeps (OnSheet sheetName I : Session Byte DV RT → Prop) (HDEL key field) :=
  Keeps.command (fun rr server => rr.row.Sheet.Name = sheetName ∧ I server)
    fun _ _ inv => ⟨inv.1, closed.hdel _ key field inv.2⟩

theorem Keeps.hset_rows (closed : StoreClosed codec keys sheetName I) (field : String) (row : Row) (maxCol : Int) :
    Keeps (OnSheet sheetName I : Session Byte DV RT → Prop)
      (HSET (keys.makeSheetRowsStore sheetName) field (encodeRow codec row maxCol)) :=
  Keeps.command (fun rr server => rr.row.Sheet.Name = sheetName ∧ I server)
    fun _ _ inv => ⟨inv.1, closed.hset_rows _ field row maxCol inv.2⟩

theorem recordSheetName_keeps (name : String) :
    Keeps (OnSheet sheetName I : Session Byte DV RT → Prop) (recordSheetName name) :=
  Keeps.recordSheetName name fun _ _ inv => inv

theorem Keeps.setRow {f : RedisRow DV RT → RedisRow DV RT} (sameSheet : ∀ rr, (f rr).row.Sheet.Name = rr.row.Sheet.Name) :
    Keeps (OnSheet sheetName I : Session Byte DV RT → Prop) (setRow f) :=
  Triple.setRow f fun st inv => ⟨(sameSheet st.rr).trans inv.1, inv.2⟩

theorem readCell_keeps (bytes : List Byte) :
    Keeps (OnSheet sheetName I) (readCell codec bytes) :=
  Triple.mono (readCell_fresh codec bytes) (fun _ inv => inv) (fun _ _ post => post.1) fun _ inv => inv

theorem RedisRow.readCell_keeps (index : Int) :
    Keeps (OnSheet sheetName I) (RedisRow.readCell codec keys index) :=
  Triple.bind Keeps.getRow fun _ => Triple.bind (Keeps.read fun _ => rfl) fun _ => Xlsx.readCell_keeps _

theorem Keeps.observing {α : Type} {x : RowM Byte DV RT α} (kept : Keeps (OnSheet sheetName I) x) :
    Keeps (OnSheet sheetName I) (observing x) :=
  Triple.tryCatch (Triple.bind kept fun _ => Keeps.pure _) fun _ => Keeps.pure _

theorem RedisRow.editCurrentCell_keeps (f : Cell DV RT → Cell DV RT) :
    Keeps (OnSheet sheetName I : Session Byte DV RT → Prop) (RedisRow.editCurrentCell f) := by
  refine Triple.bind Keeps.getRow fun rr => ?_
  split
  · exact Keeps.setRow fun _ => rfl
  · exact Keeps.pure _

theorem Visit.run_keeps (visit : Visit DV RT) (c : Option (Cell DV RT)) :
    Keeps (OnSheet sheetName I : Session Byte DV RT → Prop) (visit.run c) := by
  cases visit with
  | keep => exact Keeps.pure _
  | edit f => exact RedisRow.editCurrentCell_keeps f
  | stop reason => exact Keeps.throw _

section Cells

variable (closed : CellClosed codec keys sheetName I)
include closed

theorem storeCell_keeps (rowNum : String) (c : Cell DV RT) :
    Keeps (OnSheet sheetName I) (storeCell codec keys sheetName rowNum c) := by
  have indexed : Triple (OnSheet sheetName I : Session Byte DV RT → Prop)
      (ZADD (keys.makeSheetCellsStore sheetName) c.num (keys.makeCellKeyPrefix sheetName c.num))
      (fun _ st => OnSheet sheetName I st ∧ Indexed keys sheetName c.num st.server) (OnSheet sheetName I) :=
    Triple.command (fun _ inv => ⟨⟨inv.1, closed.zadd _ c.num inv.2⟩, (Server.mem_zadd ..).mpr (.inl rfl)⟩)
      fun _ inv => inv
  exact Triple.bind indexed fun _ =>
    Triple.command (fun _ pre => ⟨pre.1.1, closed.hset_cell _ c rowNum pre.1.2 pre.2⟩) fun _ pre => pre.1

theorem RedisRow.writeCell_keeps (c : Option (Cell DV RT)) :
    Keeps (OnSheet sheetName I) (RedisRow.writeCell codec keys c) := by
  cases c with
  | none => exact Keeps.pure _
  | some c =>
    refine Triple.getRow_bind fun st inv => ?_
    rw [inv.1]
    exact storeCell_keeps closed _ c

theorem RedisRow.setCurrentCell_keeps (cell : Option (Cell DV RT)) :
    Keeps (OnSheet sheetName I) (RedisRow.setCurrentCell codec keys cell) := by
  have flushed : Keeps (OnSheet sheetName I) (RedisRow.flushCurrentCell codec keys) := by
    refine Triple.bind Keeps.getRow fun rr => ?_
    split
    · exact Triple.tryCatch (RedisRow.writeCell_keeps closed _) fun _ => Keeps.throw _
    · exact Keeps.pure _
  refine Triple.bind flushed fun _ => ?_
  cases cell with
  | none => exact Keeps.throw _
  | some cell => exact Keeps.setRow fun _ => rfl

theorem RedisRow.PushCell_keeps (c : Cell DV RT) :
    Keeps (OnSheet sheetName I) (RedisRow.PushCell codec keys c) :=
  RedisRow.setCurrentCell_keeps closed _

theorem RedisRow.AddCell_keeps :
    Keeps (OnSheet sheetName I) (RedisRow.AddCell codec keys) :=
  Triple.bind Keeps.getRow fun _ =>
    Triple.bind (RedisRow.setCurrentCell_keeps closed _) fun _ => Keeps.pure _

theorem RedisRow.GetCell_keeps (colIdx : Int) :
    Keeps (OnSheet sheetName I) (RedisRow.GetCell codec keys colIdx) := by
  have fetched : Keeps (OnSheet sheetName I) (RedisRow.readOrNewCell codec keys colIdx) := by
    refine Triple.bind (Keeps.observing (RedisRow.readCell_keeps colIdx)) fun read => ?_
    cases read with
    | ok cell => exact Triple.bind (RedisRow.setCurrentCell_keeps closed _) fun _ => Keeps.pure _
    | error _ =>
      exact Triple.bind Keeps.getRow fun _ => Triple.bind (RedisRow.PushCell_keeps closed _) fun _ => Keeps.pure _
  refine Triple.bind Keeps.getRow fun rr => ?_
  split
  · split
    · exact Keeps.pure _
    · exact fetched
  · exact fetched

theorem moveCell_keeps (oldKey newKey : String) (c : Cell DV RT) :
    Triple (fun st => OnSheet sheetName I st ∧ Indexed keys sheetName c.num st.server)
      (moveCell codec keys oldKey newKey (some c)) (fun _ => OnSheet sheetName I) (OnSheet sheetName I) := by
  refine Triple.getRow_bind fun _ pre => ?_
  rw [pre.1.1]
  exact Triple.bind (Triple.command (fun _ pre => ⟨pre.1.1, closed.hset_cell _ c newKey pre.1.2 pre.2⟩)
    fun _ pre => pre.1) fun _ =>
    Keeps.command (fun rr server => rr.row.Sheet.Name = sheetName ∧ I server)
      fun _ _ inv => ⟨inv.1, closed.hdel_cell _ _ oldKey inv.2⟩

section Walk

variable {cvf : Option (Cell DV RT) → RowM Byte DV RT Unit} (skipEmptyCells : Bool)

theorem RedisRow.visitColumn_keeps (visited : ∀ c, Keeps (OnSheet sheetName I) (cvf c)) (ci : Int)
    (cell : Option (Cell DV RT)) :
    Keeps (OnSheet sheetName I) (RedisRow.visitColumn codec keys cvf skipEmptyCells ci cell) := by
  have visit : ∀ c, Keeps (OnSheet sheetName I) (RedisRow.visitCell codec keys cvf skipEmptyCells c) := by
    intro c
    unfold RedisRow.visitCell
    split
    · exact Keeps.pure _
    · cases c with
      | none => exact Keeps.throw _
      | some c =>
        exact Triple.bind Keeps.getRow fun _ => Triple.bind (RedisRow.setCurrentCell_keeps closed _) fun _ => visited _
  cases cell with
  | none =>
    rw [RedisRow.visitColumn]
    split
    · exact Keeps.pure _
    · exact Triple.bind (RedisRow.GetCell_keeps closed ci) visit
  | some c => exact visit _

theorem RedisRow.eachStoredColumn_keeps (visited : ∀ c, Keeps (OnSheet sheetName I) (cvf c))
    (fuel : Nat) (ci : Int) :
    Keeps (OnSheet sheetName I) (RedisRow.eachStoredColumn codec keys cvf skipEmptyCells fuel ci) := by
  induction fuel generalizing ci with
  | zero =>
    refine Triple.bind Keeps.getRow fun rr => ?_
    split
    · exact Keeps.throw _
    · exact Keeps.pure _
  | succ fuel more =>
    refine Triple.bind Keeps.getRow fun rr => ?_
    split
    · exact Triple.bind (Keeps.read fun _ => rfl) fun _ => Triple.bind (Xlsx.readCell_keeps _) fun _ =>
        Triple.bind (RedisRow.visitColumn_keeps closed skipEmptyCells visited ci _) fun _ => more (ci + 1)
    · exact Keeps.pure _

theorem RedisRow.eachEmptyColumn_keeps (visited : ∀ c, Keeps (OnSheet sheetName I) (cvf c))
    (fuel : Nat) (ci : Int) :
    Keeps (OnSheet sheetName I) (RedisRow.eachEmptyColumn codec keys cvf fuel ci) := by
  induction fuel generalizing ci with
  | zero =>
    refine Triple.bind Keeps.getRow fun rr => ?_
    split
    · exact Keeps.throw _
    · exact Keeps.pure _
  | succ fuel more =>
    refine Triple.bind Keeps.getRow fun rr => ?_
    split
    · exact Triple.bind (RedisRow.GetCell_keeps closed ci) fun c => Triple.bind (visited c) fun _ => more (ci + 1)
    · exact Keeps.pure _

theorem RedisRow.ForEachCell_keeps (visited : ∀ c, Keeps (OnSheet sheetName I) (cvf c)) (fuel : Nat) :
    Keeps (OnSheet sheetName I) (RedisRow.ForEachCell codec keys cvf skipEmptyCells fuel) := by
  refine Triple.bind (RedisRow.eachStoredColumn_keeps closed skipEmptyCells visited fuel 0) fun _ => ?_
  split
  · exact Triple.bind Keeps.getRow fun _ => RedisRow.eachEmptyColumn_keeps closed visited fuel _
  · exact Keeps.pure _

/- Skipping empty cells, the walk hands its visitor only cells read from a record, made current.
Where every cell a record decodes to has a column satisfying `Q`, and the cell operations keep `Q`
of a column, the visitor may rely on `Q` of its cell's column. -/
variable {Q : Int → Server Byte → Prop} (closedQ : ∀ col, CellClosed codec keys sheetName (Q col))
  (read : ∀ server col rowNum bytes (c : Cell DV RT) rest, I server →
    server.hashes (keys.makeCellKeyPrefix sheetName col) rowNum = some bytes →
    decodeCell codec bytes = some (some c, rest) → Q c.num server)
  (visited : ∀ c : Cell DV RT, Triple (fun st => OnSheet sheetName I st ∧ Q c.num st.server) (cvf (some c))
    (fun _ => OnSheet sheetName I) (OnSheet sheetName I))
include closedQ visited

theorem RedisRow.visitColumn_skip_keeps (ci : Int) (cell : Option (Cell DV RT)) :
    Triple (fun st => OnSheet sheetName I st ∧ ∀ c, cell = some c → Q c.num st.server)
      (RedisRow.visitColumn codec keys cvf true ci cell) (fun _ => OnSheet sheetName I) (OnSheet sheetName I) := by
  cases cell with
  | none => exact Triple.pure _ fun _ pre => pre.1
  | some c =>
    show Triple _ (RedisRow.visitCell codec keys cvf true (some c)) _ _
    unfold RedisRow.visitCell
    split
    · exact Triple.pure _ fun _ pre => pre.1
    · dsimp only
      refine Triple.getRow_bind fun _ _ => ?_
      refine Triple.bind (Triple.mono (RedisRow.setCurrentCell_keeps (closed.and (closedQ c.num)) _)
        (fun _ pre => ⟨pre.1.1, pre.1.2, pre.2 c rfl⟩) (fun _ _ post => post) fun _ post => ⟨post.1, post.2.1⟩)
        fun _ => ?_
      exact Triple.mono (visited _) (fun _ pre => ⟨⟨pre.1, pre.2.1⟩, pre.2.2⟩) (fun _ _ post => post) fun _ post => post

include read in
theorem RedisRow.eachStoredColumn_skip_keeps (fuel : Nat) (ci : Int) :
    Keeps (OnSheet sheetName I) (RedisRow.eachStoredColumn codec keys cvf true fuel ci) := by
  induction fuel generalizing ci with
  | zero =>
    refine Triple.bind Keeps.getRow fun rr => ?_
    split
    · exact Keeps.throw _
    · exact Keeps.pure _
  | succ fuel more =>
    refine Triple.getRow_bind fun st inv => ?_
    rw [inv.1]
    split
    · let key := keys.makeCellKeyPrefix sheetName ci
      let field := keys.makeRowNum st.rr.row.num
      refine Triple.bind (Triple.command (Q := fun b st => OnSheet sheetName I st ∧ b = st.server.hashes key field)
        (fun _ pre => ⟨pre, rfl⟩) fun _ pre => pre) fun b => ?_
      refine Triple.bind (Q := fun cell st => OnSheet sheetName I st ∧ ∀ c, cell = some c → Q c.num st.server) ?_ fun cell =>
          Triple.bind (RedisRow.visitColumn_skip_keeps closed closedQ visited ci cell) fun _ => more (ci + 1)
      unfold Xlsx.readCell
      split
      · next cell rest decoded =>
        refine Triple.pure _ fun _ ⟨pre, fetched⟩ => ⟨pre, fun c found => ?_⟩
        cases found
        cases b with
        | none => exact absurd decoded (by rw [Option.getD_none, decodeCell_nil]; nofun)
        | some bytes => exact read _ ci field bytes c rest pre.2 fetched.symm decoded
      · exact Triple.throw _ fun _ pre => pre.1
    · exact Keeps.pure _

end Walk

end Cells

section Store

variable (closed : StoreClosed codec keys sheetName I)
include closed

theorem WriteRow_keeps : Keeps (OnSheet sheetName I) (WriteRow codec keys) := by
  refine Triple.getRow_bind fun st inv => ?_
  rw [inv.1]
  exact Triple.bind (recordSheetName_keeps _) fun _ =>
    Triple.bind (RedisRow.writeCell_keeps closed.cells _) fun _ => Keeps.hset_rows closed _ _ _

omit closed in
theorem ReadRow_keeps (key : String) (sheet : Sheet) :
    Keeps (OnSheet sheetName I) (ReadRow codec keys key sheet) := by
  refine Triple.bind (recordSheetName_keeps _) fun _ => ?_
  split
  · refine Triple.bind (Keeps.read fun _ => rfl) fun b => ?_
    split
    · exact Keeps.throw _
    · split
      · exact Keeps.throw _
      · exact Keeps.pure _
  · exact Keeps.throw _

/-- `MoveRow` stores cell records through `storeCell`, and through its visitor, which writes a
cell's record under the new number without indexing its column: the walk hands it only cells read
from a record, and over the keyspace invariant their columns are indexed. -/
theorem MoveRow_keeps (covered : ∀ server, I server → KeyspaceInvariant codec keys sheetName server)
    (index : Int) (fuel : Nat) :
    Keeps (OnSheet sheetName I) (MoveRow codec keys index fuel) := by
  refine Triple.getRow_bind fun st inv => ?_
  rw [inv.1]
  have flushed : Keeps (OnSheet sheetName I)
      (st.rr.currentCell.forM fun cell => storeCell codec keys sheetName (keys.makeRowNum st.rr.row.num) cell) := by
    cases st.rr.currentCell with
    | none => exact Keeps.pure _
    | some cell => exact storeCell_keeps closed.cells _ cell
  have walked : Keeps (OnSheet sheetName I) (RedisRow.ForEachCell codec keys
      (moveCell codec keys (keys.makeRowNum st.rr.row.num) (toString index)) true fuel) :=
    Triple.bind (RedisRow.eachStoredColumn_skip_keeps closed.cells Indexed.closed
      (fun _ _ _ _ _ _ inv stored decoded => (covered _ inv).indexed stored decoded)
      (moveCell_keeps closed.cells _ _) fuel 0) fun _ => Keeps.pure _
  refine Triple.bind (recordSheetName_keeps _) fun _ => Triple.bind flushed fun _ =>
    Triple.bind (Keeps.read fun _ => rfl) fun _ => ?_
  split
  · exact Keeps.throw _
  · refine Triple.bind (Keeps.hdel closed _ _) fun _ => Triple.bind walked fun _ => ?_
    refine Triple.bind (Keeps.setRow fun _ => rfl) fun _ => ?_
    refine Triple.getRow_bind fun st' inv' => ?_
    rw [inv'.1]
    exact Keeps.hset_rows closed _ _ _

theorem RemoveRow_keeps (key : String) :
    Keeps (OnSheet sheetName I : Session Byte DV RT → Prop) (RemoveRow keys key) := by
  unfold RemoveRow
  split
  · next _ rowNum _ =>
    have deleted : ∀ cells : List String,
        Keeps (OnSheet sheetName I : Session Byte DV RT → Prop) (cells.forM fun cell => HDEL cell rowNum) := by
      intro cells
      induction cells with
      | nil => exact Keeps.pure _
      | cons cell cells more => exact Triple.bind (Keeps.hdel closed _ _) fun _ => more
    refine Triple.bind (Triple.tryCatch (Keeps.read fun _ => rfl) fun _ => Keeps.pure _) fun cells => ?_
    exact Triple.bind (deleted cells) fun _ => Keeps.hdel closed _ _
  · exact Keeps.throw _

theorem RowOp.run_keeps (covered : ∀ server, I server → KeyspaceInvariant codec keys sheetName server)
    (op : RowOp DV RT) : Keeps (OnSheet sheetName I) (op.run codec keys) := by
  cases op with
  | addCell => exact Triple.bind (RedisRow.AddCell_keeps closed.cells) fun _ => Keeps.pure _
  | getCell colIdx => exact Triple.bind (RedisRow.GetCell_keeps closed.cells colIdx) fun _ => Keeps.pure _
  | pushCell c => exact RedisRow.PushCell_keeps closed.cells c
  | edit f => exact RedisRow.editCurrentCell_keeps f
  | forEachCell visit skipEmptyCells fuel =>
    exact RedisRow.ForEachCell_keeps closed.cells skipEmptyCells (Visit.run_keeps visit) fuel
  | writeRow => exact WriteRow_keeps closed
  | moveRow index fuel => exact MoveRow_keeps closed covered index fuel
  | removeRow key => exact RemoveRow_keeps closed key
  | readRow key sheet => exact Triple.bind (ReadRow_keeps key sheet) fun _ => Keeps.pure _

theorem StoreStep.preserves (covered : ∀ server, I server → KeyspaceInvariant codec keys sheetName server)
    {server server' : Server Byte} (step : StoreStep codec keys sheetName server server') (inv : I server) : I server' := by
  obtain ⟨session, op, rfl, ofSheet, rfl⟩ := step
  exact ((op.run_keeps closed covered).finalState session ⟨ofSheet, inv⟩).2

theorem StoreStep.invariant {server : Server Byte} (initial : I {})
    (reach : Relation.ReflTransGen (StoreStep codec keys sheetName) {} server) : I server := by
  have both : I server ∧ KeyspaceInvariant codec keys sheetName server := by
    induction reach with
    | refl => exact ⟨initial, KeyspaceInvariant.empty⟩
    | tail _ step inv => exact StoreStep.preserves (closed.and KeyspaceInvariant.closed) (fun _ inv => inv.2) step inv
  exact both.1

omit closed in
theorem KeyspaceInvariant.of_reach {server : Server Byte}
    (reach : Relation.ReflTransGen (StoreStep codec keys sheetName) {} server) :
    KeyspaceInvariant codec keys sheetName server :=
  StoreStep.invariant KeyspaceInvariant.closed KeyspaceInvariant.empty reach

end Store

end Operations

/-- In every store state reachable from an empty server by operations on rows of the sheet, in
any order and with any command failing, each cell record under a row of the sheet decodes to a
cell of its column, and the column's key is in the sheet's cell index with the column as score. -/
theorem keyspace_invariant {server : Server Byte}
    (reach : Relation.ReflTransGen (StoreStep codec keys sheetName) {} server) :
    KeyspaceInvariant codec keys sheetName server :=
  KeyspaceInvariant.of_reach reach

theorem keyspace_invariant_after_moveRow :
    let session : Session (Token Unit Unit) Unit Unit :=
      { server := {}, rr := { (makeRedisRow { Name := "S" } : RedisRow Unit Unit) with currentCell := some { Value := "x" } } }
    let moving : Session (Token Unit Unit) Unit Unit :=
      { server := (finalState (RowOp.writeRow.run tokenCodec tallyKeyspace session)).server,
        rr := { (makeRedisRow { Name := "S" } : RedisRow Unit Unit) with maxCol := 0 } }
    let server := (finalState ((RowOp.moveRow 5 2).run tokenCodec tallyKeyspace moving)).server
    (server.hashes (tallyKeyspace.makeCellKeyPrefix "S" 0) "5").isSome ∧
      KeyspaceInvariant tokenCodec tallyKeyspace "S" server := by
  intro session moving server
  refine ⟨?_, keyspace_invariant tokenCodec tallyKeyspace "S"
    (.tail (.single ⟨session, .writeRow, rfl, rfl, rfl⟩) ⟨moving, .moveRow 5 2, rfl, rfl, rfl⟩)⟩
  simp only [server, moving, RowOp.run, MoveRow, RedisRow.ForEachCell, RedisRow.eachStoredColumn]
  decide

end Keyspace

section Closing

variable {Byte DV RT : Type} {codec : CellCodec Byte DV RT} {keys : Keyspace}

/-- When `Close` returns, the client is closed, and no cell record, no rows hash entry and no cell
index of the recorded sheet remains, as long as the sheet's cell index covered its records. -/
theorem Close_purges {st st' : Session Byte DV RT} (inv : KeyspaceInvariant codec keys st.sheetName st.server)
    (closed : Close keys st = .ok () st') :
    st'.clientClosed = true ∧ (∀ col rowNum, st'.server.hashes (keys.makeCellKeyPrefix st.sheetName col) rowNum = none) ∧
      (∀ field, st'.server.hashes (keys.makeSheetRowsStore st.sheetName) field = none) ∧
      st'.server.zsets (keys.makeSheetCellsStore st.sheetName) = [] := by
  let rows := keys.makeSheetRowsStore st.sheetName
  let index := keys.makeSheetCellsStore st.sheetName
  let cellsGone (server : Server Byte) : Prop :=
    ∀ col rowNum, server.hashes (keys.makeCellKeyPrefix st.sheetName col) rowNum = none
  let rowsGone (server : Server Byte) : Prop := ∀ field, server.hashes rows field = none
  have stillGone : ∀ server ks, cellsGone server → cellsGone (server.del ks) := fun server ks gone col rowNum => by
    rw [Server.del_hashes, gone, ite_self]
  have listed : Triple (· = st) (ZRANGE index)
      (fun cells s => s.server = st.server ∧
        ∀ col, (keys.makeCellKeyPrefix st.sheetName col, col) ∈ st.server.zsets index → keys.makeCellKeyPrefix st.sheetName col ∈ cells)
      (fun _ => True) :=
    Triple.command (fun _ same => ⟨by rw [same], fun _ indexed => by
      rw [same]; exact List.mem_map.mpr ⟨_, List.mem_mergeSort.mpr indexed, rfl⟩⟩) fun _ _ => trivial
  have cleared (cells : List String) : Triple (fun s : Session Byte DV RT => s.server = st.server ∧
        ∀ col, (keys.makeCellKeyPrefix st.sheetName col, col) ∈ st.server.zsets index → keys.makeCellKeyPrefix st.sheetName col ∈ cells)
      (DEL cells) (fun _ s => cellsGone s.server) (fun _ => True) := by
    refine Triple.DEL (fun s ⟨same, covered⟩ col rowNum => ?_) fun _ _ => trivial
    show (s.server.del cells).hashes _ _ = none
    rw [Server.del_hashes, same]
    split
    · rfl
    · next unlisted =>
      cases stored : st.server.hashes (keys.makeCellKeyPrefix st.sheetName col) rowNum with
      | none => rfl
      | some bytes => exact absurd (covered col (inv col rowNum bytes stored).2) unlisted
  have rowsCleared : Triple (fun s : Session Byte DV RT => cellsGone s.server) (DEL [rows])
      (fun _ s => cellsGone s.server ∧ rowsGone s.server) (fun _ => True) :=
    Triple.DEL (fun s gone => ⟨stillGone _ _ gone, fun _ => by simp [rows]⟩) fun _ _ => trivial
  have indexCleared : Triple (fun s : Session Byte DV RT => cellsGone s.server ∧ rowsGone s.server) (DEL [index])
      (fun _ s => cellsGone s.server ∧ rowsGone s.server ∧ s.server.zsets index = []) (fun _ => True) :=
    Triple.DEL (fun s gone => ⟨stillGone _ _ gone.1, fun field => by rw [Server.del_hashes, gone.2 field, ite_self],
      by simp⟩) fun _ _ => trivial
  have run : Triple (· = st) (Close keys)
      (fun _ s => s.clientClosed = true ∧ cellsGone s.server ∧ rowsGone s.server ∧ s.server.zsets index = [])
      (fun _ => True) := by
    refine Triple.get_bind fun _ same => ?_
    rw [same]
    exact Triple.bind listed fun cells => Triple.bind (cleared cells) fun _ => Triple.bind rowsCleared fun _ =>
      Triple.bind indexCleared fun _ => Triple.modify _ fun _ gone => ⟨rfl, gone⟩
  have purged := run st rfl
  rw [closed] at purged
  exact purged

/-- On every server reachable from an empty one by operations on rows of the recorded sheet, a
`Close` that returns has closed the client and left nothing of that sheet. -/
theorem Close_purges_of_reach {st st' : Session Byte DV RT}
    (reach : Relation.ReflTransGen (StoreStep codec keys st.sheetName) {} st.server) (closed : Close keys st = .ok () st') :
    st'.clientClosed = true ∧ (∀ col rowNum, st'.server.hashes (keys.makeCellKeyPrefix st.sheetName col) rowNum = none) ∧
      (∀ field, st'.server.hashes (keys.makeSheetRowsStore st.sheetName) field = none) ∧
      st'.server.zsets (keys.makeSheetCellsStore st.sheetName) = [] :=
  Close_purges (KeyspaceInvariant.of_reach reach) closed

unseal List.mergeSort in
theorem Close_purges_of_reach_after_moveRow :
    let session : Session (Token Unit Unit) Unit Unit :=
      { server := {}, rr := { (makeRedisRow { Name := "S" } : RedisRow Unit Unit) with
          currentCell := some { Value := "x" } } }
    let moving : Session (Token Unit Unit) Unit Unit :=
      { server := (finalState (RowOp.writeRow.run tokenCodec tallyKeyspace session)).server,
        rr := { (makeRedisRow { Name := "S" } : RedisRow Unit Unit) with maxCol := 0 } }
    let moved := (finalState ((RowOp.moveRow 5 2).run tokenCodec tallyKeyspace moving)).server
    let st : Session (Token Unit Unit) Unit Unit := { moving with server := moved, sheetName := "S" }
    let st' := finalState (Close tallyKeyspace st)
    st'.clientClosed = true ∧
      (∀ col rowNum, st'.server.hashes (tallyKeyspace.makeCellKeyPrefix "S" col) rowNum = none) ∧
      (∀ field, st'.server.hashes (tallyKeyspace.makeSheetRowsStore "S") field = none) ∧
      st'.server.zsets (tallyKeyspace.makeSheetCellsStore "S") = [] := by
  intro session moving moved st st'
  have closed : returned (Close tallyKeyspace st) = some () := by
    simp only [st, moved, moving, RowOp.run, MoveRow, RedisRow.ForEachCell, RedisRow.eachStoredColumn]
    decide
  have reach : Relation.ReflTransGen (StoreStep tokenCodec tallyKeyspace "S") {} moved :=
    .tail (.single ⟨session, .writeRow, rfl, rfl, rfl⟩) ⟨moving, .moveRow 5 2, rfl, rfl, rfl⟩
  have purged := @Close_purges_of_reach _ _ _ tokenCodec tallyKeyspace st st' (by simpa only [st] using reach)
    (eq_ok_of_returned closed)
  simpa only [st] using purged

unseal List.mergeSort in
/-- A row made by `MakeRow`, or by `MakeRowWithLen`, gets a cell that is edited and then
flushed by the next `AddCell`. After `MakeRow`, `Close` with its first command failing returns the
error without closing the client. After `MakeRowWithLen` the store has recorded no sheet name, so
`Close` lists the cells of the empty name, finds none, and stops at the server's rejection of a
`DEL` without a key: the client stays open and the cell record of `S` remains. -/
theorem Close_skips_client_and_cells :
    let sheet : Sheet := { Name := "S", MaxCol := 1 }
    let use (make : RowM (Token Unit Unit) Unit Unit (RedisRow Unit Unit)) : RowM (Token Unit Unit) Unit Unit Unit := do
      let rr ← make
      setRow fun _ => rr
      discard (RedisRow.AddCell tokenCodec tallyKeyspace)
      RedisRow.editCurrentCell fun c => { c with Value := "x" }
      discard (RedisRow.AddCell tokenCodec tallyKeyspace)
    let start : Session (Token Unit Unit) Unit Unit := { server := {}, rr := makeRedisRow sheet }
    let made := finalState (use (MakeRow sheet) start)
    let failed := Close tallyKeyspace { made with faults := fun tick => tick == made.clock }
    let closed := Close tallyKeyspace (finalState (use (MakeRowWithLen sheet 0) start))
    returned failed = none ∧ (finalState failed).clientClosed = false ∧
      returned closed = none ∧ (finalState closed).clientClosed = false ∧
      ((finalState closed).server.hashes (tallyKeyspace.makeCellKeyPrefix "S" 0) "0").isSome := by
  decide

end Closing

end Xlsx
