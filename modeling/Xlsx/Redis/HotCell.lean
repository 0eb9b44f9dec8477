import Xlsx.Redis.Records

namespace Xlsx

/-! The hot-cell protocol of `RedisRow`: the row object holds one cell, its current cell, and
every other cell lives in its column's record. Seen from the program, a row is a map from
columns to cell contents with a cursor on one column; `AddCell`, `GetCell`, `PushCell` and the
setters of the current cell act on that map, and `WriteRow` leaves the map in the store. With
every command answered, the protocol refines that map: no update is lost. `ForEachCell` is not
among these operations: it reads each column's record even where the current cell holds newer
content, and fails on a column without one. Where neither happens, it visits every column as the
map says. -/

section View

variable {Byte DV RT : Type} (codec : CellCodec Byte DV RT) (keys : Keyspace)

def Cell.content (c : Cell DV RT) : Cell DV RT := { c with modified := false, Row := none }

/-- The records of the row's cells, by column. -/
def rowRecords (server : Server Byte) (row : Row) (k : Int) : Option (List Byte) :=
  server.hashes (keys.makeCellKeyPrefix row.Sheet.Name k) (keys.makeRowNum row.num)

/-- The cell a column's record holds: the cell it decodes to, and an empty cell of the column
when there is no record. -/
def storedCell (records : Int → Option (List Byte)) (k : Int) : Cell DV RT :=
  match (records k).bind (decodeCell codec) with
  | some (some c, _) => c
  | _ => { num := k }

/-- The row as the program sees it: the current cell's content at its column, and the stored
cell at every other column. -/
def rowView (rr : RedisRow DV RT) (records : Int → Option (List Byte)) : Int → Cell DV RT :=
  match rr.currentCell with
  | some c => Function.update (storedCell codec records) c.num c.content
  | none => storedCell codec records

/-- The row of the program: the content of each column, the column of the current cell, and
the max column. -/
@[ext]
structure HotRow (DV RT : Type) where
  view : Int → Cell DV RT
  current : Option Int
  maxCol : Int

/-- What the program sees of the session's row. -/
def abstractRow (st : Session Byte DV RT) : HotRow DV RT :=
  ⟨rowView codec st.rr (rowRecords keys st.server st.rr.row), st.rr.currentCell.map (·.num), st.rr.maxCol⟩

/-- The protocol's invariant on a row object and its records: every record decodes to a cell of
its column, no record lies beyond `maxCol`, and the current cell lies within `maxCol` and,
unless modified, is what its record holds. -/
structure HotCell (rr : RedisRow DV RT) (records : Int → Option (List Byte)) : Prop where
  decodes : ∀ k bytes, records k = some bytes → ∃ c rest, decodeCell codec bytes = some (some c, rest) ∧ c.num = k
  beyond : ∀ k, rr.maxCol < k → records k = none
  within : ∀ c, rr.currentCell = some c → c.num ≤ rr.maxCol
  clean : ∀ c, rr.currentCell = some c → c.modified = false → c.content = storedCell codec records c.num

/-- Every command is answered. -/
def Reliable (st : Session Byte DV RT) : Prop := ∀ tick, st.faults tick = false

/-- A setter reads only the content of the cell: not its row link, not its modified flag. -/
def ReadsContent (f : Cell DV RT → Cell DV RT) : Prop := ∀ c, (f c).content = (f c.content).content

/-- The operations that work through the current cell, with setters that read only its content;
and `WriteRow`. -/
def RowOp.IsCellOp : RowOp DV RT → Prop
  | .addCell | .getCell _ | .pushCell _ | .writeRow => True
  | .edit f => ReadsContent f
  | _ => False

/-- What each operation means to the program: `AddCell` and `GetCell` move the cursor, raising
the max column to it; `PushCell` puts a cell's content at its column; an edit puts the setter's
result at the cursor's column. `WriteRow` changes nothing the program sees, and the operations
that are not cell operations are left as they are. -/
def HotRow.step (A : HotRow DV RT) : RowOp DV RT → HotRow DV RT
  | .addCell => { A with current := some (A.maxCol + 1), maxCol := A.maxCol + 1 }
  | .getCell k => { A with current := some k, maxCol := max A.maxCol k }
  | .pushCell c => ⟨Function.update A.view c.num c.content, some c.num, max A.maxCol c.num⟩
  | .edit f =>
    match A.current with
    | some k => { A with view := Function.update A.view k { (f (A.view k)).content with num := k } }
    | none => A
  | _ => A

/-- The visitors of `ForEachCell` that return: they keep the cell, or edit it through setters that
read only its content. -/
def Visit.IsEdit : Visit DV RT → Prop
  | .keep => True
  | .edit f => ReadsContent f
  | .stop _ => False

def Visit.abstract : Visit DV RT → HotRow DV RT → HotRow DV RT
  | .keep, A => A
  | .edit f, A => A.step (.edit f)
  | .stop _, A => A

def columnsFrom (start : Int) : Nat → List Int
  | 0 => []
  | n + 1 => start :: columnsFrom (start + 1) n

/-- The columns `ForEachCell` visits when it does not skip empty cells: those up to the row's max
column, then the rest of the sheet's. -/
def visitedColumns (rr : RedisRow DV RT) : List Int :=
  columnsFrom 0 (rr.maxCol + 1).toNat ++ columnsFrom (rr.maxCol + 1) (rr.row.Sheet.MaxCol - (rr.maxCol + 1)).toNat

/-- `ForEachCell` as the program means it: at each column in turn, the cursor moves there and the
visitor runs. -/
def HotRow.visitAll (A : HotRow DV RT) (visit : Visit DV RT) (columns : List Int) : HotRow DV RT :=
  columns.foldl (fun B ci => visit.abstract (B.step (.getCell ci))) A

/-- `ForEachCell` skipping empty cells, as the program means it: at each column in turn whose
content counts as modified, the cursor moves there and the visitor runs; the others are passed
over. -/
def HotRow.visitModified (A : HotRow DV RT) (visit : Visit DV RT) (columns : List Int) : HotRow DV RT :=
  columns.foldl (fun B ci => if codec.Modified (B.view ci) then visit.abstract (B.step (.getCell ci)) else B) A

def RecordsGrow (records records' : Int → Option (List Byte)) : Prop :=
  ∀ k, records k ≠ none → records' k ≠ none

/-- `s'` goes on from `s`: the same row and fault oracle, the invariant, every record of the row
still there, and `A` as what the program sees. -/
structure Refines (s : Session Byte DV RT) (A : HotRow DV RT) (s' : Session Byte DV RT) : Prop where
  row : s'.rr.row = s.rr.row
  faults : s'.faults = s.faults
  inv : HotCell codec s'.rr (rowRecords keys s'.server s'.rr.row)
  grows : RecordsGrow (rowRecords keys s.server s.rr.row) (rowRecords keys s'.server s'.rr.row)
  view : abstractRow codec keys s' = A

end View

section Records

variable {Byte DV RT : Type} {codec : CellCodec Byte DV RT} {keys : Keyspace}
variable {rr : RedisRow DV RT} {records : Int → Option (List Byte)}

theorem rowRecords_store (server : Server Byte) (row : Row) (c : Cell DV RT) (score : Int) (member : String) :
    rowRecords keys ((server.zadd (keys.makeSheetCellsStore row.Sheet.Name) score member).hset
        (keys.makeCellKeyPrefix row.Sheet.Name c.num) (keys.makeRowNum row.num) (some (encodeCell codec (some c)))) row =
      Function.update (rowRecords keys server row) c.num (some (encodeCell codec (some c))) := by
  funext k
  by_cases same : k = c.num
  · subst same
    simp only [rowRecords, Server.hset_hashes_self, Function.update_same]
  · have other : keys.makeCellKeyPrefix row.Sheet.Name k ≠ keys.makeCellKeyPrefix row.Sheet.Name c.num :=
      fun equal => same (keys.makeCellKeyPrefix_injective _ equal)
    simp only [rowRecords, Server.hset_hashes_ne _ _ (.inl other), Server.zadd_hashes, Function.update_noteq same]

theorem rowRecords_rows (server : Server Byte) (row : Row) (field : String) (value : Option (List Byte)) :
    rowRecords keys (server.hset (keys.makeSheetRowsStore row.Sheet.Name) field value) row = rowRecords keys server row := by
  funext k
  simp only [rowRecords, Server.hset_hashes_ne _ _ (.inl (keys.makeSheetRowsStore_ne _ k).symm)]

theorem decodeCell_encodeCell_some (c : Cell DV RT) :
    decodeCell codec (encodeCell codec (some c)) = some (some c.content, []) := by
  have decoded := decodeCell_encodeCell codec (some c) []
  rwa [List.append_nil] at decoded

theorem storedCell_encode (c : Cell DV RT) :
    storedCell codec (Function.update records c.num (some (encodeCell codec (some c)))) =
      Function.update (storedCell codec records) c.num c.content := by
  funext k
  by_cases same : k = c.num
  · subst same
    simp only [storedCell, Function.update_same, Option.some_bind, decodeCell_encodeCell_some]
  · simp only [storedCell, Function.update_noteq same]

theorem rowView_some {c : Cell DV RT} (current : rr.currentCell = some c) :
    rowView codec rr records = Function.update (storedCell codec records) c.num c.content := by
  unfold rowView
  rw [current]

theorem rowView_none (current : rr.currentCell = none) : rowView codec rr records = storedCell codec records := by
  unfold rowView
  rw [current]

theorem storedCell_absent {k : Int} (absent : records k = none) : storedCell codec records k = { num := k } := by
  rw [storedCell, absent, Option.none_bind]

theorem storedCell_decoded {k : Int} {bytes rest : List Byte} {c : Cell DV RT} (stored : records k = some bytes)
    (decoded : decodeCell codec bytes = some (some c, rest)) : storedCell codec records k = c := by
  rw [storedCell, stored, Option.some_bind, decoded]

theorem rowView_of_synced {k : Int}
    (synced : ∀ c, rr.currentCell = some c → c.num = k → c.content = storedCell codec records k) :
    rowView codec rr records k = storedCell codec records k := by
  cases current : rr.currentCell with
  | none => rw [rowView_none current]
  | some c =>
    by_cases here : c.num = k
    · rw [rowView_some current, ← here, Function.update_same, synced c current here, here]
    · rw [rowView_some current, Function.update_noteq (Ne.symm here)]

theorem rowView_other {k : Int} (other : ∀ c, rr.currentCell = some c → c.num ≠ k) :
    rowView codec rr records k = storedCell codec records k :=
  rowView_of_synced fun c current same => absurd same (other c current)

theorem rowView_of_stored {records' : Int → Option (List Byte)}
    (stored : storedCell codec records' = rowView codec rr records) : rowView codec rr records' = rowView codec rr records := by
  cases current : rr.currentCell with
  | none => rw [rowView_none current, stored]
  | some c => rw [rowView_some current, stored, rowView_some current, Function.update_idem]

theorem HotCell.rowView_beyond (inv : HotCell codec rr records) {k : Int} (above : rr.maxCol < k) :
    rowView codec rr records k = { num := k } := by
  rw [rowView_other fun c current same => by have := inv.within c current; omega,
    storedCell_absent (inv.beyond k above)]

theorem Cell.content_of_fresh {c : Cell DV RT} (fresh : c.modified = false ∧ c.Row = none) : c.content = c := by
  cases c
  cases fresh.1
  cases fresh.2
  rfl

theorem HotCell.of_empty (vacant : rr.currentCell = none) (empty : ∀ k, records k = none) : HotCell codec rr records where
  decodes k _ stored := by
    rw [empty k] at stored
    cases stored
  beyond k _ := empty k
  within _ current := by cases vacant.symm.trans current
  clean _ current := by cases vacant.symm.trans current

theorem HotCell.store_current {c : Cell DV RT} (inv : HotCell codec rr records) (current : rr.currentCell = some c) :
    HotCell codec rr (Function.update records c.num (some (encodeCell codec (some c)))) := by
  have bound := inv.within c current
  refine ⟨fun k bytes stored => ?_, fun k above => ?_, inv.within, fun c' cur _ => ?_⟩
  · by_cases same : k = c.num
    · rw [same, Function.update_same, Option.some.injEq] at stored
      rw [← stored, decodeCell_encodeCell_some]
      exact ⟨_, _, rfl, same.symm⟩
    · rw [Function.update_noteq same] at stored
      exact inv.decodes k bytes stored
  · rw [Function.update_noteq (by omega)]
    exact inv.beyond k above
  · rw [current] at cur
    cases cur
    rw [storedCell_encode, Function.update_same]

theorem HotCell.set_current {x : Cell DV RT} (inv : HotCell codec rr records)
    (fresh : x.modified = false → x.content = storedCell codec records x.num) :
    HotCell codec { rr with maxCol := max rr.maxCol x.num, currentCell := some x } records :=
  ⟨inv.decodes, fun k above => inv.beyond k (lt_of_le_of_lt (le_max_left _ _) above),
    fun _ cur => by cases cur; exact le_max_right _ _, fun _ cur => by cases cur; exact fresh⟩

end Records

section Abstract

variable {Byte DV RT : Type} {codec : CellCodec Byte DV RT} {keys : Keyspace}

@[simp] theorem abstractRow_view (st : Session Byte DV RT) :
    (abstractRow codec keys st).view = rowView codec st.rr (rowRecords keys st.server st.rr.row) := rfl

@[simp] theorem abstractRow_current (st : Session Byte DV RT) :
    (abstractRow codec keys st).current = st.rr.currentCell.map (·.num) := rfl

theorem HotRow.step_edit_some {A : HotRow DV RT} {k : Int} (current : A.current = some k) (f : Cell DV RT → Cell DV RT) :
    A.step (.edit f) = { A with view := Function.update A.view k { (f (A.view k)).content with num := k } } := by
  simp only [HotRow.step, current]

theorem HotRow.step_edit_none {A : HotRow DV RT} (current : A.current = none) (f : Cell DV RT → Cell DV RT) :
    A.step (.edit f) = A := by
  simp only [HotRow.step, current]

theorem HotRow.update_seen (A : HotRow DV RT) {x : Cell DV RT} {k : Int} (num : x.num = k)
    (seen : x.content = A.view k) :
    (⟨Function.update A.view x.num x.content, some x.num, max A.maxCol x.num⟩ : HotRow DV RT) = A.step (.getCell k) := by
  subst num
  rw [seen, Function.update_eq_self]
  rfl

theorem RecordsGrow.update {records : Int → Option (List Byte)} (j : Int) (bytes : List Byte) :
    RecordsGrow records (Function.update records j (some bytes)) := fun k present => by
  by_cases same : k = j
  · rw [same, Function.update_same]
    exact Option.some_ne_none _
  · rwa [Function.update_noteq same]

theorem Refines.refl {s : Session Byte DV RT} (inv : HotCell codec s.rr (rowRecords keys s.server s.rr.row)) :
    Refines codec keys s (abstractRow codec keys s) s :=
  ⟨rfl, rfl, inv, fun _ present => present, rfl⟩

theorem Refines.congr {s s₁ s' : Session Byte DV RT} {A B : HotRow DV RT} (moved : Refines codec keys s₁ A s')
    (rr : s₁.rr = s.rr) (server : s₁.server = s.server) (faults : s₁.faults = s.faults) (same : A = B) :
    Refines codec keys s B s' := by
  refine ⟨moved.row.trans (congrArg RedisRow.row rr), moved.faults.trans faults, moved.inv, ?_, moved.view.trans same⟩
  rw [← rr, ← server]
  exact moved.grows

theorem Refines.trans {s s₁ s' : Session Byte DV RT} {A B : HotRow DV RT} (later : Refines codec keys s₁ B s')
    (earlier : Refines codec keys s A s₁) : Refines codec keys s B s' :=
  ⟨later.row.trans earlier.row, later.faults.trans earlier.faults, later.inv,
    fun k present => later.grows k (earlier.grows k present), later.view⟩

theorem Refines.reliable {s s' : Session Byte DV RT} {A : HotRow DV RT} (moved : Refines codec keys s A s')
    (reliable : Reliable s) : Reliable s' := fun tick => by
  rw [moved.faults]
  exact reliable tick

theorem HotRow.visitAll_append (A : HotRow DV RT) (visit : Visit DV RT) (first rest : List Int) :
    A.visitAll visit (first ++ rest) = (A.visitAll visit first).visitAll visit rest :=
  List.foldl_append ..

theorem HotRow.visitModified_columnsFrom_succ (A : HotRow DV RT) (visit : Visit DV RT) (ci : Int) (n : Nat) :
    A.visitModified codec visit (columnsFrom ci (n + 1)) =
      (if codec.Modified (A.view ci) then visit.abstract (A.step (.getCell ci)) else A).visitModified codec visit
        (columnsFrom (ci + 1) n) :=
  rfl

theorem Visit.abstract_maxCol (visit : Visit DV RT) (A : HotRow DV RT) : (visit.abstract A).maxCol = A.maxCol := by
  cases visit with
  | edit f => cases current : A.current <;> simp only [Visit.abstract, HotRow.step, current]
  | keep | stop => rfl

theorem Visit.abstract_current (visit : Visit DV RT) (A : HotRow DV RT) : (visit.abstract A).current = A.current := by
  cases visit with
  | edit f => cases current : A.current <;> simp only [Visit.abstract, HotRow.step, current]
  | keep | stop => rfl

end Abstract

section Steps

variable {Byte DV RT : Type} {codec : CellCodec Byte DV RT} {keys : Keyspace} {s : Session Byte DV RT}

theorem storeCell_records (reliable : Reliable s) (row : Row) (c : Cell DV RT) :
    Triple (· = s) (storeCell codec keys row.Sheet.Name (keys.makeRowNum row.num) c)
      (fun _ s' => s'.rr = s.rr ∧ s'.faults = s.faults ∧
        rowRecords keys s'.server row = Function.update (rowRecords keys s.server row) c.num (some (encodeCell codec (some c))))
      (fun _ => False) := by
  intro _ same
  rw [same]
  simp only [storeCell_run, reliable s.clock, reliable (s.clock + 1), Bool.false_eq_true, if_false]
  exact ⟨trivial, trivial, rowRecords_store ..⟩

theorem storeCell_saves_view (inv : HotCell codec s.rr (rowRecords keys s.server s.rr.row)) (reliable : Reliable s)
    {c : Cell DV RT} (current : s.rr.currentCell = some c) :
    Triple (· = s) (storeCell codec keys s.rr.row.Sheet.Name (keys.makeRowNum s.rr.row.num) c)
      (fun _ s' => s'.rr = s.rr ∧ s'.faults = s.faults ∧ HotCell codec s.rr (rowRecords keys s'.server s.rr.row) ∧
        storedCell codec (rowRecords keys s'.server s.rr.row) = rowView codec s.rr (rowRecords keys s.server s.rr.row) ∧
        RecordsGrow (rowRecords keys s.server s.rr.row) (rowRecords keys s'.server s.rr.row))
      (fun _ => False) :=
  Triple.mono (storeCell_records reliable s.rr.row c) (fun _ same => same)
    (fun _ _ ⟨rr, faults, records⟩ => ⟨rr, faults, by rw [records]; exact inv.store_current current,
      by rw [records, storedCell_encode, rowView_some current], by rw [records]; exact RecordsGrow.update _ _⟩)
    fun _ e => e

theorem RedisRow.flushCurrentCell_view (inv : HotCell codec s.rr (rowRecords keys s.server s.rr.row))
    (reliable : Reliable s) :
    Triple (· = s) (RedisRow.flushCurrentCell codec keys)
      (fun _ s' => s'.rr = s.rr ∧ s'.faults = s.faults ∧ HotCell codec s.rr (rowRecords keys s'.server s.rr.row) ∧
        storedCell codec (rowRecords keys s'.server s.rr.row) = rowView codec s.rr (rowRecords keys s.server s.rr.row) ∧
        RecordsGrow (rowRecords keys s.server s.rr.row) (rowRecords keys s'.server s.rr.row))
      (fun _ => False) := by
  refine Triple.getRow_bind fun _ same => ?_
  rw [same]
  cases current : s.rr.currentCell with
  | none =>
    exact Triple.pure _ fun _ same => by subst same; exact ⟨rfl, rfl, inv, (rowView_none current).symm, fun _ h => h⟩
  | some c =>
    by_cases flushed : Cell.Modified codec (some c) = true
    · rw [if_pos flushed]
      refine Triple.tryCatch (Triple.getRow_bind fun _ same => ?_) fun _ _ impossible => impossible
      rw [same]
      exact storeCell_saves_view inv reliable current
    · rw [if_neg flushed]
      have unmarked : c.modified = false := Bool.eq_false_iff.mpr fun marked => flushed (codec.Modified_of_marked c marked)
      refine Triple.pure _ fun _ same => ?_
      subst same
      refine ⟨rfl, rfl, inv, ?_, fun _ h => h⟩
      rw [rowView_some current, inv.clean c current unmarked, Function.update_eq_self]

theorem max_of_ite (a b : Int) : (if b > a then b else a) = max a b := by
  rw [max_def]
  split_ifs <;> omega

theorem Refines.then {α : Type} {x : RowM Byte DV RT α} {s₁ : Session Byte DV RT} {A B : HotRow DV RT}
    (moved : Refines codec keys s A s₁) (rest : Triple (· = s₁) x (fun _ => Refines codec keys s₁ B) (fun _ => False)) :
    Triple (· = s₁) x (fun _ => Refines codec keys s B) (fun _ => False) :=
  Triple.mono rest (fun _ same => same) (fun _ _ later => later.trans moved) fun _ e => e

theorem RedisRow.readCell_stored (inv : HotCell codec s.rr (rowRecords keys s.server s.rr.row))
    (reliable : Reliable s) (k : Int) :
    Triple (· = s) (RedisRow.readCell codec keys k)
      (fun c s' => s' = { s with clock := s.clock + 1 } ∧
        ∃ x, c = some x ∧ x.num = k ∧ x.content = x ∧ x = storedCell codec (rowRecords keys s.server s.rr.row) k)
      (fun s' => s' = { s with clock := s.clock + 1 } ∧ rowRecords keys s.server s.rr.row k = none) := by
  refine Triple.getRow_bind fun _ same => ?_
  rw [same]
  refine Triple.bind (Q := fun b st => b = rowRecords keys s.server s.rr.row k ∧ st = { s with clock := s.clock + 1 })
    (Triple.command_answered (fun _ same => by rw [same]; exact reliable _) fun _ same => by rw [same]; exact ⟨rfl, rfl⟩) ?_
  rintro _ _ ⟨rfl, rfl⟩
  cases stored : rowRecords keys s.server s.rr.row k with
  | none =>
    rw [Option.getD_none, readCell_rejected codec (decodeCell_nil codec)]
    exact ⟨rfl, rfl⟩
  | some bytes =>
    obtain ⟨c, rest, decoded, num⟩ := inv.decodes k bytes stored
    rw [Option.getD_some, readCell_decoded codec decoded]
    exact ⟨rfl, c, rfl, num, Cell.content_of_fresh (decodeCell_fresh codec decoded), (storedCell_decoded stored decoded).symm⟩

theorem RedisRow.setCurrentCell_refines (inv : HotCell codec s.rr (rowRecords keys s.server s.rr.row))
    (reliable : Reliable s) (x : Cell DV RT)
    (fresh : x.modified = false → x.content = (abstractRow codec keys s).view x.num) :
    Triple (· = s) (RedisRow.setCurrentCell codec keys (some x))
      (fun _ => Refines codec keys s
        ⟨Function.update (abstractRow codec keys s).view x.num x.content, some x.num, max s.rr.maxCol x.num⟩)
      (fun _ => False) := by
  refine Triple.bind (RedisRow.flushCurrentCell_view inv reliable) fun _ =>
    Triple.setRow _ fun s' ⟨rr, faults, inv', stored, grows⟩ => ?_
  have rr' : ({ s'.rr with maxCol := if x.num > s'.rr.maxCol then x.num else s'.rr.maxCol, currentCell := some x } :
      RedisRow DV RT) = { s.rr with maxCol := max s.rr.maxCol x.num, currentCell := some x } := by
    rw [rr, max_of_ite]
  refine ⟨show s'.rr.row = s.rr.row from congrArg _ rr, faults, ?_, ?_, HotRow.ext ?_ rfl (congrArg RedisRow.maxCol rr')⟩
  · rw [rr']
    exact inv'.set_current fun unmodified => by rw [stored]; exact fresh unmodified
  · show RecordsGrow _ (rowRecords keys s'.server s'.rr.row)
    rwa [rr]
  · rw [abstractRow_view, rr', rowView_some rfl]
    exact congrArg (Function.update · x.num x.content) stored

theorem RedisRow.AddCell_refines (inv : HotCell codec s.rr (rowRecords keys s.server s.rr.row)) (reliable : Reliable s) :
    Triple (· = s) (RedisRow.AddCell codec keys)
      (fun _ => Refines codec keys s ((abstractRow codec keys s).step .addCell)) (fun _ => False) := by
  refine Triple.getRow_bind fun _ same => ?_
  rw [same]
  have empty : (newCell s.rr.row (s.rr.maxCol + 1) : Cell DV RT).content = (abstractRow codec keys s).view (s.rr.maxCol + 1) :=
    (inv.rowView_beyond (k := s.rr.maxCol + 1) (by omega)).symm
  refine Triple.bind (RedisRow.setCurrentCell_refines inv reliable _ fun _ => empty) fun _ =>
    Triple.pure _ fun _ moved => moved.congr rfl rfl rfl ?_
  exact (HotRow.update_seen _ rfl empty).trans
    (HotRow.ext rfl rfl (show max s.rr.maxCol (s.rr.maxCol + 1) = s.rr.maxCol + 1 by omega))

theorem RedisRow.PushCell_refines (inv : HotCell codec s.rr (rowRecords keys s.server s.rr.row)) (reliable : Reliable s)
    (c : Cell DV RT) :
    Triple (· = s) (RedisRow.PushCell codec keys c)
      (fun _ => Refines codec keys s ((abstractRow codec keys s).step (.pushCell c))) (fun _ => False) :=
  RedisRow.setCurrentCell_refines inv reliable _ fun modified => by cases modified

theorem RedisRow.readOrNewCell_refines (inv : HotCell codec s.rr (rowRecords keys s.server s.rr.row))
    (reliable : Reliable s) {k : Int}
    (other : ∀ c, s.rr.currentCell = some c → c.num ≠ k) :
    Triple (· = s) (RedisRow.readOrNewCell codec keys k)
      (fun c s' => (∃ x, c = some x ∧ x.content = (abstractRow codec keys s).view k) ∧
        Refines codec keys s ((abstractRow codec keys s).step (.getCell k)) s')
      (fun _ => False) := by
  have seen : (abstractRow codec keys s).view k = storedCell codec (rowRecords keys s.server s.rr.row) k :=
    rowView_other other
  refine Triple.bind (Triple.observing (RedisRow.readCell_stored inv reliable k)) fun result => ?_
  cases result with
  | ok cell =>
    refine Triple.of_eq_and fun ⟨x, found, num, fresh, stored⟩ => ?_
    subst found
    have held : x.content = (abstractRow codec keys s).view k := by rw [seen, ← stored, fresh]
    refine Triple.bind (RedisRow.setCurrentCell_refines (s := { s with clock := s.clock + 1 }) inv reliable x
      fun _ => by rw [num]; exact held) fun _ =>
      Triple.pure _ fun _ moved => ⟨⟨x, rfl, held⟩, moved.congr rfl rfl rfl (HotRow.update_seen _ num held)⟩
  | error _ =>
    refine Triple.of_eq_and fun absent => Triple.getRow_bind fun _ same => ?_
    rw [same]
    have held : ({ newCell s.rr.row k with modified := true } : Cell DV RT).content = (abstractRow codec keys s).view k := by
      rw [seen, storedCell_absent absent]
      rfl
    exact Triple.bind (RedisRow.PushCell_refines (s := { s with clock := s.clock + 1 }) inv reliable _) fun _ =>
      Triple.pure _ fun _ moved => ⟨⟨_, rfl, held⟩, moved.congr rfl rfl rfl (HotRow.update_seen _ rfl held)⟩

theorem RedisRow.GetCell_refines (inv : HotCell codec s.rr (rowRecords keys s.server s.rr.row))
    (reliable : Reliable s) (k : Int) :
    Triple (· = s) (RedisRow.GetCell codec keys k)
      (fun c s' => (∃ x, c = some x ∧ x.content = (abstractRow codec keys s).view k) ∧
        Refines codec keys s ((abstractRow codec keys s).step (.getCell k)) s')
      (fun _ => False) := by
  refine Triple.getRow_bind fun _ same => ?_
  rw [same]
  cases current : s.rr.currentCell with
  | none => exact RedisRow.readOrNewCell_refines inv reliable fun c found => by rw [current] at found; cases found
  | some c =>
    dsimp only
    by_cases here : c.num = k
    · rw [if_pos here]
      have held : c.content = (abstractRow codec keys s).view k := by
        rw [abstractRow_view, rowView_some current, ← here, Function.update_same]
      have cursor : (abstractRow codec keys s).current = some k := by
        rw [abstractRow_current, current, Option.map_some', here]
      refine Triple.pure _ fun _ same => ⟨⟨c, rfl, held⟩, ?_⟩
      rw [same]
      exact (Refines.refl inv).congr rfl rfl rfl (HotRow.ext rfl cursor (max_eq_left (here ▸ inv.within c current)).symm)
    · rw [if_neg here]
      exact RedisRow.readOrNewCell_refines inv reliable fun c' found => by
        rw [current] at found
        cases found
        exact here

theorem RedisRow.editCurrentCell_refines (inv : HotCell codec s.rr (rowRecords keys s.server s.rr.row))
    (f : Cell DV RT → Cell DV RT) (blind : ReadsContent f) :
    Triple (· = s) (RedisRow.editCurrentCell f)
      (fun _ => Refines codec keys s ((abstractRow codec keys s).step (.edit f))) (fun _ => False) := by
  refine Triple.getRow_bind fun _ same => ?_
  rw [same]
  cases current : s.rr.currentCell with
  | none =>
    refine Triple.pure _ fun _ same => ?_
    rw [same, HotRow.step_edit_none (by rw [abstractRow_current, current, Option.map_none'])]
    exact Refines.refl inv
  | some c =>
    refine Triple.setRow _ fun _ same => ?_
    rw [same]
    refine ⟨rfl, rfl, ⟨inv.decodes, inv.beyond, fun _ cur => by cases cur; exact inv.within c current,
      fun _ cur unmodified => by cases cur; cases unmodified⟩, fun _ present => present, ?_⟩
    have cursor : (abstractRow codec keys s).current = some c.num := by
      rw [abstractRow_current, current, Option.map_some']
    rw [HotRow.step_edit_some cursor]
    refine HotRow.ext ?_ (by rw [cursor]; rfl) rfl
    rw [abstractRow_view, abstractRow_view, rowView_some rfl, rowView_some current, Function.update_same,
      Function.update_idem, ← blind c]
    rfl

/-- `WriteRow` leaves in the store the row as the program sees it, and the program sees the row
as before. -/
theorem WriteRow_refines (inv : HotCell codec s.rr (rowRecords keys s.server s.rr.row)) (reliable : Reliable s) :
    Triple (· = s) (WriteRow codec keys)
      (fun _ s' => Refines codec keys s (abstractRow codec keys s) s' ∧
        storedCell codec (rowRecords keys s'.server s.rr.row) = (abstractRow codec keys s).view)
      (fun _ => False) := by
  refine Triple.getRow_bind fun _ same => ?_
  rw [same]
  let named : Session Byte DV RT := { s with sheetName := recordedSheetName s.sheetName s.rr.row.Sheet.Name }
  refine Triple.bind (Q := fun _ => (· = named)) (Triple.recordSheetName _ fun _ same => by rw [same]) fun _ => ?_
  have written : Triple (· = named) (RedisRow.writeCell codec keys s.rr.currentCell)
      (fun _ st => st.rr = s.rr ∧ st.faults = s.faults ∧ HotCell codec s.rr (rowRecords keys st.server s.rr.row) ∧
        storedCell codec (rowRecords keys st.server s.rr.row) = rowView codec s.rr (rowRecords keys s.server s.rr.row) ∧
        RecordsGrow (rowRecords keys s.server s.rr.row) (rowRecords keys st.server s.rr.row))
      (fun _ => False) := by
    cases current : s.rr.currentCell with
    | none =>
      exact Triple.pure _ fun _ same => by rw [same, rowView_none current]; exact ⟨rfl, rfl, inv, rfl, fun _ h => h⟩
    | some c =>
      refine Triple.getRow_bind fun _ same => ?_
      rw [same]
      exact storeCell_saves_view (s := named) inv reliable current
  refine Triple.bind written fun _ => Triple.command_answered (fun st pre => by rw [pre.2.1]; exact reliable _) ?_
  intro st ⟨rr, faults, inv', stored, grows⟩
  have records : rowRecords keys (st.server.hset (keys.makeSheetRowsStore s.rr.row.Sheet.Name)
      (keys.makeRowNum s.rr.row.num) (some (encodeRow codec s.rr.row s.rr.maxCol))) s.rr.row =
      rowRecords keys st.server s.rr.row := rowRecords_rows ..
  refine ⟨⟨congrArg RedisRow.row rr, faults, ?_, ?_, ?_⟩, ?_⟩
  · show HotCell codec st.rr (rowRecords keys (st.server.hset _ _ _) st.rr.row)
    rwa [rr, records]
  · show RecordsGrow _ (rowRecords keys (st.server.hset _ _ _) st.rr.row)
    rwa [rr, records]
  · refine HotRow.ext ?_ (congrArg (fun rr => rr.currentCell.map (·.num)) rr) (congrArg RedisRow.maxCol rr)
    show rowView codec st.rr (rowRecords keys (st.server.hset _ _ _) st.rr.row) = rowView codec s.rr _
    rw [rr, records, rowView_of_stored stored]
  · show storedCell codec (rowRecords keys (st.server.hset _ _ _) s.rr.row) = _
    rwa [records]

/-- Each cell operation, run with every command answered from a row object that keeps the
invariant, takes the row the program sees one abstract step. -/
theorem RowOp.run_refines (inv : HotCell codec s.rr (rowRecords keys s.server s.rr.row)) (reliable : Reliable s)
    (op : RowOp DV RT) (cellOp : op.IsCellOp) :
    Triple (· = s) (op.run codec keys) (fun _ => Refines codec keys s ((abstractRow codec keys s).step op))
      (fun _ => False) := by
  cases op with
  | addCell => exact Triple.bind (RedisRow.AddCell_refines inv reliable) fun _ => Triple.pure _ fun _ moved => moved
  | getCell k =>
    exact Triple.bind (RedisRow.GetCell_refines inv reliable k) fun _ => Triple.pure _ fun _ moved => moved.2
  | pushCell c => exact RedisRow.PushCell_refines inv reliable c
  | edit f => exact RedisRow.editCurrentCell_refines inv f cellOp
  | writeRow => exact Triple.mono (WriteRow_refines inv reliable) (fun _ same => same) (fun _ _ post => post.1) fun _ e => e
  | forEachCell | moveRow | removeRow | readRow => exact cellOp.elim

/-- A run of cell operations refines the same run of the abstract row. -/
theorem RowOp.forM_refines (ops : List (RowOp DV RT))
    (cellOps : ∀ op ∈ ops, op.IsCellOp) (s : Session Byte DV RT)
    (inv : HotCell codec s.rr (rowRecords keys s.server s.rr.row)) (reliable : Reliable s) :
    Triple (· = s) (ops.forM (·.run codec keys))
      (fun _ => Refines codec keys s (ops.foldl HotRow.step (abstractRow codec keys s))) (fun _ => False) := by
  induction ops generalizing s with
  | nil => exact Triple.pure _ fun _ same => by rw [same]; exact Refines.refl inv
  | cons op ops more =>
    refine Triple.bind (RowOp.run_refines inv reliable op (cellOps op (List.mem_cons_self _ _)))
      fun _ s₁ moved => ?_
    have rest := more (fun op mem => cellOps op (List.mem_cons_of_mem _ mem)) s₁ moved.inv (moved.reliable reliable)
    rw [moved.view] at rest
    exact moved.then rest s₁ rfl

theorem Visit.run_refines (inv : HotCell codec s.rr (rowRecords keys s.server s.rr.row)) (visit : Visit DV RT)
    (edits : visit.IsEdit) (c : Option (Cell DV RT)) :
    Triple (· = s) (visit.run c) (fun _ => Refines codec keys s (visit.abstract (abstractRow codec keys s)))
      (fun _ => False) := by
  cases visit with
  | keep => exact Triple.pure _ fun _ same => by rw [same]; exact Refines.refl inv
  | edit f => exact RedisRow.editCurrentCell_refines inv f edits
  | stop => exact edits.elim

theorem RedisRow.visitCell_refines (inv : HotCell codec s.rr (rowRecords keys s.server s.rr.row))
    (reliable : Reliable s) (visit : Visit DV RT) (edits : visit.IsEdit) {x : Cell DV RT} {k : Int} (num : x.num = k)
    (seen : x.content = (abstractRow codec keys s).view k) :
    Triple (· = s) (RedisRow.visitCell codec keys visit.run false (some x))
      (fun _ => Refines codec keys s (visit.abstract ((abstractRow codec keys s).step (.getCell k)))) (fun _ => False) := by
  rw [RedisRow.visitCell, Bool.and_false, if_neg Bool.false_ne_true]
  refine Triple.getRow_bind fun _ same => ?_
  rw [same]
  have fresh : x.content = (abstractRow codec keys s).view x.num := by rw [num]; exact seen
  refine Triple.bind (RedisRow.setCurrentCell_refines inv reliable _ fun _ => fresh) fun _ s₁ moved => ?_
  have current := moved.congr rfl rfl rfl (HotRow.update_seen _ num seen)
  have visited := Visit.run_refines moved.inv visit edits (some { x with Row := some s.rr.row })
  rw [current.view] at visited
  exact current.then visited s₁ rfl

theorem RedisRow.readStored (reliable : Reliable s) {ci : Int} {bytes rest : List Byte} {x : Cell DV RT}
    (stored : rowRecords keys s.server s.rr.row ci = some bytes) (decoded : decodeCell codec bytes = some (some x, rest))
    {f : Option (Cell DV RT) → RowM Byte DV RT Unit} {Q : Unit → Session Byte DV RT → Prop}
    (visited : Triple (· = { s with clock := s.clock + 1 }) (f (some x)) Q (fun _ => False)) :
    Triple (· = s) (do
      let b ← HGET (keys.makeCellKeyPrefix s.rr.row.Sheet.Name ci) (keys.makeRowNum s.rr.row.num)
      let cell ← Xlsx.readCell codec (b.getD [])
      f cell) Q (fun _ => False) := by
  refine Triple.bind (Q := fun b st => st = { s with clock := s.clock + 1 } ∧ b = some bytes)
    (Triple.command_answered (fun _ same => by rw [same]; exact reliable _)
      fun _ same => by rw [same]; exact ⟨rfl, stored⟩) fun _ => Triple.of_eq_and fun read => ?_
  rw [read, Option.getD_some, readCell_decoded codec decoded, pure_bind]
  exact visited

theorem RedisRow.visitStored_refines (inv : HotCell codec s.rr (rowRecords keys s.server s.rr.row))
    (reliable : Reliable s) (visit : Visit DV RT) (edits : visit.IsEdit) {ci : Int} (within : ci ≤ s.rr.maxCol)
    {x : Cell DV RT} (num : x.num = ci) (seen : x.content = (abstractRow codec keys s).view ci) :
    Triple (· = { s with clock := s.clock + 1 }) (RedisRow.visitCell codec keys visit.run false (some x))
      (fun _ s₂ => Refines codec keys s (visit.abstract ((abstractRow codec keys s).step (.getCell ci))) s₂ ∧
        s₂.rr.maxCol = s.rr.maxCol ∧ s₂.rr.currentCell.map (·.num) = some ci)
      (fun _ => False) := by
  refine Triple.mono (RedisRow.visitCell_refines (s := { s with clock := s.clock + 1 }) inv reliable visit edits num seen)
    (fun _ same => same) (fun _ s₂ moved => ?_) fun _ e => e
  have visited : Refines codec keys s (visit.abstract ((abstractRow codec keys s).step (.getCell ci))) s₂ :=
    moved.congr rfl rfl rfl rfl
  exact ⟨visited, ((congrArg HotRow.maxCol visited.view).trans (Visit.abstract_maxCol ..)).trans (max_eq_left within),
    (congrArg HotRow.current visited.view).trans (Visit.abstract_current ..)⟩

theorem RedisRow.eachStoredColumn_refines (visit : Visit DV RT) (edits : visit.IsEdit) (fuel : Nat) :
    ∀ (ci : Int) (s : Session Byte DV RT), HotCell codec s.rr (rowRecords keys s.server s.rr.row) → Reliable s →
      (s.rr.maxCol + 1 - ci).toNat ≤ fuel →
      (∀ k, ci ≤ k → k ≤ s.rr.maxCol → rowRecords keys s.server s.rr.row k ≠ none) →
      (∀ c, s.rr.currentCell = some c → c.num = ci → c.content = storedCell codec (rowRecords keys s.server s.rr.row) ci) →
      Triple (· = s) (RedisRow.eachStoredColumn codec keys visit.run false fuel ci)
        (fun _ s' => Refines codec keys s
          ((abstractRow codec keys s).visitAll visit (columnsFrom ci (s.rr.maxCol + 1 - ci).toNat)) s' ∧
          s'.rr.maxCol = s.rr.maxCol)
        (fun _ => False) := by
  induction fuel with
  | zero =>
    intro ci s inv _ enough _ _
    refine Triple.getRow_bind fun _ same => ?_
    rw [same, if_neg (by omega), show (s.rr.maxCol + 1 - ci).toNat = 0 by omega]
    exact Triple.pure _ fun _ same => by rw [same]; exact ⟨Refines.refl inv, rfl⟩
  | succ fuel more =>
    intro ci s inv reliable enough recorded synced
    refine Triple.getRow_bind fun _ same => ?_
    rw [same]
    by_cases within : ci ≤ s.rr.maxCol
    · rw [if_pos within]
      obtain ⟨bytes, stored⟩ := Option.ne_none_iff_exists'.mp (recorded ci le_rfl within)
      obtain ⟨x, rest, decoded, num⟩ := inv.decodes ci bytes stored
      have seen : x.content = (abstractRow codec keys s).view ci := by
        rw [Cell.content_of_fresh (decodeCell_fresh codec decoded), ← storedCell_decoded stored decoded,
          abstractRow_view, rowView_of_synced synced]
      refine RedisRow.readStored reliable stored decoded
        (Triple.bind (RedisRow.visitStored_refines inv reliable visit edits within num seen)
          fun _ s₂ ⟨visited, maxCol, cursor⟩ => ?_)
      have rest := more (ci + 1) s₂ visited.inv (visited.reliable reliable) (by rw [maxCol]; omega)
        (fun k above below => visited.grows k (recorded k (by omega) (by rw [← maxCol]; exact below)))
        (fun c current next => by
          rw [current, Option.map_some', Option.some.injEq] at cursor
          omega)
      rw [visited.view, maxCol] at rest
      rw [show (s.rr.maxCol + 1 - ci).toNat = (s.rr.maxCol + 1 - (ci + 1)).toNat + 1 by omega]
      exact Triple.mono rest (fun _ same => same) (fun _ _ later => ⟨later.1.trans visited, later.2⟩)
        (fun _ e => e) s₂ rfl
    · rw [if_neg within, show (s.rr.maxCol + 1 - ci).toNat = 0 by omega]
      exact Triple.pure _ fun _ same => by rw [same]; exact ⟨Refines.refl inv, rfl⟩

theorem RedisRow.eachEmptyColumn_refines (visit : Visit DV RT)
    (edits : visit.IsEdit) (fuel : Nat) :
    ∀ s : Session Byte DV RT, HotCell codec s.rr (rowRecords keys s.server s.rr.row) → Reliable s →
      (s.rr.row.Sheet.MaxCol - (s.rr.maxCol + 1)).toNat ≤ fuel →
      Triple (· = s) (RedisRow.eachEmptyColumn codec keys visit.run fuel (s.rr.maxCol + 1))
        (fun _ => Refines codec keys s ((abstractRow codec keys s).visitAll visit
          (columnsFrom (s.rr.maxCol + 1) (s.rr.row.Sheet.MaxCol - (s.rr.maxCol + 1)).toNat)))
        (fun _ => False) := by
  induction fuel with
  | zero =>
    intro s inv _ enough
    refine Triple.getRow_bind fun _ same => ?_
    rw [same, if_neg (by omega), show (s.rr.row.Sheet.MaxCol - (s.rr.maxCol + 1)).toNat = 0 by omega]
    exact Triple.pure _ fun _ same => by rw [same]; exact Refines.refl inv
  | succ fuel more =>
    intro s inv reliable enough
    refine Triple.getRow_bind fun _ same => ?_
    rw [same]
    by_cases within : s.rr.maxCol + 1 < s.rr.row.Sheet.MaxCol
    · rw [if_pos within]
      refine Triple.bind (RedisRow.GetCell_refines inv reliable _) fun c s₁ ⟨_, fetched⟩ => ?_
      have visited := Visit.run_refines fetched.inv visit edits c
      rw [fetched.view] at visited
      refine Triple.bind visited (fun _ s₂ moved => ?_) s₁ rfl
      have total := moved.trans fetched
      have maxCol : s₂.rr.maxCol = s.rr.maxCol + 1 :=
        ((congrArg HotRow.maxCol total.view).trans (Visit.abstract_maxCol ..)).trans
          (max_eq_right (show s.rr.maxCol ≤ s.rr.maxCol + 1 by omega))
      have rest := more s₂ total.inv (total.reliable reliable) (by rw [maxCol, total.row]; omega)
      rw [total.view, maxCol, total.row] at rest
      rw [show (s.rr.row.Sheet.MaxCol - (s.rr.maxCol + 1)).toNat =
        (s.rr.row.Sheet.MaxCol - (s.rr.maxCol + 1 + 1)).toNat + 1 by omega]
      exact total.then rest s₂ rfl
    · rw [if_neg within, show (s.rr.row.Sheet.MaxCol - (s.rr.maxCol + 1)).toNat = 0 by omega]
      exact Triple.pure _ fun _ same => by rw [same]; exact Refines.refl inv

theorem RedisRow.ForEachCell_of_not_skip (cvf : Option (Cell DV RT) → RowM Byte DV RT Unit) (fuel : Nat) :
    RedisRow.ForEachCell codec keys cvf false fuel = (do
      RedisRow.eachStoredColumn codec keys cvf false fuel 0
      let rr ← getRow
      RedisRow.eachEmptyColumn codec keys cvf fuel (rr.maxCol + 1)) :=
  rfl

theorem RedisRow.ForEachCell_of_skip (cvf : Option (Cell DV RT) → RowM Byte DV RT Unit) (fuel : Nat) :
    RedisRow.ForEachCell codec keys cvf true fuel = (RedisRow.eachStoredColumn codec keys cvf true fuel 0 >>= fun _ => pure ()) :=
  rfl

/-- `ForEachCell`, not skipping empty cells, with a visitor that returns: when every column up to
the max column holds a record and a current cell at column 0 holds what its record does, it
visits each column of `visitedColumns` in turn. -/
theorem RedisRow.ForEachCell_refines
    (inv : HotCell codec s.rr (rowRecords keys s.server s.rr.row)) (reliable : Reliable s)
    (visit : Visit DV RT) (edits : visit.IsEdit)
    (recorded : ∀ k, 0 ≤ k → k ≤ s.rr.maxCol → rowRecords keys s.server s.rr.row k ≠ none)
    (synced : ∀ c, s.rr.currentCell = some c → c.num = 0 → c.content = storedCell codec (rowRecords keys s.server s.rr.row) 0)
    (fuel : Nat) (enough : (s.rr.maxCol + 1).toNat ≤ fuel) (enough' : (s.rr.row.Sheet.MaxCol - (s.rr.maxCol + 1)).toNat ≤ fuel) :
    Triple (· = s) (RedisRow.ForEachCell codec keys visit.run false fuel)
      (fun _ => Refines codec keys s ((abstractRow codec keys s).visitAll visit (visitedColumns s.rr))) (fun _ => False) := by
  have first := @RedisRow.eachStoredColumn_refines _ _ _ codec keys visit edits fuel 0 s inv reliable
    (by rwa [Int.sub_zero]) recorded synced
  rw [Int.sub_zero] at first
  rw [RedisRow.ForEachCell_of_not_skip]
  refine Triple.bind first fun _ s₁ ⟨stored, maxCol⟩ => ?_
  have rest := RedisRow.eachEmptyColumn_refines visit edits fuel s₁ stored.inv (stored.reliable reliable)
    (by rw [maxCol, stored.row]; exact enough')
  rw [stored.view, maxCol, stored.row, ← HotRow.visitAll_append] at rest
  refine Triple.getRow_bind (P := (· = s₁)) (fun _ same => ?_) s₁ rfl
  rw [same, maxCol]
  exact stored.then rest

theorem RedisRow.visitCell_of_modified (cvf : Option (Cell DV RT) → RowM Byte DV RT Unit) {x : Cell DV RT}
    (modified : codec.Modified x = true) :
    RedisRow.visitCell codec keys cvf true (some x) = RedisRow.visitCell codec keys cvf false (some x) := by
  simp only [RedisRow.visitCell, Cell.Modified, modified, Bool.not_true, Bool.false_and]

theorem RedisRow.visitCell_of_unmodified (cvf : Option (Cell DV RT) → RowM Byte DV RT Unit) {x : Cell DV RT}
    (unmodified : codec.Modified x = false) : RedisRow.visitCell codec keys cvf true (some x) = pure () := by
  simp only [RedisRow.visitCell, Cell.Modified, unmodified, Bool.not_false, Bool.true_and, if_true]

theorem RedisRow.eachStoredColumn_skip_refines (visit : Visit DV RT) (edits : visit.IsEdit) (fuel : Nat) :
    ∀ (ci : Int) (s : Session Byte DV RT), HotCell codec s.rr (rowRecords keys s.server s.rr.row) → Reliable s →
      (s.rr.maxCol + 1 - ci).toNat ≤ fuel →
      (∀ k, ci ≤ k → k ≤ s.rr.maxCol → rowRecords keys s.server s.rr.row k ≠ none) →
      (∀ c, s.rr.currentCell = some c → ci ≤ c.num →
        c.content = storedCell codec (rowRecords keys s.server s.rr.row) c.num) →
      Triple (· = s) (RedisRow.eachStoredColumn codec keys visit.run true fuel ci)
        (fun _ => Refines codec keys s
          ((abstractRow codec keys s).visitModified codec visit (columnsFrom ci (s.rr.maxCol + 1 - ci).toNat)))
        (fun _ => False) := by
  induction fuel with
  | zero =>
    intro ci s inv _ enough _ _
    refine Triple.getRow_bind fun _ same => ?_
    rw [same, if_neg (by omega), show (s.rr.maxCol + 1 - ci).toNat = 0 by omega]
    exact Triple.pure _ fun _ same => by rw [same]; exact Refines.refl inv
  | succ fuel more =>
    intro ci s inv reliable enough recorded synced
    refine Triple.getRow_bind fun _ same => ?_
    rw [same]
    by_cases within : ci ≤ s.rr.maxCol
    · rw [if_pos within, show (s.rr.maxCol + 1 - ci).toNat = (s.rr.maxCol + 1 - (ci + 1)).toNat + 1 by omega,
        HotRow.visitModified_columnsFrom_succ]
      obtain ⟨bytes, stored⟩ := Option.ne_none_iff_exists'.mp (recorded ci le_rfl within)
      obtain ⟨x, rest, decoded, num⟩ := inv.decodes ci bytes stored
      have fresh := Cell.content_of_fresh (decodeCell_fresh codec decoded)
      have seen : x.content = (abstractRow codec keys s).view ci := by
        rw [fresh, ← storedCell_decoded stored decoded, abstractRow_view,
          rowView_of_synced fun c current here => by rw [← here]; exact synced c current here.ge]
      have modified : codec.Modified ((abstractRow codec keys s).view ci) = codec.Modified x := by rw [← seen, fresh]
      rw [modified]
      refine RedisRow.readStored reliable stored decoded ?_
      show Triple _ (RedisRow.visitCell codec keys visit.run true (some x) >>= fun _ => _) _ _
      cases passed : codec.Modified x with
      | false =>
        rw [RedisRow.visitCell_of_unmodified _ passed, pure_bind, if_neg Bool.false_ne_true]
        have rest := more (ci + 1) { s with clock := s.clock + 1 } inv reliable
          (show (s.rr.maxCol + 1 - (ci + 1)).toNat ≤ fuel by omega)
          (fun k above below => recorded k (by omega) below) fun c current past => synced c current (by omega)
        exact Triple.mono rest (fun _ same => same) (fun _ _ later => later.congr rfl rfl rfl rfl) fun _ e => e
      | true =>
        rw [RedisRow.visitCell_of_modified _ passed, if_pos rfl]
        refine Triple.bind (RedisRow.visitStored_refines inv reliable visit edits within num seen)
          fun _ s₂ ⟨visited, maxCol, cursor⟩ => ?_
        have rest := more (ci + 1) s₂ visited.inv (visited.reliable reliable) (by rw [maxCol]; omega)
          (fun k above below => visited.grows k (recorded k (by omega) (by rw [← maxCol]; exact below)))
          (fun c current past => by
            rw [current, Option.map_some', Option.some.injEq] at cursor
            omega)
        rw [visited.view, maxCol] at rest
        exact Triple.mono rest (fun _ same => same) (fun _ _ later => later.trans visited) (fun _ e => e) s₂ rfl
    · rw [if_neg within, show (s.rr.maxCol + 1 - ci).toNat = 0 by omega]
      exact Triple.pure _ fun _ same => by rw [same]; exact Refines.refl inv

/-- `ForEachCell`, skipping empty cells, with a visitor that returns: when every column up to the
max column holds a record and a current cell holds what its record does, it visits in turn the
columns up to the max column whose content counts as modified. -/
theorem RedisRow.ForEachCell_skip_refines
    (inv : HotCell codec s.rr (rowRecords keys s.server s.rr.row)) (reliable : Reliable s)
    (visit : Visit DV RT) (edits : visit.IsEdit)
    (recorded : ∀ k, 0 ≤ k → k ≤ s.rr.maxCol → rowRecords keys s.server s.rr.row k ≠ none)
    (synced : ∀ c, s.rr.currentCell = some c → 0 ≤ c.num →
      c.content = storedCell codec (rowRecords keys s.server s.rr.row) c.num)
    (fuel : Nat) (enough : (s.rr.maxCol + 1).toNat ≤ fuel) :
    Triple (· = s) (RedisRow.ForEachCell codec keys visit.run true fuel)
      (fun _ => Refines codec keys s
        ((abstractRow codec keys s).visitModified codec visit (columnsFrom 0 (s.rr.maxCol + 1).toNat)))
      (fun _ => False) := by
  have loop := @RedisRow.eachStoredColumn_skip_refines _ _ _ codec keys visit edits fuel 0 s inv reliable
    (by rwa [Int.sub_zero]) recorded synced
  rw [Int.sub_zero] at loop
  rw [RedisRow.ForEachCell_of_skip]
  exact Triple.bind loop fun _ => Triple.pure () fun _ visited => visited

end Steps

section Refinement

variable {Byte DV RT : Type} {codec : CellCodec Byte DV RT} {keys : Keyspace}

theorem Refines.written {s s₁ : Session Byte DV RT} {A : HotRow DV RT} (moved : Refines codec keys s A s₁)
    (reliable : Reliable s) :
    ∃ s₂, WriteRow codec keys s₁ = .ok () s₂ ∧ storedCell codec (rowRecords keys s₂.server s.rr.row) = A.view := by
  obtain ⟨⟨⟩, s₂, written, -, stored⟩ := Triple.returns (WriteRow_refines moved.inv (moved.reliable reliable))
  exact ⟨s₂, written, by rw [← moved.view, ← moved.row, stored]⟩

theorem RowOp.forM_finalState {st : Session Byte DV RT}
    (inv : HotCell codec st.rr (rowRecords keys st.server st.rr.row)) (reliable : Reliable st)
    (ops : List (RowOp DV RT)) (cellOps : ∀ op ∈ ops, op.IsCellOp) :
    Refines codec keys st (ops.foldl HotRow.step (abstractRow codec keys st))
      (finalState (ops.forM (·.run codec keys) st)) := by
  obtain ⟨⟨⟩, st₁, ran, moved⟩ := Triple.returns (RowOp.forM_refines ops cellOps st inv reliable)
  rw [ran]
  exact moved

/-- With every command answered, a run of cell operations from a row object that keeps the
protocol's invariant returns, and the program then sees the row as the abstract row after the same
run; `WriteRow` then returns and leaves in the store, at every column of the row, the content the
program gave it. No update made through the current cell is lost, however the operations
interleave. -/
theorem cell_ops_lose_no_update {st : Session Byte DV RT}
    (inv : HotCell codec st.rr (rowRecords keys st.server st.rr.row)) (reliable : Reliable st)
    (ops : List (RowOp DV RT)) (cellOps : ∀ op ∈ ops, op.IsCellOp) :
    ∃ st₁ st₂, ops.forM (·.run codec keys) st = .ok () st₁ ∧
      abstractRow codec keys st₁ = ops.foldl HotRow.step (abstractRow codec keys st) ∧
      WriteRow codec keys st₁ = .ok () st₂ ∧
      storedCell codec (rowRecords keys st₂.server st.rr.row) = (ops.foldl HotRow.step (abstractRow codec keys st)).view := by
  obtain ⟨⟨⟩, st₁, ran, moved⟩ := Triple.returns (RowOp.forM_refines ops cellOps st inv reliable)
  obtain ⟨st₂, written, stored⟩ := moved.written reliable
  exact ⟨st₁, st₂, ran, moved.view, written, stored⟩

theorem cell_ops_lose_no_update_on_new_row :
    let st : Session (Token Unit Unit) Unit Unit := { server := {}, rr := makeRedisRow { Name := "S" } }
    let ops : List (RowOp Unit Unit) :=
      [.addCell, .edit fun c => { c with Value := "x" }, .writeRow, .addCell, .pushCell { num := 5, Value := "y" },
        .getCell 0]
    ∃ st₁ st₂, ops.forM (·.run tokenCodec tallyKeyspace) st = .ok () st₁ ∧
      abstractRow tokenCodec tallyKeyspace st₁ = ops.foldl HotRow.step (abstractRow tokenCodec tallyKeyspace st) ∧
      WriteRow tokenCodec tallyKeyspace st₁ = .ok () st₂ ∧
      storedCell tokenCodec (rowRecords tallyKeyspace st₂.server st.rr.row) =
        (ops.foldl HotRow.step (abstractRow tokenCodec tallyKeyspace st)).view := by
  intro st ops
  have cellOps : ∀ op ∈ ops, op.IsCellOp := by
    simp only [ops, List.mem_cons, List.mem_singleton, List.not_mem_nil, or_false, forall_eq_or_imp, forall_eq]
    exact ⟨trivial, fun _ => rfl, trivial, trivial, trivial, trivial⟩
  exact cell_ops_lose_no_update (by exact .of_empty rfl fun _ => rfl) (fun _ => rfl) ops cellOps

/-- With every command answered, after a run of cell operations from a row object that keeps the
protocol's invariant, `GetCell` of any column returns, and returns the content the program gave
that column: the abstract row's after the same run. -/
theorem GetCell_reads_back {st : Session Byte DV RT}
    (inv : HotCell codec st.rr (rowRecords keys st.server st.rr.row)) (reliable : Reliable st)
    (ops : List (RowOp DV RT)) (cellOps : ∀ op ∈ ops, op.IsCellOp) (k : Int) :
    ∃ st₁ c st₂, ops.forM (·.run codec keys) st = .ok () st₁ ∧ RedisRow.GetCell codec keys k st₁ = .ok c st₂ ∧
      ∃ x, c = some x ∧ x.content = (ops.foldl HotRow.step (abstractRow codec keys st)).view k := by
  obtain ⟨⟨⟩, st₁, ran, moved⟩ := Triple.returns (RowOp.forM_refines ops cellOps st inv reliable)
  obtain ⟨c, st₂, got, ⟨x, found, held⟩, -⟩ :=
    Triple.returns (RedisRow.GetCell_refines moved.inv (moved.reliable reliable) k)
  exact ⟨st₁, c, st₂, ran, got, x, found, by rw [held, moved.view]⟩

theorem GetCell_reads_back_after_edit :
    let st : Session (Token Unit Unit) Unit Unit := { server := {}, rr := makeRedisRow { Name := "S" } }
    let ops : List (RowOp Unit Unit) :=
      [.addCell, .edit fun c => { c with Value := "x" }, .writeRow, .addCell, .pushCell { num := 5, Value := "y" },
        .getCell 0]
    ∃ st₁ c st₂, ops.forM (·.run tokenCodec tallyKeyspace) st = .ok () st₁ ∧
      RedisRow.GetCell tokenCodec tallyKeyspace 0 st₁ = .ok c st₂ ∧
      ∃ x, c = some x ∧ x.content = (ops.foldl HotRow.step (abstractRow tokenCodec tallyKeyspace st)).view 0 := by
  intro st ops
  have cellOps : ∀ op ∈ ops, op.IsCellOp := by
    simp only [ops, List.mem_cons, List.mem_singleton, List.not_mem_nil, or_false, forall_eq_or_imp, forall_eq]
    exact ⟨trivial, fun _ => rfl, trivial, trivial, trivial, trivial⟩
  exact GetCell_reads_back (by exact .of_empty rfl fun _ => rfl) (fun _ => rfl) ops cellOps 0

/-- With every command answered, `ForEachCell` not skipping empty cells, with a visitor that keeps
each cell or edits it through setters that read only its content, returns when every column up to
the max column holds a record and a current cell at column 0 holds what its record does. It
visits every column from 0 to the last of the row and of the sheet, in turn, and `WriteRow` then
leaves in the store every edit the visitor made. -/
theorem ForEachCell_visits_every_column {st : Session Byte DV RT}
    (inv : HotCell codec st.rr (rowRecords keys st.server st.rr.row)) (reliable : Reliable st)
    (visit : Visit DV RT) (edits : visit.IsEdit)
    (recorded : ∀ k, 0 ≤ k → k ≤ st.rr.maxCol → rowRecords keys st.server st.rr.row k ≠ none)
    (synced : ∀ c, st.rr.currentCell = some c → c.num = 0 →
      c.content = storedCell codec (rowRecords keys st.server st.rr.row) 0)
    (fuel : Nat) (enough : (st.rr.maxCol + 1).toNat ≤ fuel)
    (enough' : (st.rr.row.Sheet.MaxCol - (st.rr.maxCol + 1)).toNat ≤ fuel) :
    ∃ st₁ st₂, RedisRow.ForEachCell codec keys visit.run false fuel st = .ok () st₁ ∧
      abstractRow codec keys st₁ = (abstractRow codec keys st).visitAll visit (visitedColumns st.rr) ∧
      WriteRow codec keys st₁ = .ok () st₂ ∧
      storedCell codec (rowRecords keys st₂.server st.rr.row) =
        ((abstractRow codec keys st).visitAll visit (visitedColumns st.rr)).view := by
  obtain ⟨⟨⟩, st₁, ran, visited⟩ := Triple.returns
    (RedisRow.ForEachCell_refines inv reliable visit edits recorded synced fuel enough enough')
  obtain ⟨st₂, written, stored⟩ := visited.written reliable
  exact ⟨st₁, st₂, ran, visited.view, written, stored⟩

theorem ForEachCell_visits_every_column_of_written_row :
    let st₀ : Session (Token Unit Unit) Unit Unit := { server := {}, rr := makeRedisRow { Name := "S", MaxCol := 3 } }
    let ops : List (RowOp Unit Unit) := [.addCell, .edit fun c => { c with Value := "x" }, .addCell,
      .edit fun c => { c with Value := "y" }, .writeRow, .getCell 0]
    let st := finalState (ops.forM (·.run tokenCodec tallyKeyspace) st₀)
    let visit : Visit Unit Unit := .edit fun c => { c with Value := "z" }
    ∃ st₁ st₂, RedisRow.ForEachCell tokenCodec tallyKeyspace visit.run false 3 st = .ok () st₁ ∧
      abstractRow tokenCodec tallyKeyspace st₁ =
        (abstractRow tokenCodec tallyKeyspace st).visitAll visit (visitedColumns st.rr) ∧
      WriteRow tokenCodec tallyKeyspace st₁ = .ok () st₂ ∧
      storedCell tokenCodec (rowRecords tallyKeyspace st₂.server st.rr.row) =
        ((abstractRow tokenCodec tallyKeyspace st).visitAll visit (visitedColumns st.rr)).view := by
  intro st₀ ops st visit
  have cellOps : ∀ op ∈ ops, op.IsCellOp := by
    simp only [ops, List.mem_cons, List.mem_singleton, List.not_mem_nil, or_false, forall_eq_or_imp, forall_eq]
    exact ⟨trivial, fun _ => rfl, trivial, fun _ => rfl, trivial, trivial⟩
  have moved : Refines tokenCodec tallyKeyspace st₀ (ops.foldl HotRow.step (abstractRow tokenCodec tallyKeyspace st₀)) st :=
    RowOp.forM_finalState (by exact .of_empty rfl fun _ => rfl) (fun _ => rfl) ops cellOps
  obtain ⟨maxCol, first, second, fetched⟩ : st.rr.maxCol = 1 ∧ (rowRecords tallyKeyspace st.server st.rr.row 0).isSome ∧
      (rowRecords tallyKeyspace st.server st.rr.row 1).isSome ∧ st.rr.currentCell.map (·.modified) = some false := by
    simp only [st, ops, List.forM]
    decide
  exact ForEachCell_visits_every_column moved.inv (moved.reliable fun _ => rfl) visit (fun _ => rfl)
    (fun k low high => by
      obtain rfl | rfl : k = 0 ∨ k = 1 := by omega
      exacts [Option.ne_none_iff_isSome.mpr first, Option.ne_none_iff_isSome.mpr second])
    (fun c current zero => by
      rw [current] at fetched
      rw [← zero]
      exact moved.inv.clean c current (Option.some.inj fetched))
    3 (by rw [maxCol]; decide) (by rw [maxCol, moved.row]; decide)

/-- With every command answered, `ForEachCell` skipping empty cells, with a visitor that keeps
each cell or edits it through setters that read only its content, returns when every column up to
the max column holds a record and the current cell holds what its record does. It visits in turn
the columns whose content counts as modified and passes over the others, and `WriteRow` then
leaves in the store every edit the visitor made. -/
theorem ForEachCell_skip_visits_modified_cells {st : Session Byte DV RT}
    (inv : HotCell codec st.rr (rowRecords keys st.server st.rr.row)) (reliable : Reliable st)
    (visit : Visit DV RT) (edits : visit.IsEdit)
    (recorded : ∀ k, 0 ≤ k → k ≤ st.rr.maxCol → rowRecords keys st.server st.rr.row k ≠ none)
    (synced : ∀ c, st.rr.currentCell = some c → 0 ≤ c.num →
      c.content = storedCell codec (rowRecords keys st.server st.rr.row) c.num)
    (fuel : Nat) (enough : (st.rr.maxCol + 1).toNat ≤ fuel) :
    ∃ st₁ st₂, RedisRow.ForEachCell codec keys visit.run true fuel st = .ok () st₁ ∧
      abstractRow codec keys st₁ =
        (abstractRow codec keys st).visitModified codec visit (columnsFrom 0 (st.rr.maxCol + 1).toNat) ∧
      WriteRow codec keys st₁ = .ok () st₂ ∧
      storedCell codec (rowRecords keys st₂.server st.rr.row) =
        ((abstractRow codec keys st).visitModified codec visit (columnsFrom 0 (st.rr.maxCol + 1).toNat)).view := by
  obtain ⟨⟨⟩, st₁, ran, visited⟩ := Triple.returns
    (RedisRow.ForEachCell_skip_refines inv reliable visit edits recorded synced fuel enough)
  obtain ⟨st₂, written, stored⟩ := visited.written reliable
  exact ⟨st₁, st₂, ran, visited.view, written, stored⟩

theorem ForEachCell_skip_visits_modified_cells_after_getCell :
    let st₀ : Session (Token Unit Unit) Unit Unit := { server := {}, rr := makeRedisRow { Name := "S" } }
    let ops : List (RowOp Unit Unit) :=
      [.pushCell { num := 0 }, .addCell, .edit fun c => { c with Value := "y" }, .writeRow, .getCell 0]
    let st := finalState (ops.forM (·.run tokenCodec tallyKeyspace) st₀)
    let visit : Visit Unit Unit := .edit fun c => { c with Value := "z" }
    ∃ st₁ st₂, RedisRow.ForEachCell tokenCodec tallyKeyspace visit.run true 2 st = .ok () st₁ ∧
      abstractRow tokenCodec tallyKeyspace st₁ =
        (abstractRow tokenCodec tallyKeyspace st).visitModified tokenCodec visit (columnsFrom 0 (st.rr.maxCol + 1).toNat) ∧
      WriteRow tokenCodec tallyKeyspace st₁ = .ok () st₂ ∧
      storedCell tokenCodec (rowRecords tallyKeyspace st₂.server st.rr.row) =
        ((abstractRow tokenCodec tallyKeyspace st).visitModified tokenCodec visit
          (columnsFrom 0 (st.rr.maxCol + 1).toNat)).view := by
  intro st₀ ops st visit
  have cellOps : ∀ op ∈ ops, op.IsCellOp := by
    simp only [ops, List.mem_cons, List.mem_singleton, List.not_mem_nil, or_false, forall_eq_or_imp, forall_eq]
    exact ⟨trivial, trivial, fun _ => rfl, trivial, trivial⟩
  have moved : Refines tokenCodec tallyKeyspace st₀ (ops.foldl HotRow.step (abstractRow tokenCodec tallyKeyspace st₀)) st :=
    RowOp.forM_finalState (by exact .of_empty rfl fun _ => rfl) (fun _ => rfl) ops cellOps
  obtain ⟨maxCol, first, second, fetched⟩ : st.rr.maxCol = 1 ∧ (rowRecords tallyKeyspace st.server st.rr.row 0).isSome ∧
      (rowRecords tallyKeyspace st.server st.rr.row 1).isSome ∧ st.rr.currentCell.map (·.modified) = some false := by
    simp only [st, ops, List.forM]
    decide
  exact ForEachCell_skip_visits_modified_cells moved.inv (moved.reliable fun _ => rfl) visit (fun _ => rfl)
    (fun k low high => by
      obtain rfl | rfl : k = 0 ∨ k = 1 := by omega
      exacts [Option.ne_none_iff_isSome.mpr first, Option.ne_none_iff_isSome.mpr second])
    (fun c current _ => by
      rw [current] at fetched
      exact moved.inv.clean c current (Option.some.inj fetched))
    2 (by rw [maxCol]; decide)

end Refinement

end Xlsx
