import Xlsx.Redis.HotCell

/-!
# `MoveRow`

`MoveRow` writes the current cell under the row's old number, checks that the target number is
free in the sheet's rows hash, deletes the old row record, hands every stored cell to a visitor
that copies it under the new number and deletes it under the old one, and writes the row record
under the new number. The walk skips the cells that do not count as modified, and it flushes the
current cell under the old number each time it moves on, so cells are left under the old number
as well; what the walk does guarantee is stated by `Moving`.
-/

namespace Xlsx

section Walk

variable {Byte DV RT : Type} (codec : CellCodec Byte DV RT) (keys : Keyspace)

/-- The walk of `MoveRow` at column `ci`, from the session `s₁` it starts in: the row, the max
column, the fault oracle and the sheet's rows hash as they were; the records under the old number
as they were from `ci` on; and every column from 0 before `ci` whose stored cell counts as modified
holding that cell's record under the new number. -/
structure Moving (s₁ : Session Byte DV RT) (newKey : String) (ci : Int) (s : Session Byte DV RT) : Prop where
  row : s.rr.row = s₁.rr.row
  maxCol : s.rr.maxCol = s₁.rr.maxCol
  faults : s.faults = s₁.faults
  rows : s.server.hashes (keys.makeSheetRowsStore s₁.rr.row.Sheet.Name) =
    s₁.server.hashes (keys.makeSheetRowsStore s₁.rr.row.Sheet.Name)
  ahead : ∀ k, ci ≤ k → rowRecords keys s.server s₁.rr.row k = rowRecords keys s₁.server s₁.rr.row k
  moved : ∀ k, 0 ≤ k → k < ci → codec.Modified (storedCell codec (rowRecords keys s₁.server s₁.rr.row) k) = true →
    s.server.hashes (keys.makeCellKeyPrefix s₁.rr.row.Sheet.Name k) newKey =
      some (encodeCell codec (some (storedCell codec (rowRecords keys s₁.server s₁.rr.row) k)))

end Walk

section Steps

variable {Byte DV RT : Type} {codec : CellCodec Byte DV RT} {keys : Keyspace}
variable {s₁ s : Session Byte DV RT} {newKey : String} {ci : Int}

theorem Keyspace.makeCellKeyPrefix_ne (sheetName : String) {k j : Int} (other : k ≠ j) :
    keys.makeCellKeyPrefix sheetName k ≠ keys.makeCellKeyPrefix sheetName j :=
  fun same => other (keys.makeCellKeyPrefix_injective _ same)

theorem Moving.start : Moving codec keys s₁ newKey 0 s₁ :=
  ⟨rfl, rfl, rfl, rfl, fun _ _ => rfl, fun _ _ _ _ => by omega⟩

theorem Moving.tick (moving : Moving codec keys s₁ newKey ci s) (t : Nat) :
    Moving codec keys s₁ newKey ci { s with clock := t } :=
  ⟨moving.row, moving.maxCol, moving.faults, moving.rows, moving.ahead, moving.moved⟩

theorem Moving.zadd (moving : Moving codec keys s₁ newKey ci s) (key : String) (score : Int) (member : String)
    (t : Nat) : Moving codec keys s₁ newKey ci { s with server := s.server.zadd key score member, clock := t } :=
  ⟨moving.row, moving.maxCol, moving.faults, moving.rows, moving.ahead, moving.moved⟩

theorem Moving.pass (moving : Moving codec keys s₁ newKey ci s)
    (passed : codec.Modified (storedCell codec (rowRecords keys s₁.server s₁.rr.row) ci) = false) (t : Nat) :
    Moving codec keys s₁ newKey (ci + 1) { s with clock := t } where
  row := moving.row
  maxCol := moving.maxCol
  faults := moving.faults
  rows := moving.rows
  ahead k after := moving.ahead k (by omega)
  moved k low below modified := by
    by_cases here : k = ci
    · subst here
      rw [passed] at modified
      cases modified
    · exact moving.moved k low (by omega) modified

theorem Moving.hset_old (moving : Moving codec keys s₁ newKey ci s) (distinct : newKey ≠ keys.makeRowNum s₁.rr.row.num)
    {j : Int} {value : Option (List Byte)} (ahead : ci ≤ j → value = rowRecords keys s₁.server s₁.rr.row j) (t : Nat) :
    Moving codec keys s₁ newKey ci { s with
      server := s.server.hset (keys.makeCellKeyPrefix s₁.rr.row.Sheet.Name j) (keys.makeRowNum s₁.rr.row.num) value,
      clock := t } where
  row := moving.row
  maxCol := moving.maxCol
  faults := moving.faults
  rows := funext fun field =>
    (Server.hset_hashes_ne _ _ (.inl (keys.makeSheetRowsStore_ne _ _))).trans (congrFun moving.rows field)
  ahead k after := by
    by_cases here : k = j
    · subst here
      exact (Server.hset_hashes_self ..).trans (ahead after)
    · exact (Server.hset_hashes_ne _ _ (.inl (keys.makeCellKeyPrefix_ne _ here))).trans (moving.ahead k after)
  moved k low below modified := (Server.hset_hashes_ne _ _ (.inr distinct)).trans (moving.moved k low below modified)

theorem Moving.hset_new (moving : Moving codec keys s₁ newKey ci s) {x : Cell DV RT}
    (held : encodeCell codec (some x) = encodeCell codec (some (storedCell codec (rowRecords keys s₁.server s₁.rr.row) ci)))
    (t : Nat) :
    Moving codec keys s₁ newKey (ci + 1) { s with
      server := s.server.hset (keys.makeCellKeyPrefix s₁.rr.row.Sheet.Name ci) newKey (some (encodeCell codec (some x))),
      clock := t } where
  row := moving.row
  maxCol := moving.maxCol
  faults := moving.faults
  rows := funext fun field =>
    (Server.hset_hashes_ne _ _ (.inl (keys.makeSheetRowsStore_ne _ _))).trans (congrFun moving.rows field)
  ahead k after :=
    (Server.hset_hashes_ne _ _ (.inl (keys.makeCellKeyPrefix_ne _ (by omega)))).trans (moving.ahead k (by omega))
  moved k low below modified := by
    by_cases here : k = ci
    · subst here
      rw [← held]
      exact Server.hset_hashes_self ..
    · exact (Server.hset_hashes_ne _ _ (.inl (keys.makeCellKeyPrefix_ne _ here))).trans
        (moving.moved k low (by omega) modified)

variable (reliable : Reliable s₁) (distinct : newKey ≠ keys.makeRowNum s₁.rr.row.num)
include reliable

theorem Moving.answered (moving : Moving codec keys s₁ newKey ci s) : s.faults s.clock = false := by
  rw [moving.faults]
  exact reliable _

include distinct

theorem storeCell_moving (moving : Moving codec keys s₁ newKey ci s) (c : Cell DV RT)
    (ahead : ci ≤ c.num → some (encodeCell codec (some c)) = rowRecords keys s₁.server s₁.rr.row c.num) :
    Triple (· = s) (storeCell codec keys s₁.rr.row.Sheet.Name (keys.makeRowNum s₁.rr.row.num) c)
      (fun _ s' => s'.rr = s.rr ∧ Moving codec keys s₁ newKey ci s') (fun _ => False) :=
  Triple.bind (Q := fun _ s' => s'.rr = s.rr ∧ Moving codec keys s₁ newKey ci s')
    (Triple.command_answered (fun _ same => same ▸ moving.answered reliable)
      fun _ same => by subst same; exact ⟨rfl, moving.zadd _ _ _ _⟩) fun _ =>
    Triple.command_answered (fun _ ⟨_, moving'⟩ => moving'.answered reliable)
      fun _ ⟨rr, moving'⟩ => ⟨rr, moving'.hset_old distinct ahead _⟩

theorem RedisRow.flushCurrentCell_moving (moving : Moving codec keys s₁ newKey ci s)
    (current : ∀ c, s.rr.currentCell = some c → ci ≤ c.num →
      some (encodeCell codec (some c)) = rowRecords keys s₁.server s₁.rr.row c.num) :
    Triple (· = s) (RedisRow.flushCurrentCell codec keys)
      (fun _ s' => s'.rr = s.rr ∧ Moving codec keys s₁ newKey ci s') (fun _ => False) := by
  refine Triple.getRow_bind fun _ same => ?_
  rw [same]
  cases cur : s.rr.currentCell with
  | none => exact Triple.pure _ fun _ same => by subst same; exact ⟨rfl, moving⟩
  | some c =>
    split
    · refine Triple.tryCatch (Triple.getRow_bind fun _ same => ?_) fun _ _ impossible => impossible
      rw [same, moving.row]
      exact storeCell_moving reliable distinct moving c (current c cur)
    · exact Triple.pure _ fun _ same => by subst same; exact ⟨rfl, moving⟩

theorem RedisRow.setCurrentCell_moving (moving : Moving codec keys s₁ newKey ci s)
    (current : ∀ c, s.rr.currentCell = some c → ci ≤ c.num →
      some (encodeCell codec (some c)) = rowRecords keys s₁.server s₁.rr.row c.num)
    {x : Cell DV RT} (within : x.num ≤ s₁.rr.maxCol) :
    Triple (· = s) (RedisRow.setCurrentCell codec keys (some x))
      (fun _ s' => s'.rr.currentCell = some x ∧ Moving codec keys s₁ newKey ci s') (fun _ => False) :=
  Triple.bind (RedisRow.flushCurrentCell_moving reliable distinct moving current) fun _ =>
    Triple.setRow _ fun _ ⟨_, moving'⟩ => ⟨rfl, { moving' with
      maxCol := show (if x.num > _ then x.num else _) = _ by rw [moving'.maxCol, if_neg (by omega)] }⟩

theorem moveCell_moving (moving : Moving codec keys s₁ newKey ci s) {x : Cell DV RT} (num : x.num = ci)
    (held : encodeCell codec (some x) = encodeCell codec (some (storedCell codec (rowRecords keys s₁.server s₁.rr.row) ci))) :
    Triple (· = s) (moveCell codec keys (keys.makeRowNum s₁.rr.row.num) newKey (some x))
      (fun _ s' => s'.rr = s.rr ∧ Moving codec keys s₁ newKey (ci + 1) s') (fun _ => False) := by
  refine Triple.getRow_bind fun _ same => ?_
  rw [same, moving.row, num]
  exact Triple.bind (Q := fun _ s' => s'.rr = s.rr ∧ Moving codec keys s₁ newKey (ci + 1) s')
    (Triple.command_answered (fun _ same => same ▸ moving.answered reliable)
      fun _ same => by subst same; exact ⟨rfl, moving.hset_new held _⟩) fun _ =>
    Triple.command_answered (fun _ ⟨_, moving'⟩ => moving'.answered reliable)
      fun _ ⟨rr, moving'⟩ => ⟨rr, moving'.hset_old distinct (fun after => absurd after (by omega)) _⟩

theorem RedisRow.visitCell_moving (moving : Moving codec keys s₁ newKey ci s)
    (current : ∀ c, s.rr.currentCell = some c → ci ≤ c.num →
      some (encodeCell codec (some c)) = rowRecords keys s₁.server s₁.rr.row c.num)
    (within : ci ≤ s₁.rr.maxCol) {x : Cell DV RT} (num : x.num = ci)
    (held : storedCell codec (rowRecords keys s₁.server s₁.rr.row) ci = x) (modified : codec.Modified x = true) :
    Triple (· = s) (RedisRow.visitCell codec keys (moveCell codec keys (keys.makeRowNum s₁.rr.row.num) newKey) true (some x))
      (fun _ s' => Moving codec keys s₁ newKey (ci + 1) s' ∧ ∀ c, s'.rr.currentCell = some c → c.num = ci)
      (fun _ => False) := by
  rw [RedisRow.visitCell_of_modified _ modified, RedisRow.visitCell, Bool.and_false, if_neg Bool.false_ne_true]
  refine Triple.getRow_bind fun _ same => ?_
  rw [same]
  refine Triple.bind (RedisRow.setCurrentCell_moving reliable distinct moving current (x := { x with Row := _ })
    (show x.num ≤ _ by omega)) fun _ s₂ ⟨cur, moving₂⟩ => ?_
  refine Triple.mono (moveCell_moving reliable distinct moving₂ (x := { x with Row := _ }) num (by rw [held]))
    (fun _ same => same)
    (fun _ _ ⟨rr, moved⟩ => ⟨moved, fun c cur' => ?_⟩) (fun _ e => e) s₂ rfl
  rw [rr, cur, Option.some.injEq] at cur'
  rw [← cur']
  exact num

end Steps

section Loop

variable {Byte DV RT : Type} {codec : CellCodec Byte DV RT} {keys : Keyspace}
variable {s₁ : Session Byte DV RT} {newKey : String}
variable (reliable : Reliable s₁) (distinct : newKey ≠ keys.makeRowNum s₁.rr.row.num)
variable (inv : HotCell codec s₁.rr (rowRecords keys s₁.server s₁.rr.row))
variable (recorded : ∀ k, 0 ≤ k → k ≤ s₁.rr.maxCol → rowRecords keys s₁.server s₁.rr.row k ≠ none)
include reliable distinct inv recorded

/-- The walk of `MoveRow` from column `ci`, with every command answered, returns when it has the
iterations, and copies under the new number every column from `ci` up to the max column whose
stored cell counts as modified. -/
theorem RedisRow.eachStoredColumn_moving (fuel : Nat) :
    ∀ (ci : Int) (s : Session Byte DV RT), 0 ≤ ci → (s₁.rr.maxCol + 1 - ci).toNat ≤ fuel →
      Moving codec keys s₁ newKey ci s →
      (∀ c, s.rr.currentCell = some c → ci ≤ c.num →
        some (encodeCell codec (some c)) = rowRecords keys s₁.server s₁.rr.row c.num) →
      Triple (· = s)
        (RedisRow.eachStoredColumn codec keys (moveCell codec keys (keys.makeRowNum s₁.rr.row.num) newKey) true fuel ci)
        (fun _ => Moving codec keys s₁ newKey (max ci (s₁.rr.maxCol + 1))) (fun _ => False) := by
  induction fuel with
  | zero =>
    intro ci s _ enough moving _
    refine Triple.getRow_bind fun _ same => ?_
    rw [same, moving.maxCol, if_neg (by omega), max_eq_left (by omega)]
    exact Triple.pure _ fun _ same => same ▸ moving
  | succ fuel more =>
    intro ci s start enough moving current
    refine Triple.getRow_bind fun _ same => ?_
    rw [same, moving.maxCol]
    by_cases within : ci ≤ s₁.rr.maxCol
    · rw [if_pos within, show max ci (s₁.rr.maxCol + 1) = max (ci + 1) (s₁.rr.maxCol + 1) by omega]
      obtain ⟨bytes, stored⟩ := Option.ne_none_iff_exists'.mp (recorded ci start within)
      obtain ⟨x, rest, decoded, num⟩ := inv.decodes ci bytes stored
      have held := storedCell_decoded stored decoded
      refine RedisRow.readStored (fun t => by rw [moving.faults]; exact reliable t)
        (by rw [moving.row]; exact (moving.ahead ci le_rfl).trans stored) decoded ?_
      show Triple _ (RedisRow.visitCell codec keys _ true (some x) >>= fun _ => _) _ _
      cases passed : codec.Modified x with
      | false =>
        rw [RedisRow.visitCell_of_unmodified _ passed, pure_bind]
        exact more (ci + 1) _ (by omega) (show (s₁.rr.maxCol + 1 - (ci + 1)).toNat ≤ fuel by omega)
          (moving.pass (by rw [held, passed]) _) fun c cur after => current c cur (by omega)
      | true =>
        exact Triple.bind (RedisRow.visitCell_moving reliable distinct (moving.tick (s.clock + 1)) current within num held
          passed) fun _ s₂ ⟨moving₂, cur⟩ => more (ci + 1) s₂ (by omega) (by omega) moving₂
            (fun c cur' after => absurd (cur c cur') (by omega)) s₂ rfl
    · rw [if_neg within, max_eq_left (by omega)]
      exact Triple.pure _ fun _ same => same ▸ moving

end Loop

section Relocate

variable {Byte DV RT : Type} {codec : CellCodec Byte DV RT} {keys : Keyspace}

variable (codec keys) in
/-- What the flush that opens `MoveRow` leaves, with every command answered, from session `s₀`:
the row object and the fault oracle as they were, and the current cell's record written, so that
the records hold the row as the program sees it. -/
structure MoveStart (s₀ s : Session Byte DV RT) : Prop where
  rr : s.rr = s₀.rr
  faults : s.faults = s₀.faults
  inv : HotCell codec s₀.rr (rowRecords keys s.server s₀.rr.row)
  view : storedCell codec (rowRecords keys s.server s₀.rr.row) = (abstractRow codec keys s₀).view
  current : ∀ c, s₀.rr.currentCell = some c → some (encodeCell codec (some c)) = rowRecords keys s.server s₀.rr.row c.num
  grows : RecordsGrow (rowRecords keys s₀.server s₀.rr.row) (rowRecords keys s.server s₀.rr.row)

variable {s₀ : Session Byte DV RT}

theorem MoveStart.hset_rows (start : MoveStart codec keys s₀ s) (field : String) (value : Option (List Byte)) (t : Nat) :
    MoveStart codec keys s₀
      { s with server := s.server.hset (keys.makeSheetRowsStore s₀.rr.row.Sheet.Name) field value, clock := t } := by
  refine ⟨start.rr, start.faults, ?_, ?_, ?_, ?_⟩ <;> simp only [rowRecords_rows]
  exacts [start.inv, start.view, start.current, start.grows]

theorem MoveRow.flush_start (inv : HotCell codec s₀.rr (rowRecords keys s₀.server s₀.rr.row)) (reliable : Reliable s₀)
    (t : String) :
    Triple (· = { s₀ with sheetName := t })
      (s₀.rr.currentCell.forM fun cell => storeCell codec keys s₀.rr.row.Sheet.Name (keys.makeRowNum s₀.rr.row.num) cell)
      (fun _ s => MoveStart codec keys s₀ s ∧
        s.server.hashes (keys.makeSheetRowsStore s₀.rr.row.Sheet.Name) = s₀.server.hashes (keys.makeSheetRowsStore s₀.rr.row.Sheet.Name))
      (fun _ => False) := by
  rintro _ rfl
  cases cur : s₀.rr.currentCell with
  | none => exact ⟨⟨rfl, rfl, inv, (rowView_none cur).symm, (fun _ c => nomatch c.symm.trans cur), fun _ h => h⟩, rfl⟩
  | some c =>
    simp only [Option.forM, storeCell_run, reliable _, Bool.false_eq_true, if_false]
    refine ⟨⟨rfl, rfl, ?_, ?_, fun c' cur' => ?_, ?_⟩, funext fun field => ?_⟩
    · rw [rowRecords_store]
      exact inv.store_current cur
    · rw [rowRecords_store, storedCell_encode, abstractRow_view, rowView_some cur]
    · cases cur'.symm.trans cur
      rw [rowRecords_store, Function.update_same]
    · rw [rowRecords_store]
      exact RecordsGrow.update _ _
    · exact Server.hset_hashes_ne _ _ (.inl (keys.makeSheetRowsStore_ne _ _))

theorem MoveRow.walk {s₁ : Session Byte DV RT} (start : MoveStart codec keys s₀ s₁) (reliable : Reliable s₀)
    (recorded : ∀ k, 0 ≤ k → k ≤ s₀.rr.maxCol →
      rowRecords keys s₀.server s₀.rr.row k ≠ none ∨ s₀.rr.currentCell.map (·.num) = some k)
    {newKey : String} (distinct : newKey ≠ keys.makeRowNum s₀.rr.row.num)
    (fuel : Nat) (enough : (s₀.rr.maxCol + 1).toNat ≤ fuel) :
    Triple (· = s₁)
      (RedisRow.ForEachCell codec keys (moveCell codec keys (keys.makeRowNum s₀.rr.row.num) newKey) true fuel)
      (fun _ => Moving codec keys s₁ newKey (max 0 (s₀.rr.maxCol + 1))) (fun _ => False) := by
  have stored : ∀ k, 0 ≤ k → k ≤ s₀.rr.maxCol → rowRecords keys s₁.server s₀.rr.row k ≠ none := fun k low high => by
    rcases recorded k low high with present | current
    · exact start.grows k present
    · obtain ⟨c, cur, rfl⟩ := Option.map_eq_some'.mp current
      rw [← start.current c cur]
      exact Option.some_ne_none _
  have loop := @RedisRow.eachStoredColumn_moving _ _ _ codec keys s₁ newKey
    (fun tick => by rw [start.faults]; exact reliable tick) (by rwa [start.rr]) (by rw [start.rr]; exact start.inv)
    (by rw [start.rr]; exact stored) fuel 0 s₁ le_rfl (by rwa [start.rr, Int.sub_zero]) .start
    (fun c cur _ => by rw [start.rr] at cur ⊢; exact start.current c cur)
  rw [start.rr] at loop
  rw [RedisRow.ForEachCell_of_skip]
  exact Triple.bind loop fun _ => Triple.pure () fun _ moved => moved

theorem MoveStart.tick (start : MoveStart codec keys s₀ s) (t : Nat) : MoveStart codec keys s₀ { s with clock := t } :=
  ⟨start.rr, start.faults, start.inv, start.view, start.current, start.grows⟩

theorem MoveStart.answered (start : MoveStart codec keys s₀ s) (reliable : Reliable s₀) : s.faults s.clock = false := by
  rw [start.faults]
  exact reliable _

theorem MoveRow.unlink_old (reliable : Reliable s₀) :
    Triple (fun s => MoveStart codec keys s₀ s ∧ s.server.hashes (keys.makeSheetRowsStore s₀.rr.row.Sheet.Name) =
        s₀.server.hashes (keys.makeSheetRowsStore s₀.rr.row.Sheet.Name))
      (HDEL (keys.makeSheetRowsStore s₀.rr.row.Sheet.Name) (keys.makeRowNum s₀.rr.row.num))
      (fun _ s => MoveStart codec keys s₀ s ∧ s.server.hashes (keys.makeSheetRowsStore s₀.rr.row.Sheet.Name) =
        Function.update (s₀.server.hashes (keys.makeSheetRowsStore s₀.rr.row.Sheet.Name)) (keys.makeRowNum s₀.rr.row.num)
          none)
      (fun _ => False) :=
  Triple.command_answered (fun _ pre => pre.1.answered reliable) fun _ ⟨start, kept⟩ =>
    ⟨start.hset_rows _ _ _, funext fun field => by
      by_cases here : field = keys.makeRowNum s₀.rr.row.num
      · rw [here, Server.hset_hashes_self, Function.update_same]
      · rw [Server.hset_hashes_ne _ _ (.inr here), Function.update_noteq here, ← kept]⟩

theorem MoveRow.renumber {s₁ : Session Byte DV RT} (start₁ : MoveStart codec keys s₀ s₁) (reliable : Reliable s₀)
    {index : Int} (distinct : toString index ≠ keys.makeRowNum s₀.rr.row.num)
    (unlinked : s₁.server.hashes (keys.makeSheetRowsStore s₀.rr.row.Sheet.Name) =
      Function.update (s₀.server.hashes (keys.makeSheetRowsStore s₀.rr.row.Sheet.Name)) (keys.makeRowNum s₀.rr.row.num)
        none) :
    Triple (Moving codec keys s₁ (toString index) (max 0 (s₀.rr.maxCol + 1)))
      (do
        setRow fun rr => { rr with row := { rr.row with num := index } }
        let rr ← getRow
        HSET (keys.makeSheetRowsStore rr.row.Sheet.Name) (toString index) (encodeRow codec rr.row rr.maxCol))
      (fun _ s => s.rr.row = { s₀.rr.row with num := index } ∧ s.rr.maxCol = s₀.rr.maxCol ∧
        s.server.hashes (keys.makeSheetRowsStore s₀.rr.row.Sheet.Name) (toString index) =
          some (encodeRow codec { s₀.rr.row with num := index } s₀.rr.maxCol) ∧
        s.server.hashes (keys.makeSheetRowsStore s₀.rr.row.Sheet.Name) (keys.makeRowNum s₀.rr.row.num) = none ∧
        (∀ field, field ≠ toString index → field ≠ keys.makeRowNum s₀.rr.row.num →
          s.server.hashes (keys.makeSheetRowsStore s₀.rr.row.Sheet.Name) field =
            s₀.server.hashes (keys.makeSheetRowsStore s₀.rr.row.Sheet.Name) field) ∧
        ∀ k, 0 ≤ k → k ≤ s₀.rr.maxCol → codec.Modified ((abstractRow codec keys s₀).view k) = true →
          s.server.hashes (keys.makeCellKeyPrefix s₀.rr.row.Sheet.Name k) (toString index) =
            some (encodeCell codec (some ((abstractRow codec keys s₀).view k))))
      (fun _ => False) := by
  refine Triple.bind (Q := fun _ st => ∃ sw, Moving codec keys s₁ (toString index) (max 0 (s₀.rr.maxCol + 1)) sw ∧
      st = { sw with rr := { sw.rr with row := { sw.rr.row with num := index } } })
    (Triple.setRow _ fun sw moving => ⟨sw, moving, rfl⟩) fun _ sx ⟨sw, moving, same⟩ => ?_
  subst same
  refine Triple.getRow_bind (P := (· = _)) (fun _ same => ?_) _ rfl
  rw [same]
  refine Triple.command_answered (fun _ same => by rw [same]; exact moving.faults.trans start₁.faults ▸ reliable _)
    fun _ same => ?_
  subst same
  have row : sw.rr.row = s₀.rr.row := moving.row.trans (congrArg RedisRow.row start₁.rr)
  have walked : sw.server.hashes (keys.makeSheetRowsStore s₀.rr.row.Sheet.Name) =
      Function.update (s₀.server.hashes (keys.makeSheetRowsStore s₀.rr.row.Sheet.Name)) (keys.makeRowNum s₀.rr.row.num)
        none := by
    rw [← unlinked]
    have rows := moving.rows
    rwa [start₁.rr] at rows
  rw [row]
  refine ⟨rfl, moving.maxCol.trans (congrArg RedisRow.maxCol start₁.rr),
    by rw [moving.maxCol, start₁.rr]; exact Server.hset_hashes_self .., ?_, fun field new other => ?_,
    fun k low high modified => ?_⟩
  · rw [Server.hset_hashes_ne _ _ (.inr (Ne.symm distinct)), walked, Function.update_same]
  · rw [Server.hset_hashes_ne _ _ (.inr new), walked, Function.update_noteq other]
  · rw [← start₁.view] at modified ⊢
    rw [Server.hset_hashes_ne _ _ (.inl (keys.makeSheetRowsStore_ne _ _).symm)]
    have moved := moving.moved k low (by omega) (by rwa [start₁.rr])
    rwa [start₁.rr] at moved

/-- With every command answered, `MoveRow` of a row object that keeps the hot-cell invariant, each
of whose columns up to the max column holds a record or the current cell, onto a free number other
than its own, returns when the walk has the iterations. The row object is renumbered; the sheet's
rows hash holds the renumbered row's record under the new number, none under the old one, and its
other fields as they were; and every column whose content, as the program saw it, counts as
modified holds that content's record under the new number. -/
theorem MoveRow_relocates_row (inv : HotCell codec s₀.rr (rowRecords keys s₀.server s₀.rr.row)) (reliable : Reliable s₀)
    (recorded : ∀ k, 0 ≤ k → k ≤ s₀.rr.maxCol →
      rowRecords keys s₀.server s₀.rr.row k ≠ none ∨ s₀.rr.currentCell.map (·.num) = some k)
    {index : Int} (free : s₀.server.hashes (keys.makeSheetRowsStore s₀.rr.row.Sheet.Name) (toString index) = none)
    (distinct : toString index ≠ keys.makeRowNum s₀.rr.row.num)
    (fuel : Nat) (enough : (s₀.rr.maxCol + 1).toNat ≤ fuel) :
    ∃ s, MoveRow codec keys index fuel s₀ = .ok () s ∧
      s.rr.row = { s₀.rr.row with num := index } ∧ s.rr.maxCol = s₀.rr.maxCol ∧
      s.server.hashes (keys.makeSheetRowsStore s₀.rr.row.Sheet.Name) (toString index) =
        some (encodeRow codec { s₀.rr.row with num := index } s₀.rr.maxCol) ∧
      s.server.hashes (keys.makeSheetRowsStore s₀.rr.row.Sheet.Name) (keys.makeRowNum s₀.rr.row.num) = none ∧
      (∀ field, field ≠ toString index → field ≠ keys.makeRowNum s₀.rr.row.num →
        s.server.hashes (keys.makeSheetRowsStore s₀.rr.row.Sheet.Name) field =
          s₀.server.hashes (keys.makeSheetRowsStore s₀.rr.row.Sheet.Name) field) ∧
      ∀ k, 0 ≤ k → k ≤ s₀.rr.maxCol → codec.Modified ((abstractRow codec keys s₀).view k) = true →
        s.server.hashes (keys.makeCellKeyPrefix s₀.rr.row.Sheet.Name k) (toString index) =
          some (encodeCell codec (some ((abstractRow codec keys s₀).view k))) := by
  refine (Triple.returns ?_).elim fun _ ⟨s, ran, post⟩ => ⟨s, ran, post⟩
  refine Triple.getRow_bind fun _ same => ?_
  rw [same]
  refine Triple.bind (Q := fun _ st => st = { s₀ with sheetName := recordedSheetName s₀.sheetName s₀.rr.row.Sheet.Name })
    (Triple.recordSheetName _ fun _ same => same ▸ rfl) fun _ =>
    Triple.bind (MoveRow.flush_start inv reliable _) fun _ sb ⟨start, kept⟩ => ?_
  refine Triple.bind (P := (· = sb))
    (Q := fun v st => (MoveStart codec keys s₀ st ∧ st.server.hashes (keys.makeSheetRowsStore s₀.rr.row.Sheet.Name) =
      s₀.server.hashes (keys.makeSheetRowsStore s₀.rr.row.Sheet.Name)) ∧ v = none)
    (Triple.command_answered (fun _ same => same ▸ start.answered reliable)
      fun _ same => by subst same; exact ⟨⟨start.tick _, kept⟩, (congrFun kept _).trans free⟩)
    (fun _ st ⟨unread, read⟩ => ?_) sb rfl
  rw [read, Option.isSome_none, if_neg Bool.false_ne_true]
  exact Triple.bind (MoveRow.unlink_old reliable) (fun _ s₁ ⟨start₁, unlinked⟩ =>
    Triple.bind (P := (· = s₁)) (MoveRow.walk start₁ reliable recorded distinct fuel enough)
      (fun _ => MoveRow.renumber start₁ reliable distinct unlinked) s₁ rfl) st unread

theorem MoveRow_relocates_row_three_to_five :
    let sheet : Sheet := { Name := "S", MaxCol := 2 }
    let st₀ : Session (Token Unit Unit) Unit Unit :=
      { server := {}, rr := { makeRedisRow sheet with row := { Sheet := sheet, num := 3 } } }
    let ops : List (RowOp Unit Unit) :=
      [.addCell, .edit fun c => { c with Value := "x" }, .addCell, .edit fun c => { c with Value := "y" }, .writeRow]
    let s₀ := finalState (ops.forM (·.run tokenCodec tallyKeyspace) st₀)
    let index : Int := 5
    ∃ s, MoveRow tokenCodec tallyKeyspace index 2 s₀ = .ok () s ∧
      s.rr.row = { s₀.rr.row with num := index } ∧ s.rr.maxCol = s₀.rr.maxCol ∧
      s.server.hashes (tallyKeyspace.makeSheetRowsStore s₀.rr.row.Sheet.Name) (toString index) =
        some (encodeRow tokenCodec { s₀.rr.row with num := index } s₀.rr.maxCol) ∧
      s.server.hashes (tallyKeyspace.makeSheetRowsStore s₀.rr.row.Sheet.Name)
        (tallyKeyspace.makeRowNum s₀.rr.row.num) = none ∧
      (∀ field, field ≠ toString index → field ≠ tallyKeyspace.makeRowNum s₀.rr.row.num →
        s.server.hashes (tallyKeyspace.makeSheetRowsStore s₀.rr.row.Sheet.Name) field =
          s₀.server.hashes (tallyKeyspace.makeSheetRowsStore s₀.rr.row.Sheet.Name) field) ∧
      ∀ k, 0 ≤ k → k ≤ s₀.rr.maxCol → tokenCodec.Modified ((abstractRow tokenCodec tallyKeyspace s₀).view k) = true →
        s.server.hashes (tallyKeyspace.makeCellKeyPrefix s₀.rr.row.Sheet.Name k) (toString index) =
          some (encodeCell tokenCodec (some ((abstractRow tokenCodec tallyKeyspace s₀).view k))) := by
  intro sheet st₀ ops s₀ index
  have cellOps : ∀ op ∈ ops, op.IsCellOp := by
    simp only [ops, List.mem_cons, List.mem_singleton, List.not_mem_nil, or_false, forall_eq_or_imp, forall_eq]
    exact ⟨trivial, fun _ => rfl, trivial, fun _ => rfl, trivial⟩
  have moved : Refines tokenCodec tallyKeyspace st₀ (ops.foldl HotRow.step (abstractRow tokenCodec tallyKeyspace st₀)) s₀ :=
    RowOp.forM_finalState (by exact .of_empty rfl fun _ => rfl) (fun _ => rfl) ops cellOps
  obtain ⟨maxCol, first, second, free, distinct⟩ : s₀.rr.maxCol = 1 ∧
      (rowRecords tallyKeyspace s₀.server s₀.rr.row 0).isSome ∧ (rowRecords tallyKeyspace s₀.server s₀.rr.row 1).isSome ∧
      (s₀.server.hashes (tallyKeyspace.makeSheetRowsStore s₀.rr.row.Sheet.Name) (toString index)).isNone ∧
      toString index ≠ tallyKeyspace.makeRowNum s₀.rr.row.num := by
    simp only [s₀, ops, List.forM]
    decide
  exact MoveRow_relocates_row moved.inv (moved.reliable fun _ => rfl)
    (fun k low high => by
      obtain rfl | rfl : k = 0 ∨ k = 1 := by omega
      exacts [.inl (Option.ne_none_iff_isSome.mpr first), .inl (Option.ne_none_iff_isSome.mpr second)])
    (Option.isNone_iff_eq_none.mp free) distinct 2 (by rw [maxCol]; decide)

end Relocate

end Xlsx
