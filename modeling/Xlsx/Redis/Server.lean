import Xlsx.Redis.Codec
import Mathlib.Data.String.Basic

namespace Xlsx

/-- The Redis server: each hash maps fields to values and each sorted set lists its members
with their scores. A key that holds nothing reads as empty. -/
structure Server (Byte : Type) where
  hashes : String → String → Option (List Byte) := fun _ _ => none
  zsets : String → List (String × Int) := fun _ => []

/-- The key names of the store. `makeSheetRowsStore`, `makeSheetCellsStore`,
`Row.makeCellKeyPrefix`, `Row.makeRowNum` and `Row.key` are not under `src/`; the cell
hash depends on the sheet and the column only, as §4.5 describes it, different columns of a
sheet get different cell hashes, and none of them is the sheet's rows hash. -/
structure Keyspace where
  makeSheetRowsStore : String → String
  makeSheetCellsStore : String → String
  makeCellKeyPrefix : String → Int → String
  makeRowNum : Int → String
  key : String → Int → String
  makeCellKeyPrefix_injective : ∀ sheetName, Function.Injective (makeCellKeyPrefix sheetName)
  makeSheetRowsStore_ne : ∀ sheetName col, makeSheetRowsStore sheetName ≠ makeCellKeyPrefix sheetName col

def tally (col : Int) : String :=
  ⟨List.replicate col.toNat '+' ++ List.replicate (-col).toNat '-'⟩

theorem tally_injective : Function.Injective tally := by
  intro col col' same
  have plus := congrArg (fun s : String => s.data.count '+') same
  have minus := congrArg (fun s : String => s.data.count '-') same
  simp [tally, List.count_replicate] at plus minus
  omega

/-- A keyspace to run the store on fixed inputs: the names of `row.go` are not under `src/`,
and the results need only that columns get their own keys. -/
def tallyKeyspace : Keyspace where
  makeSheetRowsStore sheetName := sheetName ++ "#rows"
  makeSheetCellsStore sheetName := sheetName ++ "#cells"
  makeCellKeyPrefix sheetName col := sheetName ++ ":" ++ tally col
  makeRowNum num := toString num
  key sheetName num := sheetName ++ ":" ++ toString num
  makeCellKeyPrefix_injective sheetName col col' same := by
    apply tally_injective
    simpa only [String.append_assoc, String.ext_iff, String.data_append, List.append_cancel_left_eq] using same
  makeSheetRowsStore_ne sheetName col same := by
    simp only [String.append_assoc, String.ext_iff, String.data_append, List.append_cancel_left_eq] at same
    cases same

/-- The errors and panics of the store. -/
inductive StoreError
  /-- An I/O failure of the Redis client. -/
  | backend
  /-- An error reply of the Redis server. -/
  | reply (message : String)
  /-- A reader of `lib.go` failed on a stored record. -/
  | malformed
  | rowNotFound (key reason : String)
  /-- "Target index for row (%d) would overwrite a row already exists". -/
  | overwrite (index : Int)
  /-- The error a caller's visitor returned. -/
  | visitor (reason : String)
  /-- `setCurrentCell` panics with the error of its write-back. -/
  | panic (cause : StoreError)
  | nilDereference
  /-- A loop of `ForEachCell` ran past the iterations it was given. -/
  | outOfFuel

structure RedisRow (DV RT : Type) where
  row : Row
  maxCol : Int
  currentCell : Option (Cell DV RT)

/-- The server, the row being worked on, and the clock the fault oracle reads: the command
issued at tick `n` fails when `faults n` holds. The store's `sheetName` is recorded by the
first of `MakeRow`, `ReadRow`, `MoveRow` and `WriteRow` to see a sheet; `clientClosed` tells
whether `client.Close` has been called. -/
structure Session (Byte DV RT : Type) where
  server : Server Byte
  rr : RedisRow DV RT
  clock : Nat := 0
  faults : Nat → Bool := fun _ => false
  sheetName : String := ""
  clientClosed : Bool := false

abbrev RowM (Byte DV RT : Type) := EStateM StoreError (Session Byte DV RT)

section Triples

variable {ε σ α β : Type}

def finalState : EStateM.Result ε σ α → σ
  | .ok _ s => s
  | .error _ s => s

def returned : EStateM.Result ε σ α → Option α
  | .ok a _ => some a
  | .error _ _ => none

theorem eq_ok_of_returned {r : EStateM.Result ε σ α} {a : α} (ran : returned r = some a) :
    r = .ok a (finalState r) := by
  cases r with
  | ok b s => cases ran; rfl
  | error => cases ran

/-- A run of `x` from a state satisfying `P` returns a value and a state satisfying `Q`, or
throws in a state satisfying `E`. -/
def Triple (P : σ → Prop) (x : EStateM ε σ α) (Q : α → σ → Prop) (E : σ → Prop) : Prop :=
  ∀ s, P s → match x s with
    | .ok a s' => Q a s'
    | .error _ s' => E s'

/-- Every run of `x` from a state satisfying `Inv` ends in one satisfying it. -/
abbrev Keeps (Inv : σ → Prop) (x : EStateM ε σ α) : Prop := Triple Inv x (fun _ => Inv) Inv

variable {P P' R E E' : σ → Prop} {Q Q' : α → σ → Prop}

theorem Keeps.finalState {Inv : σ → Prop} {x : EStateM ε σ α} (kept : Keeps Inv x) (s : σ) (inv : Inv s) :
    Inv (Xlsx.finalState (x s)) := by
  have kept := kept s inv
  revert kept
  cases x s <;> exact id

theorem Keeps.pure {Inv : σ → Prop} (a : α) : Keeps Inv (Pure.pure a : EStateM ε σ α) :=
  fun _ inv => inv

theorem Keeps.throw {Inv : σ → Prop} (e : ε) : Keeps Inv (throw e : EStateM ε σ α) :=
  fun _ inv => inv

theorem Keeps.const (p : Prop) (x : EStateM ε σ α) : Keeps (fun _ => p) x := fun s holds => by
  cases x s <;> exact holds

theorem Triple.get_bind {f : σ → EStateM ε σ β} {R : β → σ → Prop} (rest : ∀ s, P s → Triple P (f s) R E) :
    Triple P (MonadState.get >>= f) R E :=
  fun s pre => rest s pre s pre

theorem Triple.pure (a : α) (post : ∀ s, P s → Q a s) : Triple P (Pure.pure a : EStateM ε σ α) Q E :=
  post

theorem Triple.throw (e : ε) (post : ∀ s, P s → E s) : Triple P (throw e : EStateM ε σ α) Q E :=
  post

theorem Triple.get {Q : σ → σ → Prop} (post : ∀ s, P s → Q s s) : Triple P (MonadState.get : EStateM ε σ σ) Q E :=
  post

theorem Triple.modify (f : σ → σ) {Q : Unit → σ → Prop} (post : ∀ s, P s → Q () (f s)) :
    Triple P (modify f : EStateM ε σ Unit) Q E :=
  post

theorem Triple.bind {x : EStateM ε σ α} {f : α → EStateM ε σ β} {R : β → σ → Prop}
    (first : Triple P x Q E) (rest : ∀ a, Triple (Q a) (f a) R E) : Triple P (x >>= f) R E := by
  intro s pre
  have first := first s pre
  show match (match x s with | .ok a s => f a s | .error e s => .error e s) with
    | .ok b s' => R b s' | .error _ s' => E s'
  revert first
  cases x s with
  | ok a s' => exact rest a s'
  | error e s' => exact id

theorem Triple.tryCatch {x : EStateM ε σ α} {handle : ε → EStateM ε σ α} (first : Triple P x Q E')
    (handled : ∀ e, Triple E' (handle e) Q E) : Triple P (tryCatch x handle) Q E := by
  intro s pre
  have first := first s pre
  show match EStateM.tryCatch x handle s with | .ok a s' => Q a s' | .error _ s' => E s'
  unfold EStateM.tryCatch
  revert first
  cases x s with
  | ok a s' => exact id
  | error e s' => exact handled e s'

theorem Triple.observing {x : EStateM ε σ α} (triple : Triple P x Q E) :
    Triple P (observing x) (fun r s => match r with | .ok a => Q a s | .error _ => E s) E' :=
  Triple.tryCatch (Triple.bind triple fun _ => Triple.pure _ fun _ post => post) fun _ => Triple.pure _ fun _ err => err

theorem Triple.mono {x : EStateM ε σ α} (triple : Triple P x Q E) (pre : ∀ s, P' s → P s)
    (post : ∀ a s, Q a s → Q' a s) (error : ∀ s, E s → E' s) : Triple P' x Q' E' := by
  intro s holds
  have triple := triple s (pre s holds)
  revert triple
  cases x s with
  | ok a s' => exact post a s'
  | error e s' => exact error s'

theorem Triple.const {p : Prop} (x : EStateM ε σ α) (holds : ∀ s, P s → p) : Triple P x (fun _ _ => p) (fun _ => True) :=
  Triple.mono (Keeps.const p x) holds (fun _ _ kept => kept) fun _ _ => trivial

theorem Triple.returns {x : EStateM ε σ α} {s : σ} {Q : α → σ → Prop}
    (triple : Triple (· = s) x Q (fun _ => False)) : ∃ a s', x s = .ok a s' ∧ Q a s' := by
  have post := triple s rfl
  revert post
  cases x s with
  | ok a s' => exact fun post => ⟨a, s', rfl, post⟩
  | error _ _ => exact False.elim

theorem Triple.of_eq_and {x : EStateM ε σ α} {s : σ} {p : Prop} (triple : p → Triple (· = s) x Q E) :
    Triple (fun st => st = s ∧ p) x Q E :=
  fun st pre => triple pre.2 st pre.1

end Triples

section Commands

variable {Byte DV RT α : Type}

/-- One round trip to the server. A failed command leaves the server as it was. -/
def command (act : Server Byte → α × Server Byte) : RowM Byte DV RT α := fun st =>
  if st.faults st.clock then .error .backend { st with clock := st.clock + 1 }
  else .ok (act st.server).1 { st with server := (act st.server).2, clock := st.clock + 1 }

theorem Triple.command {P E : Session Byte DV RT → Prop} {Q : α → Session Byte DV RT → Prop}
    {act : Server Byte → α × Server Byte}
    (ok : ∀ st, P st → Q (act st.server).1 { st with server := (act st.server).2, clock := st.clock + 1 })
    (failed : ∀ st, P st → E { st with clock := st.clock + 1 }) : Triple P (command act) Q E := by
  intro st pre
  by_cases faulty : st.faults st.clock
  · simp only [Xlsx.command, faulty, if_true]
    exact failed st pre
  · simp only [Xlsx.command, faulty, if_false]
    exact ok st pre

theorem Keeps.command (I : RedisRow DV RT → Server Byte → Prop) {act : Server Byte → α × Server Byte}
    (kept : ∀ rr server, I rr server → I rr (act server).2) :
    Keeps (fun st : Session Byte DV RT => I st.rr st.server) (command act) :=
  Triple.command (fun st pre => kept st.rr st.server pre) fun _ pre => pre

theorem Triple.command_up {P E : Session Byte DV RT → Prop} {Q : α → Session Byte DV RT → Prop}
    {act : Server Byte → α × Server Byte}
    (ok : ∀ st, P st → Q (act st.server).1 { st with server := (act st.server).2, clock := st.clock + 1 }) :
    Triple (fun st => P st ∧ st.faults st.clock = false) (Xlsx.command act) Q E := by
  intro st ⟨pre, up⟩
  simp only [Xlsx.command, up, Bool.false_eq_true, if_false]
  exact ok st pre

theorem Triple.command_answered {P E : Session Byte DV RT → Prop} {Q : α → Session Byte DV RT → Prop}
    {act : Server Byte → α × Server Byte} (answered : ∀ st, P st → st.faults st.clock = false)
    (ok : ∀ st, P st → Q (act st.server).1 { st with server := (act st.server).2, clock := st.clock + 1 }) :
    Triple P (Xlsx.command act) Q E :=
  Triple.mono (Triple.command_up ok) (fun st pre => ⟨pre, answered st pre⟩) (fun _ _ post => post) fun _ e => e

def HGET (key field : String) : RowM Byte DV RT (Option (List Byte)) :=
  command fun server => (server.hashes key field, server)

def Server.hset (server : Server Byte) (key field : String) (value : Option (List Byte)) : Server Byte :=
  { server with hashes := Function.update server.hashes key (Function.update (server.hashes key) field value) }

def HSET (key field : String) (value : List Byte) : RowM Byte DV RT Unit :=
  command fun server => ((), server.hset key field (some value))

def HDEL (key field : String) : RowM Byte DV RT Unit :=
  command fun server => ((), server.hset key field none)

def Server.zadd (server : Server Byte) (key : String) (score : Int) (member : String) : Server Byte :=
  { server with zsets := Function.update server.zsets key ((member, score) :: (server.zsets key).filter (·.1 != member)) }

/-- `ZADD key score member`: the member is listed once, with the new score. -/
def ZADD (key : String) (score : Int) (member : String) : RowM Byte DV RT Unit :=
  command fun server => ((), server.zadd key score member)

/-- `ZRANGE key 0 -1`: the members by score, ties by name. -/
def ZRANGE (key : String) : RowM Byte DV RT (List String) :=
  command fun server =>
    (((server.zsets key).mergeSort fun a b => a.2 < b.2 || (a.2 == b.2 && decide (a.1 ≤ b.1))).map (·.1), server)

def Server.del (server : Server Byte) (keys : List String) : Server Byte where
  hashes key := if key ∈ keys then fun _ => none else server.hashes key
  zsets key := if key ∈ keys then [] else server.zsets key

/-- `DEL key...`: the keys hold nothing afterwards. The server rejects a `DEL` without a key. -/
def DEL : List String → RowM Byte DV RT Unit
  | [] => fun st => .error (.reply "ERR wrong number of arguments for 'del' command") { st with clock := st.clock + 1 }
  | keys => command fun server => ((), server.del keys)

/-- Modelled from the spec: `client.Close` of the Redis client (not under `src/`) releases the
connection; the model records that it was called. -/
def closeClient : RowM Byte DV RT Unit :=
  modify fun st => { st with clientClosed := true }

@[simp] theorem Server.hset_hashes_self (server : Server Byte) (key field : String) (value : Option (List Byte)) :
    (server.hset key field value).hashes key field = value := by
  simp [Server.hset]

theorem Server.hset_hashes_ne (server : Server Byte) {key field key' field' : String} (value : Option (List Byte))
    (other : key' ≠ key ∨ field' ≠ field) : (server.hset key field value).hashes key' field' = server.hashes key' field' := by
  rcases other with other | other
  · simp [Server.hset, other]
  · by_cases same : key' = key
    · subst same
      simp [Server.hset, other]
    · simp [Server.hset, same]

theorem Server.hset_hashes (server : Server Byte) (key field : String) (value : Option (List Byte)) (key' field' : String) :
    (server.hset key field value).hashes key' field' = if key' = key ∧ field' = field then value else server.hashes key' field' := by
  split
  · next same => rw [same.1, same.2, Server.hset_hashes_self]
  · next other => exact server.hset_hashes_ne value (not_and_or.mp other)

@[simp] theorem Server.zadd_hashes (server : Server Byte) (key : String) (score : Int) (member : String) :
    (server.zadd key score member).hashes = server.hashes :=
  rfl

theorem Server.mem_zadd (server : Server Byte) (key : String) (score : Int) (member : String) (pair : String × Int) :
    pair ∈ (server.zadd key score member).zsets key ↔ pair = (member, score) ∨ pair ∈ server.zsets key ∧ pair.1 ≠ member := by
  simp [Server.zadd]

@[simp] theorem Server.hset_zsets (server : Server Byte) (key field : String) (value : Option (List Byte)) :
    (server.hset key field value).zsets = server.zsets :=
  rfl

@[simp] theorem Server.del_hashes (server : Server Byte) (keys : List String) (key field : String) :
    (server.del keys).hashes key field = if key ∈ keys then none else server.hashes key field := by
  simp only [Server.del]
  split <;> rfl

@[simp] theorem Server.del_zsets (server : Server Byte) (keys : List String) (key : String) :
    (server.del keys).zsets key = if key ∈ keys then [] else server.zsets key :=
  rfl

theorem Triple.DEL {P E : Session Byte DV RT → Prop} {Q : Unit → Session Byte DV RT → Prop} {keys : List String}
    (ok : ∀ st, P st → Q () { st with server := st.server.del keys, clock := st.clock + 1 })
    (failed : ∀ st, P st → E { st with clock := st.clock + 1 }) : Triple P (DEL keys) Q E := by
  cases keys with
  | nil => exact failed
  | cons key keys =>
    show Triple P (Xlsx.command fun server => ((), server.del (key :: keys))) Q E
    exact Triple.command ok failed

end Commands

end Xlsx
