import Xlsx.Style.Types

namespace Xlsx

/-- A primitive reader and writer of `lib.go`, which is not under `src/`, over a byte
alphabet: the reader gives back what the writer wrote and consumes exactly its bytes, and fails
on an empty input, as a read from an exhausted `bytes.Reader` does. -/
structure Codec (Byte α : Type) where
  write : α → List Byte
  read : List Byte → Option (α × List Byte)
  read_write : ∀ a rest, read (write a ++ rest) = some (a, rest)
  read_nil : read [] = none

attribute [simp] Codec.read_write

structure Hyperlink where
  DisplayString : String := ""
  Link : String := ""
  Tooltip : String := ""

structure Sheet where
  Name : String := ""
  MaxCol : Int := 0

structure Row where
  Hidden : Bool := false
  height : Float := 0
  outlineLevel : UInt8 := 0
  isCustom : Bool := false
  num : Int := 0
  Sheet : Sheet := {}

/-- The `Cell` of `cell.go` with its `Row` link, the fields the record holds and the `modified`
flag; `DV` and `RT` are the data-validation and rich-text-run types, handled only by their codecs.
The link, a pointer in Go, is kept here as a copy of the row; the record does not hold it. -/
structure Cell (DV RT : Type) where
  Row : Option Row := none
  Value : String := ""
  formula : String := ""
  style : Option Style := none
  NumFmt : String := ""
  date1904 : Bool := false
  Hidden : Bool := false
  HMerge : Int := 0
  VMerge : Int := 0
  cellType : Int := 0
  DataValidation : Option DV := none
  Hyperlink : Hyperlink := {}
  num : Int := 0
  RichText : List RT := []
  modified : Bool := false

/-- What the store takes from the files of the package that are not under `src/`: the
primitives of `lib.go` its row and cell records are written with, and `Cell.Modified` of
`cell.go`. Of `Modified` the store relies on one thing, that a cell its setters marked counts as
modified; what else counts (a cell read back with a value does) is left to the field. -/
structure CellCodec (Byte DV RT : Type) where
  bool : Codec Byte Bool
  string : Codec Byte String
  int : Codec Byte Int
  float : Codec Byte Float
  richText : Codec Byte (List RT)
  style : Codec Byte Style
  dataValidation : Codec Byte DV
  endOfRecord : Codec Byte Unit
  Modified : Cell DV RT → Bool
  Modified_of_marked : ∀ c : Cell DV RT, c.modified = true → Modified c = true

/-- A reader of a record: it takes values off the front of the bytes and fails on a short or
malformed record. The bind is kept out of line: the decoders chain twenty reads. -/
def Decoder (Byte α : Type) := List Byte → Option (α × List Byte)

@[noinline] protected def Decoder.bind {Byte α β : Type} (x : Decoder Byte α) (f : α → Decoder Byte β) :
    Decoder Byte β := fun bytes =>
  match x bytes with
  | some (a, rest) => f a rest
  | none => none

instance {Byte : Type} : Monad (Decoder Byte) where
  pure a := fun bytes => some (a, bytes)
  bind := Decoder.bind

def Codec.get {Byte α : Type} (codec : Codec Byte α) : Decoder Byte α := codec.read

def Codec.getIf {Byte α : Type} (codec : Codec Byte α) : Bool → Decoder Byte (Option α)
  | true => do return some (← codec.get)
  | false => pure none

@[simp] theorem Decoder.pure_apply {Byte α : Type} (a : α) (bytes : List Byte) :
    (pure a : Decoder Byte α) bytes = some (a, bytes) :=
  rfl

@[simp] theorem Decoder.pure_bind {Byte α β : Type} (a : α) (f : α → Decoder Byte β) :
    (pure a >>= f) = f a :=
  rfl

@[simp] theorem Decoder.bind_assoc {Byte α β γ : Type} (x : Decoder Byte α) (f : α → Decoder Byte β)
    (g : β → Decoder Byte γ) : x >>= f >>= g = x >>= fun a => f a >>= g := by
  funext bytes
  show Decoder.bind (Decoder.bind x f) g bytes = Decoder.bind x (fun a => Decoder.bind (f a) g) bytes
  unfold Decoder.bind
  rcases x bytes with _ | ⟨a, rest⟩ <;> rfl

theorem Decoder.bind_some {Byte α β : Type} {x : Decoder Byte α} {f : α → Decoder Byte β} {bytes : List Byte}
    {result : β × List Byte} (h : (x >>= f) bytes = some result) :
    ∃ a rest, x bytes = some (a, rest) ∧ f a rest = some result := by
  change Decoder.bind x f bytes = some result at h
  unfold Decoder.bind at h
  split at h
  · exact ⟨_, _, ‹_›, h⟩
  · cases h

@[simp] theorem Codec.get_bind_write {Byte α β : Type} (codec : Codec Byte α) (f : α → Decoder Byte β)
    (a : α) (rest : List Byte) : (codec.get >>= f) (codec.write a ++ rest) = f a rest := by
  show Decoder.bind codec.read f (codec.write a ++ rest) = f a rest
  simp [Decoder.bind]

@[simp] theorem Codec.getIf_bind_write {Byte α β : Type} (codec : Codec Byte α) (f : Option α → Decoder Byte β)
    (a : Option α) (rest : List Byte) : (codec.getIf a.isSome >>= f) ((a.map codec.write).getD [] ++ rest) = f a rest := by
  cases a <;> simp [Codec.getIf]

variable {Byte DV RT : Type} (codec : CellCodec Byte DV RT)

/-- The bytes `RedisRow.writeCell` puts in its buffer. -/
def encodeCell : Option (Cell DV RT) → List Byte
  | none => codec.bool.write true ++ codec.endOfRecord.write ()
  | some c =>
    codec.bool.write false ++ codec.string.write c.Value ++ codec.string.write c.formula ++
      codec.bool.write c.style.isSome ++ codec.string.write c.NumFmt ++ codec.bool.write c.date1904 ++
      codec.bool.write c.Hidden ++ codec.int.write c.HMerge ++ codec.int.write c.VMerge ++
      codec.int.write c.cellType ++ codec.bool.write c.DataValidation.isSome ++
      codec.string.write c.Hyperlink.DisplayString ++ codec.string.write c.Hyperlink.Link ++
      codec.string.write c.Hyperlink.Tooltip ++ codec.int.write c.num ++ codec.richText.write c.RichText ++
      codec.endOfRecord.write () ++ (c.style.map codec.style.write).getD [] ++
      (c.DataValidation.map codec.dataValidation.write).getD []

/-- The fields of a cell record after its nil flag, then its optional style and
data-validation sub-records. -/
def decodeCellFields : Decoder Byte (Cell DV RT) := do
  let Value ← codec.string.get
  let formula ← codec.string.get
  let hasStyle ← codec.bool.get
  let NumFmt ← codec.string.get
  let date1904 ← codec.bool.get
  let Hidden ← codec.bool.get
  let HMerge ← codec.int.get
  let VMerge ← codec.int.get
  let cellType ← codec.int.get
  let hasDataValidation ← codec.bool.get
  let DisplayString ← codec.string.get
  let Link ← codec.string.get
  let Tooltip ← codec.string.get
  let num ← codec.int.get
  let RichText ← codec.richText.get
  codec.endOfRecord.get
  let style ← codec.style.getIf hasStyle
  let DataValidation ← codec.dataValidation.getIf hasDataValidation
  return { Value := Value, formula := formula, style := style, NumFmt := NumFmt, date1904 := date1904,
           Hidden := Hidden, HMerge := HMerge, VMerge := VMerge, cellType := cellType,
           DataValidation := DataValidation, num := num, RichText := RichText,
           Hyperlink := { DisplayString := DisplayString, Link := Link, Tooltip := Tooltip } }

/-- The field sequence of `RedisRow.readCell` after its `HGET`. -/
def decodeCell : Decoder Byte (Option (Cell DV RT)) := do
  if ← codec.bool.get then
    codec.endOfRecord.get
    return none
  else
    return some (← decodeCellFields codec)

theorem decodeCellFields_fresh {bytes rest : List Byte} {c : Cell DV RT}
    (decoded : decodeCellFields codec bytes = some (c, rest)) : c.modified = false ∧ c.Row = none := by
  unfold decodeCellFields at decoded
  iterate 18 obtain ⟨_, _, -, decoded⟩ := Decoder.bind_some decoded
  cases decoded
  exact ⟨rfl, rfl⟩

theorem decodeCell_nil : decodeCell codec [] = none := by
  show Decoder.bind codec.bool.read _ [] = none
  simp only [Decoder.bind, codec.bool.read_nil]

theorem decodeCell_fresh {bytes rest : List Byte} {c : Cell DV RT}
    (decoded : decodeCell codec bytes = some (some c, rest)) : c.modified = false ∧ c.Row = none := by
  unfold decodeCell at decoded
  obtain ⟨cellIsNil, _, -, decoded⟩ := Decoder.bind_some decoded
  cases cellIsNil
  · obtain ⟨_, _, fields, decoded⟩ := Decoder.bind_some decoded
    cases decoded
    exact decodeCellFields_fresh codec fields
  · obtain ⟨_, _, -, decoded⟩ := Decoder.bind_some decoded
    cases decoded

/-- Modelled from the spec: `writeRow` (not under `src/`) writes the row record of §4.5,
hidden flag, height, outline level, custom-height flag, row number and max column, then
the end-of-record marker, in the order `readRedisRow` reads them. -/
def encodeRow (row : Row) (maxCol : Int) : List Byte :=
  codec.bool.write row.Hidden ++ codec.float.write row.height ++ codec.int.write row.outlineLevel.toNat ++
    codec.bool.write row.isCustom ++ codec.int.write row.num ++ codec.int.write maxCol ++
    codec.endOfRecord.write ()

/-- `readRedisRow`: the row's scalar fields and its max column. `uint8(outlineLevel)` keeps
the low eight bits. -/
def decodeRow : Decoder Byte (Row × Int) := do
  let Hidden ← codec.bool.get
  let height ← codec.float.get
  let outlineLevel ← codec.int.get
  let isCustom ← codec.bool.get
  let num ← codec.int.get
  let maxCol ← codec.int.get
  codec.endOfRecord.get
  return ({ Hidden, height, outlineLevel := UInt8.ofNat (outlineLevel % 256).toNat, isCustom, num }, maxCol)

/-- Cell record round trip: decoding the bytes `writeCell` buffers gives back the cell, or
nil, with every field the record holds, unmodified and with no row link, and consumes exactly
those bytes. -/
theorem decodeCell_encodeCell (cell : Option (Cell DV RT)) (rest : List Byte) :
    decodeCell codec (encodeCell codec cell ++ rest) =
      some (cell.map fun c => { c with modified := false, Row := none }, rest) := by
  rcases cell with _ | c
  · simp only [encodeCell, decodeCell, List.append_assoc, Codec.get_bind_write, Decoder.bind_assoc, ite_true,
      Decoder.pure_bind, Decoder.pure_apply, Option.map_none']
  · simp only [encodeCell, decodeCell, decodeCellFields, List.append_assoc, Codec.getIf_bind_write,
      Codec.get_bind_write, Decoder.bind_assoc, Bool.false_eq_true, ite_false, Decoder.pure_bind, Decoder.pure_apply,
      Option.map_some']

/-- A byte alphabet in which every value is one token, to run the readers and writers on fixed
inputs. -/
inductive Token (DV RT : Type)
  | bool (b : Bool)
  | string (s : String)
  | int (i : Int)
  | float (f : Float)
  | richText (runs : List RT)
  | style (s : Style)
  | dataValidation (dv : DV)
  | endOfRecord

/-- Primitives that write one token and read it back; a cell counts as modified when its setters
marked it or it holds a value, as a cell read back with a value does. -/
def tokenCodec : CellCodec (Token DV RT) DV RT where
  bool := ⟨fun b => [.bool b], fun | .bool b :: rest => some (b, rest) | _ => none, fun _ _ => rfl, rfl⟩
  string := ⟨fun s => [.string s], fun | .string s :: rest => some (s, rest) | _ => none, fun _ _ => rfl, rfl⟩
  int := ⟨fun i => [.int i], fun | .int i :: rest => some (i, rest) | _ => none, fun _ _ => rfl, rfl⟩
  float := ⟨fun f => [.float f], fun | .float f :: rest => some (f, rest) | _ => none, fun _ _ => rfl, rfl⟩
  richText := ⟨fun runs => [.richText runs], fun | .richText runs :: rest => some (runs, rest) | _ => none,
    fun _ _ => rfl, rfl⟩
  style := ⟨fun s => [.style s], fun | .style s :: rest => some (s, rest) | _ => none, fun _ _ => rfl, rfl⟩
  dataValidation := ⟨fun dv => [.dataValidation dv], fun | .dataValidation dv :: rest => some (dv, rest) | _ => none,
    fun _ _ => rfl, rfl⟩
  endOfRecord := ⟨fun _ => [.endOfRecord], fun | .endOfRecord :: rest => some ((), rest) | _ => none, fun _ _ => rfl,
    rfl⟩
  Modified c := c.modified || c.Value != ""
  Modified_of_marked c marked := show (c.modified || _) = true by rw [marked, Bool.true_or]

theorem outlineLevel_round_trip (outlineLevel : UInt8) :
    UInt8.ofNat (((outlineLevel.toNat : Int) % 256).toNat) = outlineLevel := by
  have bound : outlineLevel.toNat < 256 := outlineLevel.toNat_lt_size
  have same : ((outlineLevel.toNat : Int) % 256).toNat = outlineLevel.toNat := by omega
  apply UInt8.toNat.inj
  rw [same, UInt8.toNat_ofNat_of_lt bound]

theorem decodeRow_encodeRow (row : Row) (maxCol : Int) (rest : List Byte) :
    decodeRow codec (encodeRow codec row maxCol ++ rest) = some (({ row with Sheet := {} }, maxCol), rest) := by
  simp [encodeRow, decodeRow, List.append_assoc, outlineLevel_round_trip]

end Xlsx
