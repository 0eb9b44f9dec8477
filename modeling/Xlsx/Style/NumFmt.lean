import Xlsx.Style.Intern

namespace Xlsx

variable {Parsed : Type}

/-- Excel styles can reference number formats that are built-in, all of which have an id
less than 164. -/
def builtinNumFmtsCount : Int := 163

def builtInNumFmt : List (Int × String) :=
  [(0, "general"), (1, "0"), (2, "0.00"), (3, "#,##0"), (4, "#,##0.00"), (9, "0%"),
   (10, "0.00%"), (11, "0.00e+00"), (12, "# ?/?"), (13, "# ??/??"), (14, "mm-dd-yy"),
   (15, "d-mmm-yy"), (16, "d-mmm"), (17, "mmm-yy"), (18, "h:mm am/pm"), (19, "h:mm:ss am/pm"),
   (20, "h:mm"), (21, "h:mm:ss"), (22, "m/d/yy h:mm"), (37, "#,##0 ;(#,##0)"),
   (38, "#,##0 ;[red](#,##0)"), (39, "#,##0.00;(#,##0.00)"), (40, "#,##0.00;[red](#,##0.00)"),
   (41, "_(* #,##0_);_(* \\(#,##0\\);_(* \"-\"_);_(@_)"),
   (42, "_(\"$\"* #,##0_);_(\"$* \\(#,##0\\);_(\"$\"* \"-\"_);_(@_)"),
   (43, "_(* #,##0.00_);_(* \\(#,##0.00\\);_(* \"-\"??_);_(@_)"),
   (44, "_(\"$\"* #,##0.00_);_(\"$\"* \\(#,##0.00\\);_(\"$\"* \"-\"??_);_(@_)"),
   (45, "mm:ss"), (46, "[h]:mm:ss"), (47, "mmss.0"), (48, "##0.0e+0"), (49, "@")]

theorem builtInNumFmt_codes_nodup : (builtInNumFmt.map Prod.snd).Nodup := by
  decide

theorem builtInNumFmt_ids_lt {numFmtId : Int} {code : String}
    (member : (numFmtId, code) ∈ builtInNumFmt) : numFmtId ≤ 49 := by
  simp only [builtInNumFmt, List.mem_cons, Prod.mk.injEq, List.mem_nil_iff, or_false] at member
  omega

def builtInNumFmtInv (formatCode : String) : Option Int :=
  (builtInNumFmt.find? (·.2 == formatCode)).map (·.1)

def getBuiltinNumberFormat (numFmtId : Int) : String :=
  (builtInNumFmt.lookup numFmtId).getD ""

theorem builtInNumFmt_lookup : ∀ entry ∈ builtInNumFmt,
    getBuiltinNumberFormat entry.1 = entry.2 ∧ entry.2 ≠ "" := by
  decide

theorem getBuiltinNumberFormat_of_custom {numFmtId : Int} (custom : builtinNumFmtsCount < numFmtId) :
    getBuiltinNumberFormat numFmtId = "" := by
  have absent : builtInNumFmt.lookup numFmtId = none := by
    rw [List.lookup_eq_none_iff]
    rintro ⟨id, code⟩ member
    have bound := builtInNumFmt_ids_lt member
    simp only [builtinNumFmtsCount] at custom
    simp only [bne_iff_ne, ne_eq]
    omega
  simp [getBuiltinNumberFormat, absent]

theorem builtInNumFmtInv_of_mem {numFmtId : Int} {formatCode : String}
    (member : (numFmtId, formatCode) ∈ builtInNumFmt) : builtInNumFmtInv formatCode = some numFmtId := by
  obtain ⟨entry, found⟩ : ∃ entry, builtInNumFmt.find? (·.2 == formatCode) = some entry :=
    Option.isSome_iff_exists.mp (List.find?_isSome.mpr ⟨_, member, by simp⟩)
  have same : entry = (numFmtId, formatCode) :=
    List.inj_on_of_nodup_map builtInNumFmt_codes_nodup (List.mem_of_find?_eq_some found) member
      (by simpa using List.find?_some found)
  simp [builtInNumFmtInv, found, same]

theorem builtInNumFmtInv_of_not_mem {formatCode : String}
    (custom : formatCode ∉ builtInNumFmt.map Prod.snd) : builtInNumFmtInv formatCode = none := by
  simp only [builtInNumFmtInv, Option.map_eq_none', List.find?_eq_none, beq_iff_eq]
  intro entry member same
  exact custom (List.mem_map.mpr ⟨entry, member, same⟩)

theorem mem_of_builtInNumFmtInv {numFmtId : Int} {formatCode : String}
    (builtin : builtInNumFmtInv formatCode = some numFmtId) : (numFmtId, formatCode) ∈ builtInNumFmt := by
  obtain ⟨entry, found, rfl⟩ := Option.map_eq_some'.mp builtin
  have code : entry.2 = formatCode := by simpa using List.find?_some found
  rw [← code]
  exact List.mem_of_find?_eq_some found

/-- Modelled from the spec: `compareFormatString` (in `format_code.go`, not under `src/`)
compares format codes after case normalisation, "if code case-normalizes to general". -/
def compareFormatString (fmt1 fmt2 : String) : Bool := fmt1.toLower == fmt2.toLower

def refLookup (styles : xlsxStyleSheet Parsed) (numFmtId : Int) : Option xlsxNumFmt :=
  styles.numFmtRefTable.bind (·.lookup numFmtId)

def refKeys (table : Option NumFmtRefTable) : List Int := (table.map AList.keys).getD []

theorem le_foldr_max {ids : List Int} {id : Int} (member : id ∈ ids) : id ≤ ids.foldr max 0 := by
  induction ids with
  | nil => cases member
  | cons head tail ih =>
    rcases List.mem_cons.mp member with rfl | later
    · exact le_max_left _ _
    · exact (ih later).trans (le_max_right _ _)

theorem mem_refKeys {table : Option NumFmtRefTable} {numFmtId : Int}
    (present : (table.bind (·.lookup numFmtId)).isSome) : numFmtId ∈ refKeys table := by
  cases table with
  | none => cases present
  | some table => simpa [refKeys, AList.mem_keys] using AList.lookup_isSome.mp present

/-- The upward scan of `newNumFmt` for an id `numFmtRefTable` does not hold. It stops: every
id it skips is a key of the finite table. -/
def unusedNumFmtId (table : Option NumFmtRefTable) (numFmtId : Int) : Int :=
  if (table.bind (·.lookup numFmtId)).isSome then unusedNumFmtId table (numFmtId + 1) else numFmtId
termination_by ((refKeys table).foldr max 0 + 1 - numFmtId).toNat
decreasing_by
  have bound := le_foldr_max (mem_refKeys ‹_›)
  omega

/-- `addNumFmt` adds a format unless its id is built in or already registered. -/
def addNumFmt (styles : xlsxStyleSheet Parsed) (xNumFmt : xlsxNumFmt) : xlsxStyleSheet Parsed :=
  if xNumFmt.NumFmtId ≤ builtinNumFmtsCount then styles
  else if (refLookup styles xNumFmt.NumFmtId).isSome then styles
  else
    let numFmts := styles.NumFmts.getD {}
    { styles with
      NumFmts := some { Count := numFmts.Count + 1, NumFmt := numFmts.NumFmt ++ [xNumFmt] }
      numFmtRefTable := some ((styles.numFmtRefTable.getD ∅).insert xNumFmt.NumFmtId xNumFmt) }

def findNumFmt (styles : xlsxStyleSheet Parsed) (formatCode : String) : Option xlsxNumFmt :=
  styles.NumFmts.bind (·.NumFmt.find? (formatCode == ·.FormatCode))

def newNumFmt (styles : xlsxStyleSheet Parsed) (formatCode : String) :
    xlsxNumFmt × xlsxStyleSheet Parsed :=
  if compareFormatString formatCode "general" then ({ NumFmtId := 0, FormatCode := "general" }, styles)
  else match builtInNumFmtInv formatCode with
    | some numFmtId => ({ NumFmtId := numFmtId, FormatCode := formatCode }, styles)
    | none => match findNumFmt styles formatCode with
      | some numFmt => (numFmt, styles)
      | none =>
        let numFmtId := unusedNumFmtId styles.numFmtRefTable (builtinNumFmtsCount + 1)
        ({ NumFmtId := numFmtId, FormatCode := formatCode },
          addNumFmt styles { NumFmtId := numFmtId, FormatCode := formatCode })

theorem unusedNumFmtId_spec (table : Option NumFmtRefTable) (numFmtId : Int) :
    numFmtId ≤ unusedNumFmtId table numFmtId ∧
      table.bind (·.lookup (unusedNumFmtId table numFmtId)) = none ∧
      ∀ id, numFmtId ≤ id → id < unusedNumFmtId table numFmtId → (table.bind (·.lookup id)).isSome := by
  induction numFmtId using unusedNumFmtId.induct table with
  | case1 numFmtId taken ih =>
    rw [unusedNumFmtId, if_pos taken]
    obtain ⟨lower, free, skipped⟩ := ih
    refine ⟨by omega, free, fun id low high => ?_⟩
    rcases (show id = numFmtId ∨ numFmtId + 1 ≤ id by omega) with rfl | later
    · exact taken
    · exact skipped id later high
  | case2 numFmtId free =>
    rw [unusedNumFmtId, if_neg free]
    exact ⟨le_refl _, by simpa using free, fun id low high => absurd high (by omega)⟩

/-- The `(id, code)` pairs `NumFmts` lists. -/
def numFmtEntries (styles : xlsxStyleSheet Parsed) : List xlsxNumFmt :=
  (styles.NumFmts.map (·.NumFmt)).getD []

/-- The custom-format registry: `NumFmts` and `numFmtRefTable` hold the same pairs, under
pairwise distinct ids above the built-in range, and `NumFmts.Count` is its length. -/
structure Registry (styles : xlsxStyleSheet Parsed) : Prop where
  lookup_iff : ∀ numFmtId numFmt, refLookup styles numFmtId = some numFmt ↔
    numFmt ∈ numFmtEntries styles ∧ numFmt.NumFmtId = numFmtId
  ids_nodup : ((numFmtEntries styles).map (·.NumFmtId)).Nodup
  custom : ∀ numFmt ∈ numFmtEntries styles, builtinNumFmtsCount < numFmt.NumFmtId
  count : ∀ numFmts, styles.NumFmts = some numFmts → numFmts.Count = numFmts.NumFmt.length

theorem Registry.of_empty {styles : xlsxStyleSheet Parsed} (table : styles.numFmtRefTable = none)
    (numFmts : styles.NumFmts = none ∨ styles.NumFmts = some {}) : Registry styles where
  lookup_iff _ _ := by
    rcases numFmts with h | h <;> simp [refLookup, numFmtEntries, table, h]
  ids_nodup := by rcases numFmts with h | h <;> simp [numFmtEntries, h]
  custom _ member := by rcases numFmts with h | h <;> simp [numFmtEntries, h] at member
  count _ same := by rcases numFmts with h | h <;> rw [h] at same <;> cases same; rfl

theorem refLookup_getD {styles : xlsxStyleSheet Parsed} (numFmtId : Int) :
    (styles.numFmtRefTable.getD ∅).lookup numFmtId = refLookup styles numFmtId := by
  cases h : styles.numFmtRefTable <;> simp [refLookup, h]

theorem addNumFmt_of_free {styles : xlsxStyleSheet Parsed} {xNumFmt : xlsxNumFmt}
    (custom : builtinNumFmtsCount < xNumFmt.NumFmtId) (free : refLookup styles xNumFmt.NumFmtId = none) :
    addNumFmt styles xNumFmt =
      { styles with
        NumFmts := some ⟨(styles.NumFmts.getD {}).Count + 1, (styles.NumFmts.getD {}).NumFmt ++ [xNumFmt]⟩
        numFmtRefTable := some ((styles.numFmtRefTable.getD ∅).insert xNumFmt.NumFmtId xNumFmt) } := by
  simp [addNumFmt, not_le.mpr custom, free]

theorem addNumFmt_entries {styles : xlsxStyleSheet Parsed} {xNumFmt : xlsxNumFmt}
    (custom : builtinNumFmtsCount < xNumFmt.NumFmtId) (free : refLookup styles xNumFmt.NumFmtId = none) :
    numFmtEntries (addNumFmt styles xNumFmt) = numFmtEntries styles ++ [xNumFmt] ∧
      ∀ numFmtId, refLookup (addNumFmt styles xNumFmt) numFmtId =
        if numFmtId = xNumFmt.NumFmtId then some xNumFmt else refLookup styles numFmtId := by
  rw [addNumFmt_of_free custom free]
  refine ⟨by cases h : styles.NumFmts <;> simp [numFmtEntries, h], fun numFmtId => ?_⟩
  by_cases same : numFmtId = xNumFmt.NumFmtId
  · subst same
    simp [refLookup, AList.lookup_insert]
  · simp [refLookup, AList.lookup_insert_ne same, same, refLookup_getD]

theorem Registry.addNumFmt {styles : xlsxStyleSheet Parsed} (registry : Registry styles)
    (xNumFmt : xlsxNumFmt) : Registry (addNumFmt styles xNumFmt) := by
  by_cases builtin : xNumFmt.NumFmtId ≤ builtinNumFmtsCount
  · simpa [Xlsx.addNumFmt, builtin] using registry
  by_cases taken : (refLookup styles xNumFmt.NumFmtId).isSome
  · simpa [Xlsx.addNumFmt, builtin, taken] using registry
  have free : refLookup styles xNumFmt.NumFmtId = none := by simpa using taken
  obtain ⟨entries, lookup⟩ := addNumFmt_entries (not_le.mp builtin) free
  have fresh : xNumFmt.NumFmtId ∉ (numFmtEntries styles).map (·.NumFmtId) := by
    simp only [List.mem_map, not_exists, not_and]
    intro numFmt member same
    simp [(registry.lookup_iff _ numFmt).mpr ⟨member, same⟩] at free
  refine ⟨fun numFmtId numFmt => ?_, ?_, ?_, fun numFmts same => ?_⟩
  · rw [lookup, entries, List.mem_append, List.mem_singleton]
    split
    · next same =>
      subst same
      refine ⟨by rintro ⟨⟩; exact ⟨.inr rfl, rfl⟩, ?_⟩
      rintro ⟨member | rfl, same⟩
      · exact absurd (List.mem_map.mpr ⟨numFmt, member, same⟩) fresh
      · rfl
    · next other =>
      rw [registry.lookup_iff]
      exact ⟨fun ⟨member, same⟩ => ⟨.inl member, same⟩,
        fun ⟨member, same⟩ => ⟨member.resolve_right fun new => other (new ▸ same.symm), same⟩⟩
  · rw [entries, List.map_append, List.nodup_append]
    exact ⟨registry.ids_nodup, by simp, by simpa using fresh⟩
  · simp only [entries, List.mem_append, List.mem_singleton]
    rintro numFmt (old | rfl)
    exacts [registry.custom numFmt old, not_le.mp builtin]
  · rw [addNumFmt_of_free (not_le.mp builtin) free] at same
    cases same
    cases h : styles.NumFmts
    · simp
    · simp [registry.count _ h]

theorem Registry.newNumFmt {styles : xlsxStyleSheet Parsed} (registry : Registry styles)
    (formatCode : String) : Registry (newNumFmt styles formatCode).2 := by
  unfold Xlsx.newNumFmt
  split
  · exact registry
  split
  · exact registry
  split
  · exact registry
  · exact registry.addNumFmt _

section newNumFmt

variable {styles : xlsxStyleSheet Parsed} {formatCode : String}

theorem newNumFmt_of_general (general : compareFormatString formatCode "general" = true) :
    newNumFmt styles formatCode = ({ NumFmtId := 0, FormatCode := "general" }, styles) := by
  simp [newNumFmt, general]

theorem newNumFmt_of_builtin {numFmtId : Int} (named : compareFormatString formatCode "general" = false)
    (builtin : builtInNumFmtInv formatCode = some numFmtId) :
    newNumFmt styles formatCode = ({ NumFmtId := numFmtId, FormatCode := formatCode }, styles) := by
  simp [newNumFmt, named, builtin]

theorem newNumFmt_of_found {numFmt : xlsxNumFmt} (named : compareFormatString formatCode "general" = false)
    (custom : builtInNumFmtInv formatCode = none) (found : findNumFmt styles formatCode = some numFmt) :
    newNumFmt styles formatCode = (numFmt, styles) := by
  simp [newNumFmt, named, custom, found]

theorem newNumFmt_of_unseen (named : compareFormatString formatCode "general" = false)
    (custom : builtInNumFmtInv formatCode = none) (unseen : findNumFmt styles formatCode = none) :
    newNumFmt styles formatCode =
      (⟨unusedNumFmtId styles.numFmtRefTable (builtinNumFmtsCount + 1), formatCode⟩,
        addNumFmt styles ⟨unusedNumFmtId styles.numFmtRefTable (builtinNumFmtsCount + 1), formatCode⟩) := by
  simp [newNumFmt, named, custom, unseen]

theorem findNumFmt_eq : findNumFmt styles formatCode = (numFmtEntries styles).find? (formatCode == ·.FormatCode) := by
  cases h : styles.NumFmts <;> simp [findNumFmt, numFmtEntries, h]

/-- An allocation takes the least id above the built-in range that `numFmtRefTable` does not
hold. -/
theorem newNumFmt_allocates (named : compareFormatString formatCode "general" = false)
    (custom : builtInNumFmtInv formatCode = none) (unseen : findNumFmt styles formatCode = none) :
    let numFmtId := (newNumFmt styles formatCode).1.NumFmtId
    builtinNumFmtsCount < numFmtId ∧ refLookup styles numFmtId = none ∧
      ∀ id, builtinNumFmtsCount < id → id < numFmtId → (refLookup styles id).isSome := by
  rw [newNumFmt_of_unseen named custom unseen]
  dsimp only
  obtain ⟨lower, free, skipped⟩ := unusedNumFmtId_spec styles.numFmtRefTable (builtinNumFmtsCount + 1)
  exact ⟨by omega, free, fun id above below => skipped id (by omega) below⟩

theorem newNumFmt_registers (registry : Registry styles)
    (named : compareFormatString formatCode "general" = false) (custom : builtInNumFmtInv formatCode = none) :
    let numFmtId := (newNumFmt styles formatCode).1.NumFmtId
    builtinNumFmtsCount < numFmtId ∧
      findNumFmt (newNumFmt styles formatCode).2 formatCode = some ⟨numFmtId, formatCode⟩ := by
  cases found : findNumFmt styles formatCode with
  | some numFmt =>
    rw [newNumFmt_of_found named custom found]
    rw [findNumFmt_eq] at found
    have code : formatCode = numFmt.FormatCode := by simpa using List.find?_some found
    refine ⟨registry.custom numFmt (List.mem_of_find?_eq_some found), ?_⟩
    rw [findNumFmt_eq, found, code]
  | none =>
    obtain ⟨above, free, -⟩ := newNumFmt_allocates named custom found
    rw [newNumFmt_of_unseen named custom found] at above free ⊢
    refine ⟨above, ?_⟩
    rw [findNumFmt_eq] at found ⊢
    rw [(addNumFmt_entries above free).1, List.find?_append, found]
    simp

end newNumFmt

end Xlsx
