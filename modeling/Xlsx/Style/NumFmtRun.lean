import Xlsx.Style.Tables

namespace Xlsx

open Relation

variable {Parsed : Type} {lib : Collaborators Parsed} {styles styles' : xlsxStyleSheet Parsed}

def numFmtState (styles : xlsxStyleSheet Parsed) :
    Option xlsxNumFmts × Option NumFmtRefTable × Option (ParsedNumFmtTable Parsed) :=
  (styles.NumFmts, styles.numFmtRefTable, styles.parsedNumFmtTable)

theorem StyleTable.add_numFmtState {α : Type} {table : StyleTable Parsed α} {x : α}
    (keeps : ∀ styles c l, numFmtState (table.store styles c l) = numFmtState styles) :
    numFmtState (table.add styles x).2 = numFmtState styles := by
  unfold StyleTable.add
  split
  · rfl
  · exact keeps _ _ _

theorem StyleOp.numFmt_cases {op : StyleOp} (ran : op.run lib styles = .ok styles') :
    numFmtState styles' = numFmtState styles ∨ (op = .reset ∧ styles' = Xlsx.reset styles) ∨
      (∃ xNumFmt, styles' = Xlsx.addNumFmt styles xNumFmt) ∨
      (∃ formatCode, styles' = (Xlsx.newNumFmt styles formatCode).2) ∨
      ∃ styleIndex result, Xlsx.getNumberFormat lib styles styleIndex = .ok (result, styles') := by
  cases op <;> simp only [StyleOp.run, pure, Except.pure, Except.ok.injEq] at ran <;> subst_vars
  · exact .inr (.inl ⟨rfl, rfl⟩)
  · refine .inl ?_
    unfold Xlsx.addFont
    split
    · rfl
    · exact StyleTable.add_numFmtState fun _ _ _ => rfl
  · exact .inl (StyleTable.add_numFmtState fun _ _ _ => rfl)
  · exact .inl (StyleTable.add_numFmtState fun _ _ _ => rfl)
  · exact .inl ((StyleTable.add_numFmtState fun _ _ _ => rfl).trans (by split <;> rfl))
  · exact .inl (StyleTable.add_numFmtState fun _ _ _ => rfl)
  · exact .inr (.inr (.inl ⟨_, rfl⟩))
  · exact .inr (.inr (.inr (.inl ⟨_, rfl⟩)))
  · obtain ⟨⟨_, _⟩, got, rfl⟩ := except_map_ok ran
    obtain ⟨_, rfl⟩ := getStyle_frame got
    exact .inl rfl
  · obtain ⟨⟨result, _⟩, got, rfl⟩ := except_map_ok ran
    exact .inr (.inr (.inr (.inr ⟨_, result, got⟩)))

theorem Registry.congr (registry : Registry styles) (numFmts : styles'.NumFmts = styles.NumFmts)
    (table : styles'.numFmtRefTable = styles.numFmtRefTable) : Registry styles' := by
  have lookup : refLookup styles' = refLookup styles := by
    funext
    simp [refLookup, table]
  have entries : numFmtEntries styles' = numFmtEntries styles := by simp [numFmtEntries, numFmts]
  exact ⟨by rw [lookup, entries]; exact registry.lookup_iff, by rw [entries]; exact registry.ids_nodup,
    by rw [entries]; exact registry.custom, by rw [numFmts]; exact registry.count⟩

theorem Registry.step {op : StyleOp} (registry : Registry styles) (ran : op.run lib styles = .ok styles') :
    Registry styles' := by
  rcases StyleOp.numFmt_cases ran with same | ⟨-, rfl⟩ | ⟨xNumFmt, rfl⟩ | ⟨formatCode, rfl⟩ | ⟨_, _, got⟩
  · simp only [numFmtState, Prod.mk.injEq] at same
    exact registry.congr same.1 same.2.1
  · exact Registry.of_empty rfl (.inr rfl)
  · exact registry.addNumFmt xNumFmt
  · exact registry.newNumFmt formatCode
  · obtain ⟨_, rfl⟩ := getNumberFormat_frame got
    exact registry.congr rfl rfl

/-- Every entry of the parsed-format cache is the parse of its key. -/
def CacheCoherent (lib : Collaborators Parsed) (styles : xlsxStyleSheet Parsed) : Prop :=
  ∀ numberFormat parsedFmt, styles.parsedNumFmtTable.bind (·.lookup numberFormat) = some parsedFmt →
    parsedFmt = lib.parseFullNumberFormatString numberFormat

theorem getNumberFormat_coherent {styleIndex : Int} {numberFormat : String}
    (coherent : CacheCoherent lib styles) (formatted : numberFormatOf styles styleIndex = .ok numberFormat) :
    ∃ styles', getNumberFormat lib styles styleIndex =
      .ok ((numberFormat, lib.parseFullNumberFormatString numberFormat), styles') ∧
      CacheCoherent lib styles' := by
  simp only [getNumberFormat, formatted, bind, Except.bind]
  split
  · rename_i parsedFmt cached
    exact ⟨styles, by rw [coherent _ _ cached]; rfl, coherent⟩
  · refine ⟨_, rfl, fun key parsedFmt found => ?_⟩
    by_cases same : key = numberFormat
    · subst same
      simpa [AList.lookup_insert, eq_comm] using found
    · apply coherent key parsedFmt
      simp only [Option.some_bind, AList.lookup_insert_ne same] at found
      cases h : styles.parsedNumFmtTable <;> simp_all

theorem CacheCoherent.step {op : StyleOp} (coherent : CacheCoherent lib styles)
    (ran : op.run lib styles = .ok styles') : CacheCoherent lib styles' := by
  rcases StyleOp.numFmt_cases ran with same | ⟨-, rfl⟩ | ⟨xNumFmt, rfl⟩ | ⟨formatCode, rfl⟩ | ⟨_, _, got⟩
  · simp only [numFmtState, Prod.mk.injEq] at same
    rw [CacheCoherent, same.2.2]
    exact coherent
  · exact coherent
  · obtain ⟨_, _, same⟩ := addNumFmt_frame styles xNumFmt
    rw [same]
    exact coherent
  · obtain ⟨_, _, same⟩ := newNumFmt_frame styles formatCode
    rw [same]
    exact coherent
  · obtain ⟨numberFormat, formatted, -⟩ := except_bind_ok got
    obtain ⟨_, again, kept⟩ := getNumberFormat_coherent coherent formatted
    rw [got, Except.ok.injEq, Prod.mk.injEq] at again
    rwa [again.2]

/-- What every sheet reachable from `newXlsxStyleSheet` satisfies. -/
structure NumFmtInvariant (lib : Collaborators Parsed) (styles : xlsxStyleSheet Parsed) : Prop where
  registry : Registry styles
  coherent : CacheCoherent lib styles
  agrees : TablesAgree styles

theorem NumFmtInvariant.of_reach {t : Option theme}
    (reach : ReflTransGen (StyleStep lib) (newXlsxStyleSheet t) styles) : NumFmtInvariant lib styles :=
  StyleStep.invariant reach
    ⟨Registry.of_empty rfl (.inl rfl), fun _ _ found => by simp [newXlsxStyleSheet] at found,
      ⟨rfl, rfl, rfl, rfl, rfl⟩⟩
    fun op inv ran => ⟨inv.registry.step ran, inv.coherent.step ran, inv.agrees.step op ran⟩

/-- Custom number-format registry: on every reachable sheet `NumFmts` and `numFmtRefTable`
hold the same pairs under distinct ids above the built-in range, and an allocation takes the
least free id from 164 up. -/
theorem numFmt_registry_invariant (lib : Collaborators Parsed) (t : Option theme)
    (styles : xlsxStyleSheet Parsed) (reach : ReflTransGen (StyleStep lib) (newXlsxStyleSheet t) styles) :
    Registry styles ∧
      ∀ formatCode, compareFormatString formatCode "general" = false →
        builtInNumFmtInv formatCode = none → findNumFmt styles formatCode = none →
        let numFmtId := (newNumFmt styles formatCode).1.NumFmtId
        builtinNumFmtsCount < numFmtId ∧ refLookup styles numFmtId = none ∧
          ∀ id, builtinNumFmtsCount < id → id < numFmtId → (refLookup styles id).isSome :=
  ⟨(NumFmtInvariant.of_reach reach).registry, fun _ named custom unseen =>
    newNumFmt_allocates named custom unseen⟩

theorem numFmt_registry_invariant_after_two_formats :
    let lib : Collaborators Unit := ⟨fun _ => 0, fun _ => 0, fun _ => ()⟩
    let styles : xlsxStyleSheet Unit :=
      (newNumFmt (addNumFmt (newXlsxStyleSheet none) { NumFmtId := 164, FormatCode := "a" }) "b").2
    ReflTransGen (StyleStep lib) (newXlsxStyleSheet none) styles ∧ Registry styles ∧
      ∀ formatCode, compareFormatString formatCode "general" = false →
        builtInNumFmtInv formatCode = none → findNumFmt styles formatCode = none →
        let numFmtId := (newNumFmt styles formatCode).1.NumFmtId
        builtinNumFmtsCount < numFmtId ∧ refLookup styles numFmtId = none ∧
          ∀ id, builtinNumFmtsCount < id → id < numFmtId → (refLookup styles id).isSome :=
  have reach : ReflTransGen (StyleStep ⟨fun _ => 0, fun _ => 0, fun _ => ()⟩) (newXlsxStyleSheet none)
      (newNumFmt (addNumFmt (newXlsxStyleSheet none) { NumFmtId := 164, FormatCode := "a" }) "b").2 :=
    .tail (.single ⟨.addNumFmt _, rfl⟩) ⟨.newNumFmt "b", rfl⟩
  ⟨reach, numFmt_registry_invariant ⟨fun _ => 0, fun _ => 0, fun _ => ()⟩ none _ reach⟩

theorem addNumFmt_grows (styles : xlsxStyleSheet Parsed) (xNumFmt : xlsxNumFmt) :
    numFmtEntries styles <+: numFmtEntries (addNumFmt styles xNumFmt) := by
  by_cases builtin : xNumFmt.NumFmtId ≤ builtinNumFmtsCount
  · simp [addNumFmt, builtin]
  by_cases taken : (refLookup styles xNumFmt.NumFmtId).isSome
  · simp [addNumFmt, builtin, taken]
  rw [(addNumFmt_entries (not_le.mp builtin) (by simpa using taken)).1]
  exact List.prefix_append _ _

theorem newNumFmt_grows (styles : xlsxStyleSheet Parsed) (formatCode : String) :
    numFmtEntries styles <+: numFmtEntries (newNumFmt styles formatCode).2 := by
  unfold newNumFmt
  split
  · exact List.prefix_refl _
  split
  · exact List.prefix_refl _
  split
  · exact List.prefix_refl _
  · exact addNumFmt_grows styles _

theorem StyleStepKeeping.grows (step : StyleStepKeeping lib styles styles') :
    numFmtEntries styles <+: numFmtEntries styles' := by
  obtain ⟨op, kept, ran⟩ := step
  rcases StyleOp.numFmt_cases ran with same | ⟨rfl, -⟩ | ⟨xNumFmt, rfl⟩ | ⟨formatCode, rfl⟩ | ⟨_, _, got⟩
  · simp only [numFmtState, Prod.mk.injEq] at same
    simp [numFmtEntries, same.1]
  · exact absurd rfl kept
  · exact addNumFmt_grows styles xNumFmt
  · exact newNumFmt_grows styles formatCode
  · obtain ⟨_, rfl⟩ := getNumberFormat_frame got
    exact List.prefix_refl _

theorem StyleStepKeeping.grows_run (run : ReflTransGen (StyleStepKeeping lib) styles styles') :
    numFmtEntries styles <+: numFmtEntries styles' := by
  induction run with
  | refl => exact List.prefix_refl _
  | tail _ step grown => exact grown.trans step.grows

theorem findNumFmt_of_grows {formatCode : String} {numFmt : xlsxNumFmt}
    (grown : numFmtEntries styles <+: numFmtEntries styles')
    (found : findNumFmt styles formatCode = some numFmt) : findNumFmt styles' formatCode = some numFmt := by
  rw [findNumFmt_eq] at found ⊢
  exact grown.find?_eq_some found

theorem TablesAgree.cellXf_lt (agrees : TablesAgree styles) {styleIndex : Int} {xf : xlsxXf}
    (xfAt : styles.CellXfs.Xf[styleIndex.toNat]? = some xf) (lower : 0 ≤ styleIndex) :
    styleIndex < styles.CellXfs.Count := by
  have count : styles.CellXfs.Count = styles.CellXfs.Xf.length := agrees.2.2.2.2
  have bound := (List.getElem?_eq_some_iff.mp xfAt).1
  omega

section numberFormatOf

variable {styleIndex : Int} {xf : xlsxXf} (lower : 0 ≤ styleIndex)
  (upper : styleIndex < styles.CellXfs.Count) (xfAt : styles.CellXfs.Xf[styleIndex.toNat]? = some xf)
include lower upper xfAt

theorem numberFormatOf_of_builtin {code : String} (builtin : getBuiltinNumberFormat xf.NumFmtId = code)
    (named : code ≠ "") : numberFormatOf styles styleIndex = .ok code := by
  have nonempty : styles.CellXfs.Xf ≠ [] := by
    rintro h
    simp [h] at xfAt
  simp [numberFormatOf, nonempty, lower, upper, sliceAt_of_get lower xfAt, builtin, named,
    show -1 < styleIndex by omega, bind, Except.bind, pure, Except.pure]

theorem numberFormatOf_of_custom {numFmt : xlsxNumFmt} (custom : getBuiltinNumberFormat xf.NumFmtId = "")
    (registered : refLookup styles xf.NumFmtId = some numFmt) :
    numberFormatOf styles styleIndex = .ok numFmt.FormatCode := by
  have nonempty : styles.CellXfs.Xf ≠ [] := by
    rintro h
    simp [h] at xfAt
  cases h : styles.numFmtRefTable with
  | none => simp [refLookup, h] at registered
  | some table =>
    simp only [refLookup, h, Option.some_bind] at registered
    simp [numberFormatOf, nonempty, lower, upper, sliceAt_of_get lower xfAt, custom, h, registered,
      show -1 < styleIndex by omega, bind, Except.bind, pure, Except.pure]

end numberFormatOf

theorem reach_after_newNumFmt {start : xlsxStyleSheet Parsed} {formatCode : String}
    (reach : ReflTransGen (StyleStep lib) start styles)
    (run : ReflTransGen (StyleStepKeeping lib) (newNumFmt styles formatCode).2 styles') :
    ReflTransGen (StyleStep lib) start styles' :=
  (reach.tail ⟨.newNumFmt formatCode, rfl⟩).trans (run.mono fun _ _ ⟨op, _, ran⟩ => ⟨op, ran⟩)

theorem newNumFmt_later {t : Option theme} {formatCode : String}
    (reach : ReflTransGen (StyleStep lib) (newXlsxStyleSheet t) styles)
    (run : ReflTransGen (StyleStepKeeping lib) (newNumFmt styles formatCode).2 styles') :
    let shown := if compareFormatString formatCode "general" then "general" else formatCode
    (newNumFmt styles' formatCode).1.NumFmtId = (newNumFmt styles formatCode).1.NumFmtId ∧
      ∀ styleIndex xf, 0 ≤ styleIndex → styles'.CellXfs.Xf[styleIndex.toNat]? = some xf →
        xf.NumFmtId = (newNumFmt styles formatCode).1.NumFmtId →
        numberFormatOf styles' styleIndex = .ok shown := by
  intro shown
  have inv : NumFmtInvariant lib styles' := NumFmtInvariant.of_reach (reach_after_newNumFmt reach run)
  cases general : compareFormatString formatCode "general"
  · cases builtin : builtInNumFmtInv formatCode with
    | some numFmtId =>
      obtain ⟨code, named⟩ := builtInNumFmt_lookup _ (mem_of_builtInNumFmtInv builtin)
      simp only [newNumFmt_of_builtin general builtin, shown, general, true_and]
      intro styleIndex xf lower xfAt numbered
      exact numberFormatOf_of_builtin lower (inv.agrees.cellXf_lt xfAt lower) xfAt (numbered ▸ code) named
    | none =>
      obtain ⟨above, registered⟩ :=
        newNumFmt_registers (NumFmtInvariant.of_reach reach).registry general builtin
      have found := findNumFmt_of_grows (StyleStepKeeping.grows_run run) registered
      have member := List.mem_of_find?_eq_some (findNumFmt_eq ▸ found)
      have lookup := (inv.registry.lookup_iff _ _).mpr ⟨member, rfl⟩
      simp only [newNumFmt_of_found general builtin found, shown, general, true_and]
      intro styleIndex xf lower xfAt numbered
      exact numberFormatOf_of_custom lower (inv.agrees.cellXf_lt xfAt lower) xfAt
        (getBuiltinNumberFormat_of_custom (numbered ▸ above)) (numbered ▸ lookup)
  · simp only [newNumFmt_of_general general, shown, general, ↓reduceIte, true_and]
    intro styleIndex xf lower xfAt numbered
    exact numberFormatOf_of_builtin lower (inv.agrees.cellXf_lt xfAt lower) xfAt
      (by rw [numbered]; rfl) (by decide)

/-- Number-format ids round-trip: the id `newNumFmt` gives a code, the same id from every
later call without `reset`, and `getNumberFormat` turning an xf with that id back into the
code and its parse, whatever the parsed-format cache holds. -/
theorem newNumFmt_round_trip (lib : Collaborators Parsed) (t : Option theme)
    (styles : xlsxStyleSheet Parsed) (reach : ReflTransGen (StyleStep lib) (newXlsxStyleSheet t) styles)
    (formatCode : String) :
    let numFmtId := (newNumFmt styles formatCode).1.NumFmtId
    let shown := if compareFormatString formatCode "general" then "general" else formatCode
    (compareFormatString formatCode "general" = true → numFmtId = 0) ∧
      (compareFormatString formatCode "general" = false →
        ∀ builtinId, (builtinId, formatCode) ∈ builtInNumFmt → numFmtId = builtinId) ∧
      (compareFormatString formatCode "general" = false → formatCode ∉ builtInNumFmt.map Prod.snd →
        builtinNumFmtsCount < numFmtId) ∧
      ∀ styles', ReflTransGen (StyleStepKeeping lib) (newNumFmt styles formatCode).2 styles' →
        (newNumFmt styles' formatCode).1.NumFmtId = numFmtId ∧
        ∀ styleIndex xf, 0 ≤ styleIndex → styles'.CellXfs.Xf[styleIndex.toNat]? = some xf →
          xf.NumFmtId = numFmtId → ∃ styles'', getNumberFormat lib styles' styleIndex =
            .ok ((shown, lib.parseFullNumberFormatString shown), styles'') := by
  intro numFmtId shown
  refine ⟨fun general => by simp [numFmtId, newNumFmt_of_general general],
    fun named builtinId member => by simp [numFmtId, newNumFmt_of_builtin named (builtInNumFmtInv_of_mem member)],
    fun named custom => (newNumFmt_registers (NumFmtInvariant.of_reach reach).registry named
      (builtInNumFmtInv_of_not_mem custom)).1,
    fun styles' run => ⟨(newNumFmt_later reach run).1, fun styleIndex xf lower xfAt numbered => ?_⟩⟩
  have coherent := (NumFmtInvariant.of_reach (reach_after_newNumFmt reach run)).coherent
  obtain ⟨styles'', got, -⟩ :=
    getNumberFormat_coherent coherent ((newNumFmt_later reach run).2 styleIndex xf lower xfAt numbered)
  exact ⟨styles'', got⟩

theorem newNumFmt_round_trip_after_two_formats :
    let lib : Collaborators Unit := ⟨fun _ => 0, fun _ => 0, fun _ => ()⟩
    let styles : xlsxStyleSheet Unit :=
      (newNumFmt (addNumFmt (newXlsxStyleSheet none) { NumFmtId := 164, FormatCode := "a" }) "b").2
    let numFmtId := (newNumFmt styles "0.0%").1.NumFmtId
    let shown := if compareFormatString "0.0%" "general" then "general" else "0.0%"
    ReflTransGen (StyleStep lib) (newXlsxStyleSheet none) styles ∧
      (compareFormatString "0.0%" "general" = true → numFmtId = 0) ∧
      (compareFormatString "0.0%" "general" = false →
        ∀ builtinId, (builtinId, "0.0%") ∈ builtInNumFmt → numFmtId = builtinId) ∧
      (compareFormatString "0.0%" "general" = false → "0.0%" ∉ builtInNumFmt.map Prod.snd →
        builtinNumFmtsCount < numFmtId) ∧
      ∀ styles', ReflTransGen (StyleStepKeeping lib) (newNumFmt styles "0.0%").2 styles' →
        (newNumFmt styles' "0.0%").1.NumFmtId = numFmtId ∧
        ∀ styleIndex xf, 0 ≤ styleIndex → styles'.CellXfs.Xf[styleIndex.toNat]? = some xf →
          xf.NumFmtId = numFmtId → ∃ styles'', getNumberFormat lib styles' styleIndex =
            .ok ((shown, lib.parseFullNumberFormatString shown), styles'') :=
  have reach : ReflTransGen (StyleStep ⟨fun _ => 0, fun _ => 0, fun _ => ()⟩) (newXlsxStyleSheet none)
      (newNumFmt (addNumFmt (newXlsxStyleSheet none) { NumFmtId := 164, FormatCode := "a" }) "b").2 :=
    .tail (.single ⟨.addNumFmt _, rfl⟩) ⟨.newNumFmt "b", rfl⟩
  ⟨reach, newNumFmt_round_trip ⟨fun _ => 0, fun _ => 0, fun _ => ()⟩ none _ reach "0.0%"⟩

end Xlsx
