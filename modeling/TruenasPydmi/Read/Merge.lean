/-
  Read/Merge.lean --- the aggregate of tables that stand one behind the other.

  Of a singleton the first one in a table counts, of everything else all of them do, and
  in order.  So the aggregate of joined tables is made from the aggregates of the
  tables alone, without going back to their bytes (`readTables_flatten`).  Only the
  model cannot be: it is derived once more from what was joined.
-/
import TruenasPydmi.Read.Outcome
import TruenasPydmi.Walk.Splice

set_option autoImplicit false

namespace TruenasPydmi

open TruenasPydmi.Foundation TruenasPydmi.Python

/-- Aggregates one behind the other, as one. -/
def joined (smbiosVersion : Nat × Nat) (infos : List DMIInfo) : DMIInfo where
  smbiosVersion := smbiosVersion
  bios := infos.findSome? DMIInfo.bios
  system := infos.findSome? DMIInfo.system
  baseboards := infos.flatMap DMIInfo.baseboards
  chassis := infos.flatMap DMIInfo.chassis
  processors := infos.flatMap DMIInfo.processors
  caches := infos.flatMap DMIInfo.caches
  systemSlots := infos.flatMap DMIInfo.systemSlots
  oemStrings := infos.flatMap DMIInfo.oemStrings
  memoryArrays := infos.flatMap DMIInfo.memoryArrays
  memoryDevices := infos.flatMap DMIInfo.memoryDevices
  ipmiDevices := infos.flatMap DMIInfo.ipmiDevices
  tpmDevices := infos.flatMap DMIInfo.tpmDevices
  rawStructures := infos.flatMap DMIInfo.rawStructures
  tnModel := platformModel (infos.findSome? DMIInfo.system) (infos.flatMap DMIInfo.baseboards)

/-! ## Structures -/

/-- A table without an End-of-Table, and what stands behind it. -/
theorem walkStructures_join {a b : Bytes} {n : Nat} {ra rb : List RawStructure}
    (hn : n = 0 ∨ (a ++ b).length ≤ n) (ha : walkStructures a n = .ok ra)
    (ht : ∀ r ∈ ra, r.type ≠ 127) (hb : walkStructures b n = .ok rb) :
    walkStructures (a ++ b) n = .ok (ra ++ rb) := by
  have hlength : (a ++ b).length = a.length + b.length := List.length_append
  have ha' : walkStructures a 0 = .ok ra := by
    rw [walkStructures_ok_iff, tableEnd_eq_length (by omega)] at ha
    rwa [walkStructures_ok_iff, tableEnd_eq_length (Or.inl rfl)]
  obtain ⟨frs, hr, rfl⟩ := exists_reaches_of_walk ha' ht
  have hagree : Agree (a ++ b) 0 a 0 (a.length - 0) := by
    intro k hk
    rw [Nat.zero_add, List.getElem?_append_left (by omega)]
  obtain ⟨hr', hdecode⟩ := hr.congr hagree
    (show a.length ≤ a.length + b.length from Nat.le_add_right _ _)
  obtain ⟨gs, e, hb', rfl⟩ := walkStructures_ok_iff.mp hb
  rw [tableEnd_eq_length (by omega)] at hb'
  obtain ⟨hb'', hmap⟩ := hb'.append_right a
  rw [walkStructures_ok_iff, tableEnd_eq_length hn, hlength]
  exact ⟨_, _, hr'.accepts hb'', by rw [List.map_append, hdecode, hmap]⟩

theorem walkStructures_flatten {n : Nat} {tables : List Bytes} {rawss : List (List RawStructure)}
    (h : List.Forall₂ (fun t raws => walkStructures t n = .ok raws) tables rawss)
    (ht : ∀ raws ∈ rawss.dropLast, ∀ r ∈ raws, r.type ≠ 127)
    (hn : n = 0 ∨ tables.flatten.length ≤ n) :
    walkStructures tables.flatten n = .ok rawss.flatten := by
  induction h with
  | nil =>
      rw [walkStructures_ok_iff, List.flatten_nil]
      exact ⟨[], 0, .atEnd (tableEnd_le [] n), rfl⟩
  | @cons table raws tables rawss hwalk hrest ih =>
      cases hrest with
      | nil => simpa using hwalk
      | cons hnext hrest =>
          rw [List.dropLast_cons_of_ne_nil (List.cons_ne_nil _ _)] at ht
          obtain ⟨hfirst, hothers⟩ := List.forall_mem_cons.mp ht
          rw [List.flatten_cons] at hn ⊢
          refine walkStructures_join hn hwalk hfirst (ih hothers ?_)
          rw [List.length_append] at hn
          omega

/-! ## Aggregates -/

section

variable {α : Type} (rawss : List (List RawStructure)) (typeId : Nat)

theorem firstOfType_flatten (view : RawStructure → α) :
    (rawss.flatten.find? fun r => r.type == typeId).map view =
      rawss.findSome? fun raws => (raws.find? fun r => r.type == typeId).map view := by
  rw [List.find?_flatten, List.map_findSome?]
  rfl

theorem ofType_flatten (view : RawStructure → α) :
    (rawss.flatten.filter fun r => r.type == typeId).map view =
      rawss.flatMap fun raws => (raws.filter fun r => r.type == typeId).map view := by
  rw [List.filter_flatten, List.map_flatten, List.map_map, List.flatMap_def]
  rfl

theorem stringsOfType_flatten :
    (rawss.flatten.filter fun r => r.type == typeId).flatMap RawStructure.strings =
      rawss.flatMap fun raws =>
        (raws.filter fun r => r.type == typeId).flatMap RawStructure.strings := by
  rw [List.filter_flatten, ← List.flatMap_id, List.flatMap_assoc, List.flatMap_map]
  rfl

end

/-- The aggregate goes over the structures as the tables do over the aggregates. -/
theorem dmiInfo_flatten (v : Nat × Nat) (rawss : List (List RawStructure)) :
    dmiInfo v rawss.flatten = joined v (rawss.map (dmiInfo v)) := by
  have hraws : rawss.flatten = rawss.flatMap fun raws => raws := List.flatMap_id.symm
  simp only [dmiInfo, joined, List.findSome?_map, List.flatMap_map, firstOfType_flatten,
    ofType_flatten, stringsOfType_flatten, Function.comp_def, ← hraws]

/-! ## The properties -/

section

variable (v : Nat × Nat) (infos : List DMIInfo)

theorem eccMemory_joined : (joined v infos).eccMemory = infos.any DMIInfo.eccMemory :=
  List.any_flatMap

theorem hasIpmi_joined : (joined v infos).hasIpmi = infos.any DMIInfo.hasIpmi := by
  rw [Bool.eq_iff_iff, DMIInfo.hasIpmi, truthy_list, List.any_eq_true]
  simp [joined, List.flatMap_eq_nil_iff, DMIInfo.hasIpmi]

theorem hasTpm_joined : (joined v infos).hasTpm = infos.any DMIInfo.hasTpm := by
  rw [Bool.eq_iff_iff, DMIInfo.hasTpm, truthy_list, List.any_eq_true]
  simp [joined, List.flatMap_eq_nil_iff, DMIInfo.hasTpm]

theorem cacheByHandle_joined (handle : Nat) : (joined v infos).cacheByHandle handle =
    infos.findSome? fun info => info.cacheByHandle handle :=
  List.find?_flatMap

end

/-- Tables that stand one behind the other are read as their aggregates say: of the
singletons the first, of the others all, in order.  Only the last table may hold an
End-of-Table. -/
theorem readTables_flatten (epBytes : Bytes) (ep : EntryPoint) (tables : List Bytes)
    (infos : List DMIInfo) (hep : parseEntryPoint epBytes = .ok ep)
    (h : List.Forall₂ (fun t info => readTables epBytes t = .ok info) tables infos)
    (ht : ∀ info ∈ infos.dropLast, ∀ r ∈ info.rawStructures, r.type ≠ 127)
    (hn : ep.tableLength = 0 ∨ tables.flatten.length ≤ ep.tableLength) :
    ∃ info, readTables epBytes tables.flatten = .ok info ∧
      info = joined (ep.major, ep.minor) infos ∧
      (info.eccMemory = infos.any DMIInfo.eccMemory ∧
        info.hasIpmi = infos.any DMIInfo.hasIpmi ∧ info.hasTpm = infos.any DMIInfo.hasTpm) ∧
      ∀ handle, info.cacheByHandle handle =
        infos.findSome? fun part => part.cacheByHandle handle := by
  obtain ⟨rawss, hwalks, rfl⟩ : ∃ rawss, List.Forall₂
      (fun t raws => walkStructures t ep.tableLength = .ok raws) tables rawss ∧
        infos = rawss.map (dmiInfo (ep.major, ep.minor)) := by
    clear ht hn
    induction h with
    | nil => exact ⟨[], .nil, rfl⟩
    | @cons table info tables infos hread _ ih =>
        obtain ⟨rawss, hwalks, rfl⟩ := ih
        rcases walkStructures_outcome table ep.tableLength with ⟨raws, hraws⟩ | ⟨message, o, hraws⟩
        · rw [readTables_of_parse hep hraws, Except.ok.injEq] at hread
          exact ⟨raws :: rawss, .cons hraws hwalks, by rw [List.map_cons, hread]⟩
        · simp [readTables, parseTables, hep, hraws] at hread
  have ht' : ∀ raws ∈ rawss.dropLast, ∀ r ∈ raws, r.type ≠ 127 := by
    rw [← List.map_dropLast, List.forall_mem_map] at ht
    exact ht
  refine ⟨_, readTables_of_parse hep (walkStructures_flatten hwalks ht' hn),
    dmiInfo_flatten _ rawss, ?_, fun handle => ?_⟩
  · rw [dmiInfo_flatten]
    exact ⟨eccMemory_joined _ _, hasIpmi_joined _ _, hasTpm_joined _ _⟩
  · rw [dmiInfo_flatten]
    exact cacheByHandle_joined _ _ handle

/-- A cache in one table and a TPM in the next. -/
theorem readTables_flatten_tpm :
    ∃ info, readTables
        [95, 83, 77, 51, 95, 0, 24, 3, 2, 0, 1, 0, 0, 0, 0, 0, 0, 0, 0, 0, 0, 0, 0, 0]
        [7, 4, 9, 0, 0, 0, 43, 4, 5, 0, 0, 0] = .ok info ∧
      info.hasTpm = true ∧ info.hasIpmi = false ∧ (info.cacheByHandle 9).isSome = true := by
  have hep : parseEntryPoint [95, 83, 77, 51, 95, 0, 24, 3, 2, 0, 1, 0, 0, 0, 0, 0, 0, 0, 0, 0, 0,
      0, 0, 0] = .ok ⟨3, 2, 1, 0⟩ := by decide
  have hcache : walkStructures [7, 4, 9, 0, 0, 0] 0 = .ok [⟨7, 9, [], []⟩] := by decide
  have htpm : walkStructures [43, 4, 5, 0, 0, 0] 0 = .ok [⟨43, 5, [], []⟩] := by decide
  obtain ⟨info, hread, -, ⟨-, hipmi, htpm'⟩, hhandle⟩ := readTables_flatten _ ⟨3, 2, 1, 0⟩
    [[7, 4, 9, 0, 0, 0], [43, 4, 5, 0, 0, 0]]
    [dmiInfo (3, 2) [⟨7, 9, [], []⟩], dmiInfo (3, 2) [⟨43, 5, [], []⟩]] hep
    (.cons (readTables_of_parse hep hcache) (.cons (readTables_of_parse hep htpm) .nil))
    (List.forall_mem_singleton.mpr (List.forall_mem_singleton.mpr (by decide))) (Or.inl rfl)
  exact ⟨info, hread, htpm'.trans rfl, hipmi.trans rfl, by rw [hhandle]; rfl⟩

end TruenasPydmi
