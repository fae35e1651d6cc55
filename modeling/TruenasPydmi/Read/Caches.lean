/-
  Read/Caches.lean --- from a processor to its caches.

  A processor names its caches by handle, and `cache_by_handle` searches the
  decoded caches for the handle.  The search is one over the raw structures: it
  finds the first Type 7 structure with the handle, whatever else carries it, and
  nothing when there is none.
-/
import TruenasPydmi.Read.Outcome

set_option autoImplicit false

namespace TruenasPydmi

open TruenasPydmi.Foundation TruenasPydmi.Python

/-! ## The search -/

/-- The first Type 7 structure of a table with the handle. -/
def FirstCache (raws : List RawStructure) (h : Nat) (r : RawStructure) : Prop :=
  (r.type = 7 ∧ r.handle = h) ∧ ∃ pre post, raws = pre ++ r :: post ∧
    ∀ q ∈ pre, ¬ (q.type = 7 ∧ q.handle = h)

/-- In a list with distinct keys, the search for the key of an element finds it. -/
theorem find?_key_of_nodup {α : Type} (key : α → Nat) {l : List α} (hnodup : (l.map key).Nodup)
    {a : α} (ha : a ∈ l) : (l.find? fun x => key x == key a) = some a := by
  induction l with
  | nil => cases ha
  | cons x l ih =>
      rw [List.map_cons, List.nodup_cons] at hnodup
      rcases List.mem_cons.mp ha with rfl | ha
      · simp
      · have hne : (key x == key a) = false := by
          rw [beq_eq_false_iff_ne]
          intro heq
          exact hnodup.1 (heq ▸ List.mem_map_of_mem ha)
        rw [List.find?_cons, hne]
        exact ih hnodup.2 ha

section

variable {v : Nat × Nat} {raws : List RawStructure} {h : Nat} {r : RawStructure}

/-- The raw structure that `cache_by_handle` finds. -/
def cacheStructure (raws : List RawStructure) (h : Nat) : Option RawStructure :=
  raws.find? fun r => decide (r.type = 7 ∧ r.handle = h)

theorem cacheStructure_eq_some_iff : cacheStructure raws h = some r ↔ FirstCache raws h r := by
  rw [cacheStructure, List.find?_eq_some_iff_append, FirstCache]
  simp only [decide_eq_true_eq, Bool.not_eq_true', decide_eq_false_iff_not]

theorem cacheStructure_ne_none_iff :
    cacheStructure raws h ≠ none ↔ ∃ r ∈ raws, r.type = 7 ∧ r.handle = h := by
  simp [cacheStructure]

theorem cacheByHandle_eq (v : Nat × Nat) (raws : List RawStructure) (h : Nat) :
    (dmiInfo v raws).cacheByHandle h = (cacheStructure raws h).map RawStructure.toCache := by
  have hpred : (fun r : RawStructure => decide ((r.type == 7) = true ∧
      ((fun c : CacheInfo => c.handle == h) ∘ RawStructure.toCache) r = true)) =
        fun r => decide (r.type = 7 ∧ r.handle = h) := by
    funext r
    simp [RawStructure.toCache]
  rw [DMIInfo.cacheByHandle, dmiInfo, List.find?_map, List.find?_filter, hpred]
  rfl

theorem cacheByHandle_ne_none_iff :
    (dmiInfo v raws).cacheByHandle h ≠ none ↔ ∃ r ∈ raws, r.type = 7 ∧ r.handle = h := by
  rw [cacheByHandle_eq, ne_eq, Option.map_eq_none_iff]
  exact cacheStructure_ne_none_iff

theorem cacheByHandle_of_firstCache (hfirst : FirstCache raws h r) :
    (dmiInfo v raws).cacheByHandle h = some r.toCache := by
  rw [cacheByHandle_eq, cacheStructure_eq_some_iff.mpr hfirst]
  rfl

theorem cacheByHandle_of_nodup
    (hnodup : ((raws.filter fun r => r.type == 7).map RawStructure.handle).Nodup)
    {c : CacheInfo} (hc : c ∈ (dmiInfo v raws).caches) :
    (dmiInfo v raws).cacheByHandle c.handle = some c := by
  apply find?_key_of_nodup CacheInfo.handle _ hc
  rw [dmiInfo, List.map_map]
  exact hnodup

end

/-! ## The caches of a processor -/

/-- Looking up what a cache handle field of a processor holds. -/
def DMIInfo.resolveCache (d : DMIInfo) (handle : Option Nat) : Option CacheInfo :=
  handle.bind d.cacheByHandle

/-- A cache handle field, decoded from the word at `o`, resolves to nothing when the
word is cut off, when it says that there is no cache and when no cache carries it,
and to the first cache that carries it otherwise. -/
structure ResolvesExactly (d : DMIInfo) (raws : List RawStructure) (raw : RawStructure) (o : Nat)
    (handle : Option Nat) : Prop where
  cutOff : raw.formatted.length < o + 2 → d.resolveCache handle = none
  noCache : raw.word o = some 0xFFFF → d.resolveCache handle = none
  dangling : ∀ w, raw.word o = some w → (¬ ∃ r ∈ raws, r.type = 7 ∧ r.handle = w) →
    d.resolveCache handle = none
  found : ∀ w r, raw.word o = some w → w ≠ 0xFFFF → FirstCache raws w r → ∃ c,
    parseCache r = .ok c ∧ d.resolveCache handle = some c

theorem resolvesExactly (v : Nat × Nat) (raws : List RawStructure) (raw : RawStructure) (o : Nat) :
    ResolvesExactly (dmiInfo v raws) raws raw o (noneIf 0xFFFF (raw.word o)) := by
  constructor
  · intro hcut
    have hword : raw.word o = none := if_neg (by omega)
    rw [hword]
    rfl
  · intro hword
    rw [hword]
    rfl
  · intro w hword hnone
    rw [← cacheByHandle_ne_none_iff (v := v), not_not] at hnone
    rw [hword, noneIf]
    split
    · rfl
    · exact hnone
  · intro w r hword hw hfirst
    refine ⟨_, parseCache_eq r, ?_⟩
    rw [hword, noneIf, if_neg (by simpa using hw)]
    exact cacheByHandle_of_firstCache hfirst

/-- The lookup by handle is exact, and so is the way from a processor to its
caches. -/
theorem cacheByHandle_exact (parsed : ParsedSMBIOS) : ∃ d, aggregate parsed = .ok d ∧
    (∀ h, d.cacheByHandle h ≠ none ↔ ∃ r ∈ parsed.structures, r.type = 7 ∧ r.handle = h) ∧
    (∀ h r, FirstCache parsed.structures h r → ∃ c,
      parseCache r = .ok c ∧ d.cacheByHandle h = some c) ∧
    (((parsed.structures.filter fun r => r.type == 7).map RawStructure.handle).Nodup →
      ∀ c ∈ d.caches, d.cacheByHandle c.handle = some c) ∧
    ∀ raw ∈ parsed.structures, raw.type = 4 → ∃ p,
      parseProcessor raw = .ok p ∧ p ∈ d.processors ∧
      ResolvesExactly d parsed.structures raw 22 p.l1CacheHandle ∧
      ResolvesExactly d parsed.structures raw 24 p.l2CacheHandle ∧
      ResolvesExactly d parsed.structures raw 26 p.l3CacheHandle := by
  refine ⟨_, aggregate_eq parsed, fun h => cacheByHandle_ne_none_iff, ?_, ?_, ?_⟩
  · intro h r hfirst
    exact ⟨_, parseCache_eq r, cacheByHandle_of_firstCache hfirst⟩
  · intro hnodup c hc
    exact cacheByHandle_of_nodup hnodup hc
  · intro raw hraw htype
    refine ⟨_, parseProcessor_eq raw, ?_, resolvesExactly _ _ raw 22, resolvesExactly _ _ raw 24,
      resolvesExactly _ _ raw 26⟩
    exact List.mem_map_of_mem (List.mem_filter.mpr ⟨hraw, by simpa using htype⟩)

end TruenasPydmi
