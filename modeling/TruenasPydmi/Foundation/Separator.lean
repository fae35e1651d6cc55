/-
  Foundation/Separator.lean --- separated items closed by a doubled separator.

  Many formats store a set of strings as items that each end in a separator
  `z`, the whole set being closed by a second `z`.  This file is about the two
  ways to read such a set that starts at position `i`:

  * declaratively, the set closes at the LEAST `p ≥ i` where `z` is doubled
    (`Closes`), and its items are the pieces of the stretch up to `p` split at
    `z` (`segments`);
  * one item at a time, searching the next `z` (`findFrom`) and stopping when
    another `z` follows it.

  `closes_of_doubled`, `closes_iff_of_not_doubled` and their companions say that
  one search advances the declarative reading by exactly one item.  That is what
  a proof about a scanning loop needs.
-/
import Mathlib.Order.Bounds.Basic
import Mathlib.Order.Nat
import Mathlib.Data.Nat.Find
import TruenasPydmi.Foundation.Slice

set_option autoImplicit false

namespace TruenasPydmi.Foundation

variable {α : Type*}

/-! ## The next separator -/

section Find

variable [BEq α]

/-- The first position from `i` on that carries `z`. -/
def findFrom (z : α) (xs : List α) (i : Nat) : Option Nat :=
  ((xs.drop i).findIdx? (· == z)).map (i + ·)

theorem findFrom_append_right (z : α) (xs ys : List α) (i : Nat) :
    findFrom z (xs ++ ys) (xs.length + i) = (findFrom z ys i).map (xs.length + ·) := by
  have hdrop : (xs ++ ys).drop (xs.length + i) = ys.drop i := by
    rw [← List.drop_drop, List.drop_left]
  rw [findFrom, findFrom, hdrop, Option.map_map]
  exact congrArg (fun f => Option.map f _) (funext fun n => Nat.add_assoc _ _ _)

variable [LawfulBEq α]

theorem findFrom_eq_some_iff {z : α} {xs : List α} {i n : Nat} :
    findFrom z xs i = some n ↔
      i ≤ n ∧ xs[n]? = some z ∧ ∀ m, i ≤ m → m < n → xs[m]? ≠ some z := by
  simp only [findFrom, Option.map_eq_some_iff, List.findIdx?_eq_some_iff_getElem]
  constructor
  · rintro ⟨d, ⟨hd, hz, hfirst⟩, rfl⟩
    refine ⟨Nat.le_add_right i d, ?_, ?_⟩
    · rw [← List.getElem?_drop, List.getElem?_eq_getElem hd, eq_of_beq hz]
    · intro m him hmd hm
      have hlt : m - i < d := by omega
      refine hfirst (m - i) hlt ?_
      have : (xs.drop i)[m - i]? = some z := by
        rw [List.getElem?_drop, Nat.add_sub_cancel' him, hm]
      rw [List.getElem?_eq_getElem (by omega)] at this
      simpa using this
  · rintro ⟨hin, hz, hfirst⟩
    have hget : (xs.drop i)[n - i]? = some z := by
      rw [List.getElem?_drop, Nat.add_sub_cancel' hin, hz]
    obtain ⟨hlt, heq⟩ := List.getElem?_eq_some_iff.mp hget
    refine ⟨n - i, ⟨hlt, by simp [heq], ?_⟩, Nat.add_sub_cancel' hin⟩
    intro m hm hmz
    refine hfirst (i + m) (Nat.le_add_right i m) (by omega) ?_
    rw [← List.getElem?_drop, List.getElem?_eq_getElem (by omega), eq_of_beq hmz]

/-- What is found stands behind the start of the search and inside the list. -/
theorem findFrom_bounds {z : α} {xs : List α} {i n : Nat} (h : findFrom z xs i = some n) :
    i ≤ n ∧ n < xs.length := by
  obtain ⟨hin, hz, -⟩ := findFrom_eq_some_iff.mp h
  exact ⟨hin, (List.getElem?_eq_some_iff.mp hz).1⟩

theorem findFrom_eq_none_iff {z : α} {xs : List α} {i : Nat} :
    findFrom z xs i = none ↔ ∀ m, i ≤ m → xs[m]? ≠ some z := by
  simp only [findFrom, Option.map_eq_none_iff, List.findIdx?_eq_none_iff]
  constructor
  · intro h m him hm
    have : z ∈ xs.drop i := by
      rw [List.mem_iff_getElem?]
      exact ⟨m - i, by rw [List.getElem?_drop, Nat.add_sub_cancel' him, hm]⟩
    simpa using h z this
  · intro h x hx
    obtain ⟨k, hk⟩ := List.mem_iff_getElem?.mp hx
    rw [List.getElem?_drop] at hk
    have := h (i + k) (Nat.le_add_right i k)
    rw [hk] at this
    simpa using this

end Find

/-! ## The closing doubled separator -/

/-- `z` stands at `p` and again right after it. -/
def Doubled (z : α) (xs : List α) (p : Nat) : Prop :=
  p + 1 < xs.length ∧ xs[p]? = some z ∧ xs[p + 1]? = some z

theorem doubled_of_getElem? {z : α} {xs : List α} {p : Nat} (h : xs[p]? = some z)
    (h' : xs[p + 1]? = some z) : Doubled z xs p :=
  ⟨(List.getElem?_eq_some_iff.mp h').1, h, h'⟩

/-- The set of items that starts at `i` closes at `p`. -/
def Closes (z : α) (xs : List α) (i p : Nat) : Prop :=
  IsLeast {q | i ≤ q ∧ Doubled z xs q} p

theorem Closes.le {z : α} {xs : List α} {i p : Nat} (h : Closes z xs i p) : i ≤ p := h.1.1

theorem Closes.doubled {z : α} {xs : List α} {i p : Nat} (h : Closes z xs i p) :
    Doubled z xs p := h.1.2

theorem Closes.lt_length {z : α} {xs : List α} {i p : Nat} (h : Closes z xs i p) :
    p + 1 < xs.length := h.doubled.1

theorem Closes.unique {z : α} {xs : List α} {i p q : Nat} (hp : Closes z xs i p)
    (hq : Closes z xs i q) : p = q :=
  IsLeast.unique hp hq

/-- A set closes right where it starts exactly when it has no items. -/
theorem Closes.eq_start_iff {z : α} {xs : List α} {i p : Nat} (h : Closes z xs i p) :
    p = i ↔ xs[i]? = some z ∧ xs[i + 1]? = some z := by
  constructor
  · rintro rfl
    exact h.doubled.2
  · rintro ⟨hz, hz'⟩
    exact h.unique ⟨⟨Nat.le_refl i, doubled_of_getElem? hz hz'⟩, fun q hq => hq.1⟩

/-- A set closes somewhere as soon as a doubled separator follows its start. -/
theorem exists_closes {z : α} {xs : List α} {i q : Nat} (hi : i ≤ q) (hq : Doubled z xs q) :
    ∃ p, Closes z xs i p := by
  classical
  have hex : ∃ q, i ≤ q ∧ Doubled z xs q := ⟨q, hi, hq⟩
  exact ⟨Nat.find hex, Nat.find_spec hex, fun q hq => Nat.find_min' hex hq⟩

/-- Only where the separators stand matters for where a set closes, not where
in a longer list the set itself stands nor what its items say. -/
theorem Closes.transport {z : α} {xs ys : List α} {i j p : Nat} (h : Closes z xs i p)
    (hsep : ∀ k, k < p + 2 - i → (ys[j + k]? = some z ↔ xs[i + k]? = some z)) :
    Closes z ys j (j + (p - i)) := by
  have hip := h.le
  have key : ∀ q, i ≤ q → q ≤ p → (Doubled z ys (j + (q - i)) ↔ Doubled z xs q) := by
    intro q hiq hqp
    have h0 := hsep (q - i) (by omega)
    have h1 := hsep (q - i + 1) (by omega)
    rw [Nat.add_sub_cancel' hiq] at h0
    rw [show i + (q - i + 1) = q + 1 by omega, ← Nat.add_assoc] at h1
    constructor
    · rintro ⟨_, hz, hz'⟩
      exact doubled_of_getElem? (h0.mp hz) (h1.mp hz')
    · rintro ⟨_, hz, hz'⟩
      exact doubled_of_getElem? (h0.mpr hz) (h1.mpr hz')
  refine ⟨⟨Nat.le_add_right _ _, (key p hip le_rfl).mpr h.doubled⟩, ?_⟩
  rintro q ⟨hjq, hq⟩
  by_contra hlt
  have hq' : Doubled z xs (i + (q - j)) :=
    (key (i + (q - j)) (by omega) (by omega)).mp (by
      rwa [show j + (i + (q - j) - i) = q by omega])
  have := h.2 ⟨Nat.le_add_right i _, hq'⟩
  omega

/-- The same for a set that stands at the same position in both lists. -/
theorem Closes.congr {z : α} {xs ys : List α} {i p : Nat} (h : Closes z xs i p)
    (hsep : ∀ k, i ≤ k → k ≤ p + 1 → (ys[k]? = some z ↔ xs[k]? = some z)) :
    Closes z ys i p := by
  have hip := h.le
  have := h.transport fun k hk => hsep (i + k) (Nat.le_add_right i k) (by omega)
  rwa [Nat.add_sub_cancel' hip] at this

section Search

variable [BEq α] [LawfulBEq α]

/-- With no separator left, nothing closes. -/
theorem not_closes_of_findFrom_none {z : α} {xs : List α} {i : Nat}
    (h : findFrom z xs i = none) (p : Nat) : ¬ Closes z xs i p :=
  fun hp => findFrom_eq_none_iff.mp h p hp.le hp.doubled.2.1

/-- A separator that follows the one found closes the set there. -/
theorem closes_of_doubled {z : α} {xs : List α} {i n : Nat} (hn : findFrom z xs i = some n)
    (hd : xs[n + 1]? = some z) : Closes z xs i n := by
  obtain ⟨hin, hz, hfirst⟩ := findFrom_eq_some_iff.mp hn
  refine ⟨⟨hin, doubled_of_getElem? hz hd⟩, ?_⟩
  rintro q ⟨hiq, hq⟩
  by_contra hlt
  exact hfirst q hiq (by omega) hq.2.1

/-- Otherwise the set closes where the rest of it does. -/
theorem closes_iff_of_not_doubled {z : α} {xs : List α} {i n : Nat}
    (hn : findFrom z xs i = some n) (hd : xs[n + 1]? ≠ some z) (p : Nat) :
    Closes z xs i p ↔ Closes z xs (n + 1) p := by
  obtain ⟨hin, -, hfirst⟩ := findFrom_eq_some_iff.mp hn
  have hset : {q | i ≤ q ∧ Doubled z xs q} = {q | n + 1 ≤ q ∧ Doubled z xs q} := by
    ext q
    constructor
    · rintro ⟨hiq, hq⟩
      refine ⟨?_, hq⟩
      by_contra hlt
      rcases Nat.lt_or_ge q n with hqn | hqn
      · exact hfirst q hiq hqn hq.2.1
      · obtain rfl : q = n := by omega
        exact hd hq.2.2
    · rintro ⟨hnq, hq⟩
      exact ⟨by omega, hq⟩
  rw [Closes, Closes, hset]

end Search

/-- Induction over the searches that read a set: one item before the last at a
time, down to the last. -/
theorem Closes.search_induction [BEq α] [LawfulBEq α] {z : α} {xs : List α} {p : Nat}
    {motive : (i : Nat) → Closes z xs i p → Prop}
    (last : ∀ i (h : Closes z xs i p), findFrom z xs i = some p → motive i h)
    (step : ∀ i m (h : Closes z xs i p) (h' : Closes z xs (m + 1) p),
      findFrom z xs i = some m → m < p → xs[m + 1]? ≠ some z → motive (m + 1) h' → motive i h)
    {i : Nat} (h : Closes z xs i p) : motive i h := by
  generalize hn : p - i = n
  induction n using Nat.strongRecOn generalizing i with
  | ind n ih =>
      subst hn
      cases hfind : findFrom z xs i with
      | none => exact absurd h (not_closes_of_findFrom_none hfind p)
      | some m =>
          have him := (findFrom_eq_some_iff.mp hfind).1
          by_cases hd : xs[m + 1]? = some z
          · obtain rfl := (closes_of_doubled hfind hd).unique h
            exact last i h hfind
          · have h' := (closes_iff_of_not_doubled hfind hd p).mp h
            have hmp : m < p := h'.le
            exact step i m h h' hfind hmp hd (ih (p - (m + 1)) (by omega) h' rfl)

/-! ## The items -/

section Segments

variable [BEq α]

/-- The items of the set that starts at `i` and closes at `p`. -/
def segments (z : α) (xs : List α) (i p : Nat) : List (List α) :=
  (slice xs i p).splitOn z

variable [LawfulBEq α]

/-- The last item runs up to the separator found. -/
theorem segments_of_findFrom {z : α} {xs : List α} {i n : Nat}
    (hn : findFrom z xs i = some n) : segments z xs i n = [slice xs i n] := by
  obtain ⟨-, -, hfirst⟩ := findFrom_eq_some_iff.mp hn
  apply List.splitOn_eq_singleton
  rw [mem_slice]
  rintro ⟨k, hik, hkn, hk⟩
  exact hfirst k hik hkn hk

/-- An item before the last is followed by the items after its separator. -/
theorem segments_of_findFrom_lt {z : α} {xs : List α} {i n p : Nat}
    (hn : findFrom z xs i = some n) (hnp : n < p) :
    segments z xs i p = slice xs i n :: segments z xs (n + 1) p := by
  obtain ⟨hin, hz, hfirst⟩ := findFrom_eq_some_iff.mp hn
  rw [segments, ← slice_append_slice xs hin (Nat.le_of_lt hnp), slice_eq_cons hnp hz,
    List.splitOn_append_cons_self_of_not_mem, segments]
  rw [mem_slice]
  rintro ⟨k, hik, hkn, hk⟩
  exact hfirst k hik hkn hk

/-- The stretch is its items with the separators put back. -/
theorem intercalate_segments (z : α) (xs : List α) (i p : Nat) :
    [z].intercalate (segments z xs i p) = slice xs i p :=
  List.intercalate_splitOn z

/-- No item contains a separator. -/
theorem notMem_of_mem_segments {z : α} {xs item : List α} {i p : Nat}
    (h : item ∈ segments z xs i p) : z ∉ item := by
  unfold segments at h
  generalize slice xs i p = ys at h
  induction ys generalizing item with
  | nil =>
      obtain rfl : item = [] := by simpa [List.splitOn_nil] using h
      simp
  | cons y ys ih =>
      rw [List.splitOn_cons_eq_if_modifyHead] at h
      split at h
      · rcases List.mem_cons.mp h with rfl | h
        · simp
        · exact ih h
      · rename_i hne
        obtain ⟨first, rest, hcons⟩ := List.exists_cons_of_ne_nil (List.splitOn_ne_nil z ys)
        rw [hcons, List.modifyHead_cons] at h
        rcases List.mem_cons.mp h with rfl | h
        · rw [List.mem_cons, not_or]
          refine ⟨fun hz => hne (by simp [hz]), ih (by simp [hcons])⟩
        · exact ih (by simp [hcons, h])

omit [LawfulBEq α] in
theorem segments_ne_nil (z : α) (xs : List α) (i p : Nat) : segments z xs i p ≠ [] :=
  List.splitOn_ne_nil z _

end Segments

/-! ## Where the items stand -/

/-- Where items of these lengths stand, with separators between them: the start
and the length of each. -/
def spansFrom : Nat → List Nat → List (Nat × Nat)
  | _, [] => []
  | i, n :: ns => (i, n) :: spansFrom (i + n + 1) ns

theorem length_spansFrom (i : Nat) (ns : List Nat) : (spansFrom i ns).length = ns.length := by
  induction ns generalizing i with
  | nil => rfl
  | cons n ns ih => simp [spansFrom, ih]

section Spans

variable [BEq α]

/-- Where the items of the set stand that starts at `i` and closes at `p`. -/
def spans (z : α) (xs : List α) (i p : Nat) : List (Nat × Nat) :=
  spansFrom i ((segments z xs i p).map List.length)

theorem length_spans (z : α) (xs : List α) (i p : Nat) :
    (spans z xs i p).length = (segments z xs i p).length := by
  rw [spans, length_spansFrom, List.length_map]

variable [LawfulBEq α]

theorem spans_of_findFrom {z : α} {xs : List α} {i n : Nat} (hn : findFrom z xs i = some n) :
    spans z xs i n = [(i, n - i)] := by
  have hlt := (findFrom_bounds hn).2
  rw [spans, segments_of_findFrom hn]
  simp [spansFrom, length_slice_of_le (Nat.le_of_lt hlt)]

theorem spans_of_findFrom_lt {z : α} {xs : List α} {i n p : Nat}
    (hn : findFrom z xs i = some n) (hnp : n < p) :
    spans z xs i p = (i, n - i) :: spans z xs (n + 1) p := by
  obtain ⟨hin, hlt⟩ := findFrom_bounds hn
  rw [spans, segments_of_findFrom_lt hn hnp]
  simp [spansFrom, spans, length_slice_of_le (Nat.le_of_lt hlt), Nat.add_sub_cancel' hin]

/-- Every span lies inside the set and holds its item. -/
theorem Closes.slice_of_spans {z : α} {xs : List α} {i p k a n : Nat} (h : Closes z xs i p)
    (hk : (spans z xs i p)[k]? = some (a, n)) :
    i ≤ a ∧ a + n ≤ p ∧ (segments z xs i p)[k]? = some (slice xs a (a + n)) := by
  induction h using Closes.search_induction generalizing k with
  | last i _ hfind =>
      have hle := (findFrom_eq_some_iff.mp hfind).1
      rw [spans_of_findFrom hfind] at hk
      rw [segments_of_findFrom hfind]
      cases k with
      | succ k => simp at hk
      | zero =>
          simp only [List.getElem?_cons_zero, Option.some.injEq, Prod.mk.injEq] at hk
          obtain ⟨rfl, rfl⟩ := hk
          rw [Nat.add_sub_cancel' hle]
          exact ⟨le_rfl, le_rfl, rfl⟩
  | step i m _ _ hfind hmp _ ih =>
      have hle := (findFrom_eq_some_iff.mp hfind).1
      rw [spans_of_findFrom_lt hfind hmp] at hk
      rw [segments_of_findFrom_lt hfind hmp]
      cases k with
      | zero =>
          simp only [List.getElem?_cons_zero, Option.some.injEq, Prod.mk.injEq] at hk
          obtain ⟨rfl, rfl⟩ := hk
          rw [Nat.add_sub_cancel' hle]
          exact ⟨le_rfl, Nat.le_of_lt hmp, rfl⟩
      | succ k =>
          obtain ⟨hma, hap, hseg⟩ := ih hk
          exact ⟨by omega, hap, hseg⟩

/-- No separator stands inside a span. -/
theorem Closes.ne_of_spans {z : α} {xs : List α} {i p k a n j : Nat} (h : Closes z xs i p)
    (hk : (spans z xs i p)[k]? = some (a, n)) (haj : a ≤ j) (hj : j < a + n) :
    xs[j]? ≠ some z := by
  intro hz
  obtain ⟨-, -, hseg⟩ := h.slice_of_spans hk
  exact notMem_of_mem_segments (List.mem_of_getElem? hseg) (mem_slice.mpr ⟨j, haj, hj, hz⟩)

/-- A position of the set that holds no separator is inside exactly one span. -/
theorem Closes.exists_span {z : α} {xs : List α} {i p j : Nat} (h : Closes z xs i p)
    (hij : i ≤ j) (hjp : j < p) (hj : xs[j]? ≠ some z) :
    ∃ k a n : Nat, (spans z xs i p)[k]? = some (a, n) ∧ a ≤ j ∧ j < a + n ∧
      ∀ k' a' n' : Nat, (spans z xs i p)[k']? = some (a', n') → a' ≤ j → j < a' + n' →
        k' = k := by
  induction h using Closes.search_induction with
  | last i _ hfind =>
      rw [spans_of_findFrom hfind]
      refine ⟨0, i, p - i, rfl, hij, by omega, fun k' a' n' hk' _ _ => ?_⟩
      simpa using (List.getElem?_eq_some_iff.mp hk').1
  | step i m _ hrest hfind hmp _ ih =>
      obtain ⟨him, hm, -⟩ := findFrom_eq_some_iff.mp hfind
      rw [spans_of_findFrom_lt hfind hmp]
      rcases Nat.lt_trichotomy j m with hjm | rfl | hmj
      · refine ⟨0, i, m - i, rfl, hij, by omega, fun k' a' n' hk' ha' hn' => ?_⟩
        cases k' with
        | zero => rfl
        | succ k' =>
            have := (hrest.slice_of_spans hk').1
            omega
      · exact absurd hm hj
      · obtain ⟨k, a, n, hk, ha, hn, huniq⟩ := ih hmj
        refine ⟨k + 1, a, n, hk, ha, hn, fun k' a' n' hk' ha' hn' => ?_⟩
        cases k' with
        | zero =>
            simp only [List.getElem?_cons_zero, Option.some.injEq, Prod.mk.injEq] at hk'
            omega
        | succ k' => rw [huniq k' a' n' hk' ha' hn']

/-- Two spans have no position in common. -/
theorem Closes.spans_unique {z : α} {xs : List α} {i p j k k' a n a' n' : Nat}
    (h : Closes z xs i p) (hk : (spans z xs i p)[k]? = some (a, n))
    (hk' : (spans z xs i p)[k']? = some (a', n')) (hj : a ≤ j ∧ j < a + n)
    (hj' : a' ≤ j ∧ j < a' + n') : k = k' := by
  obtain ⟨hia, hap, -⟩ := h.slice_of_spans hk
  obtain ⟨m, -, -, -, -, -, huniq⟩ := h.exists_span (show i ≤ j by omega) (by omega)
    (h.ne_of_spans hk hj.1 hj.2)
  exact (huniq k a n hk hj.1 hj.2).trans (huniq k' a' n' hk' hj'.1 hj'.2).symm

theorem findFrom_congr {z : α} {xs ys : List α} {i m : Nat} (h : findFrom z xs i = some m)
    (hsep : ∀ k, i ≤ k → k ≤ m → (ys[k]? = some z ↔ xs[k]? = some z)) :
    findFrom z ys i = some m := by
  obtain ⟨him, hm, hfirst⟩ := findFrom_eq_some_iff.mp h
  refine findFrom_eq_some_iff.mpr ⟨him, (hsep m him le_rfl).mpr hm, fun k hik hkm hk => ?_⟩
  exact hfirst k hik hkm ((hsep k hik (Nat.le_of_lt hkm)).mp hk)

/-- Where the items stand depends on where the separators stand. -/
theorem Closes.spans_congr {z : α} {xs ys : List α} {i p : Nat} (h : Closes z xs i p)
    (hsep : ∀ k, i ≤ k → k ≤ p → (ys[k]? = some z ↔ xs[k]? = some z)) :
    spans z ys i p = spans z xs i p := by
  induction h using Closes.search_induction with
  | last i _ hfind =>
      rw [spans_of_findFrom hfind, spans_of_findFrom (findFrom_congr hfind hsep)]
  | step i m _ _ hfind hmp _ ih =>
      have hle := (findFrom_eq_some_iff.mp hfind).1
      have hfind' := findFrom_congr hfind fun k hik hkm => hsep k hik (by omega)
      rw [spans_of_findFrom_lt hfind hmp, spans_of_findFrom_lt hfind' hmp,
        ih fun k hmk hkp => hsep k (by omega) hkp]

end Spans

/-! ## Writing the items -/

section Terminated

/-- The items, each with a separator behind it, and one more separator. -/
def terminated (z : α) (items : List (List α)) : List α := items.flatMap (· ++ [z]) ++ [z]

theorem terminated_cons (z : α) (item : List α) (items : List (List α)) :
    terminated z (item :: items) = item ++ [z] ++ terminated z items := by
  simp [terminated]

theorem length_terminated_cons (z : α) (item : List α) (items : List (List α)) :
    (terminated z (item :: items)).length = item.length + 1 + (terminated z items).length := by
  simp only [terminated_cons, List.length_append, List.length_singleton]

theorem terminated_ne_nil (z : α) (items : List (List α)) : terminated z items ≠ [] := by
  simp [terminated]

/-- A set of items can be told from the separators behind them: it is not the
set of one empty item, and only its first item may be empty. -/
def Delimited (items : List (List α)) : Prop := items ≠ [[]] ∧ [] ∉ items.tail

/-- A function that makes no item empty keeps a set of items delimited. -/
theorem Delimited.map {β : Type*} {items : List (List α)} (h : Delimited items)
    {f : List α → List β} (hf : ∀ item, f item = [] → item = []) : Delimited (items.map f) := by
  refine ⟨fun hone => h.1 ?_, fun hmem => h.2 ?_⟩
  · obtain ⟨item, rfl, hitem⟩ := List.map_eq_singleton_iff.mp hone
    rw [hf item hitem]
  · rw [← List.map_tail, List.mem_map] at hmem
    obtain ⟨item, hitem, hnil⟩ := hmem
    rwa [hf item hnil] at hitem

/-- Shortening items shortens the set, and only that. -/
theorem length_terminated_map_le (z : α) {items : List (List α)} {f : List α → List α}
    (hf : ∀ item ∈ items, (f item).length ≤ item.length) :
    (terminated z (items.map f)).length ≤ (terminated z items).length ∧
      ((terminated z (items.map f)).length = (terminated z items).length →
        ∀ item ∈ items, (f item).length = item.length) := by
  induction items with
  | nil => simp
  | cons item items ih =>
      have hitem := hf item (by simp)
      obtain ⟨hle, heq⟩ := ih fun item hitem => hf item (by simp [hitem])
      rw [List.map_cons, length_terminated_cons, length_terminated_cons]
      refine ⟨by omega, fun hlength => ?_⟩
      rw [List.forall_mem_cons]
      exact ⟨by omega, heq (by omega)⟩

variable [BEq α] [LawfulBEq α]

/-- A set that does not start with a separator does not start with an empty item. -/
theorem Closes.head_segments_ne {z : α} {xs : List α} {i p : Nat} (h : Closes z xs i p)
    (hi : xs[i]? ≠ some z) : (segments z xs i p).head? ≠ some [] := by
  cases hfind : findFrom z xs i with
  | none => exact absurd h (not_closes_of_findFrom_none hfind p)
  | some m =>
      obtain ⟨him, hm, -⟩ := findFrom_eq_some_iff.mp hfind
      have hne : m ≠ i := by
        rintro rfl
        exact hi hm
      have hhead : (segments z xs i p).head? = some (slice xs i m) := by
        by_cases hd : xs[m + 1]? = some z
        · obtain rfl := (closes_of_doubled hfind hd).unique h
          rw [segments_of_findFrom hfind]
          rfl
        · have h' := (closes_iff_of_not_doubled hfind hd p).mp h
          rw [segments_of_findFrom_lt hfind h'.le]
          rfl
      have hlength := length_slice_of_le (i := i)
        (Nat.le_of_lt (List.getElem?_eq_some_iff.mp hm).1)
      rw [hhead, ne_eq, Option.some.injEq]
      intro hnil
      rw [hnil, List.length_nil] at hlength
      omega

/-- Only the first item of a set can be empty: behind any other the set closes. -/
theorem Closes.nil_notMem_tail {z : α} {xs : List α} {i p : Nat} (h : Closes z xs i p) :
    [] ∉ (segments z xs i p).tail := by
  induction h using Closes.search_induction with
  | last i _ hfind =>
      rw [segments_of_findFrom hfind]
      simp
  | step i m _ h' hfind hmp hd ih =>
      have hhead := h'.head_segments_ne hd
      rw [segments_of_findFrom_lt hfind hmp, List.tail_cons]
      obtain ⟨item, items, hcons⟩ := List.exists_cons_of_ne_nil (segments_ne_nil z xs (m + 1) p)
      rw [hcons] at ih hhead ⊢
      rw [List.mem_cons, not_or]
      refine ⟨fun hitem => hhead ?_, ih⟩
      rw [hitem]
      rfl

/-- The items of a set that closes behind its start are delimited. -/
theorem Closes.delimited {z : α} {xs : List α} {i p : Nat} (h : Closes z xs i p) (hpi : p ≠ i) :
    Delimited (segments z xs i p) := by
  refine ⟨fun hone => ?_, h.nil_notMem_tail⟩
  have hle := h.le
  have hlength := length_slice_of_le (i := i) (Nat.le_of_lt (Nat.lt_of_succ_lt h.lt_length))
  rw [← intercalate_segments z xs i p, hone] at hlength
  simp at hlength
  omega

/-- The stretch up to the last two separators is the items with the separators
put between them. -/
theorem terminated_segments {z : α} {xs : List α} {i p : Nat} (h : Closes z xs i p) :
    terminated z (segments z xs i p) = slice xs i (p + 2) := by
  have hjoin : ∀ items : List (List α), items ≠ [] →
      items.flatMap (· ++ [z]) = [z].intercalate items ++ [z] := by
    intro items
    induction items with
    | nil => simp
    | cons item items ih =>
        intro _
        cases items with
        | nil => simp
        | cons next items => simp [ih (by simp)]
  rw [terminated, hjoin _ (segments_ne_nil z xs i p), intercalate_segments,
    ← slice_append_slice xs h.le (show p ≤ p + 2 by omega),
    slice_eq_cons (show p < p + 2 by omega) h.doubled.2.1,
    slice_eq_cons (show p + 1 < p + 2 by omega) h.doubled.2.2, slice_self]
  simp

/-- Where an item stands with its separator behind it, one search reads the item. -/
theorem findFrom_of_agree {z : α} {item rest xs : List α} {i : Nat} (hz : z ∉ item)
    (hagree : Agree xs i (item ++ [z] ++ rest) 0 (item.length + 1 + rest.length)) :
    findFrom z xs i = some (i + item.length) ∧ slice xs i (i + item.length) = item ∧
      Agree xs (i + item.length + 1) rest 0 rest.length := by
  have hitem : Agree xs i item 0 item.length := by
    intro k hk
    rw [hagree k (by omega), Nat.zero_add, List.append_assoc, List.getElem?_append_left hk]
  refine ⟨findFrom_eq_some_iff.mpr ⟨Nat.le_add_right _ _, ?_, fun m him hm hmz => ?_⟩, ?_, ?_⟩
  · rw [hagree item.length (by omega)]
    simp
  · have := hitem (m - i) (by omega)
    rw [Nat.add_sub_cancel' him, hmz, Nat.zero_add] at this
    exact hz (List.mem_of_getElem? this.symm)
  · have := hitem.slice_eq (a := 0) le_rfl
    simpa [slice_full] using this
  · intro k hk
    rw [Nat.add_assoc, Nat.add_assoc, hagree _ (by omega),
      List.getElem?_append_right (by simp)]
    congr 1
    simp
    omega

/-- Items that are delimited close where they end, and are read back. -/
theorem closes_of_terminated {z : α} {items : List (List α)} (hne : items ≠ [])
    (hz : ∀ item ∈ items, z ∉ item) (hdel : Delimited items) {xs : List α} {i : Nat}
    (hagree : Agree xs i (terminated z items) 0 (terminated z items).length) :
    ∃ p, Closes z xs i p ∧ p + 2 = i + (terminated z items).length ∧
      segments z xs i p = items := by
  induction items generalizing i with
  | nil => exact absurd rfl hne
  | cons item items ih =>
      have hlength := length_terminated_cons z item items
      rw [hlength, terminated_cons] at hagree
      obtain ⟨hfind, hslice, hrest⟩ := findFrom_of_agree (hz item (by simp)) hagree
      have hnext : xs[i + item.length + 1]? = (terminated z items)[0]? :=
        hrest 0 (List.length_pos_iff.mpr (terminated_ne_nil z items))
      cases items with
      | nil =>
          have hclose := closes_of_doubled hfind (by rw [hnext]; simp [terminated])
          refine ⟨_, hclose, ?_, by rw [segments_of_findFrom hfind, hslice]⟩
          rw [hlength]
          simp [terminated]
          omega
      | cons next items =>
          -- the next item is not empty, so the set does not close before it
          have hnext_ne : next ≠ [] := by
            rintro rfl
            exact hdel.2 (by simp)
          have hz_next : xs[i + item.length + 1]? ≠ some z := by
            rw [hnext, terminated_cons]
            intro h
            obtain ⟨a, next, rfl⟩ := List.exists_cons_of_ne_nil hnext_ne
            refine hz (a :: next) (by simp) ?_
            simp only [List.cons_append, List.getElem?_cons_zero, Option.some.injEq] at h
            simp [h]
          have htail : Delimited (next :: items) := by
            refine ⟨by simp [hnext_ne], fun h => hdel.2 ?_⟩
            simp only [List.tail_cons] at h ⊢
            exact List.mem_cons_of_mem _ h
          obtain ⟨p, hp, hpe, hseg⟩ := ih (by simp) (fun s hs => hz s (by simp [hs])) htail hrest
          refine ⟨p, (closes_iff_of_not_doubled hfind hz_next p).mpr hp, by omega, ?_⟩
          rw [segments_of_findFrom_lt hfind (show i + item.length < p from hp.le), hslice, hseg]

end Terminated

/-! ## How far a set that never closes can be read -/

/-- `o` is one past the last `z` from `i` on, or `i` itself when there is none. -/
def PastLast (z : α) (xs : List α) (i o : Nat) : Prop :=
  (o = i ∧ ∀ m, i ≤ m → xs[m]? ≠ some z) ∨
    ∃ q, i ≤ q ∧ xs[q]? = some z ∧ (∀ m, q < m → xs[m]? ≠ some z) ∧ o = q + 1

theorem PastLast.unique {z : α} {xs : List α} {i o o' : Nat} (h : PastLast z xs i o)
    (h' : PastLast z xs i o') : o = o' := by
  rcases h with ⟨rfl, hnone⟩ | ⟨q, hiq, hq, hlast, rfl⟩
  · rcases h' with ⟨rfl, -⟩ | ⟨q', hiq', hq', -, -⟩
    · rfl
    · exact absurd hq' (hnone q' hiq')
  · rcases h' with ⟨-, hnone⟩ | ⟨q', hiq', hq', hlast', rfl⟩
    · exact absurd hq (hnone q hiq)
    · rcases Nat.lt_trichotomy q q' with hlt | rfl | hgt
      · exact absurd hq' (hlast q' hlt)
      · rfl
      · exact absurd hq (hlast' q hgt)

/-- Reading on past a separator does not move the last one. -/
theorem PastLast.of_succ {z : α} {xs : List α} {i n o : Nat} (hin : i ≤ n)
    (hz : xs[n]? = some z) (h : PastLast z xs (n + 1) o) : PastLast z xs i o := by
  rcases h with ⟨rfl, hnone⟩ | ⟨q, hnq, hq, hlast, rfl⟩
  · exact Or.inr ⟨n, hin, hz, fun m hm => hnone m hm, rfl⟩
  · exact Or.inr ⟨q, by omega, hq, hlast, rfl⟩

theorem PastLast.congr {z : α} {xs ys : List α} {i o : Nat} (h : PastLast z xs i o)
    (hsep : ∀ m, i ≤ m → (ys[m]? = some z ↔ xs[m]? = some z)) : PastLast z ys i o := by
  rcases h with ⟨rfl, hnone⟩ | ⟨q, hiq, hq, hlast, rfl⟩
  · exact Or.inl ⟨rfl, fun m hm => mt (hsep m hm).mp (hnone m hm)⟩
  · exact Or.inr ⟨q, hiq, (hsep q hiq).mpr hq,
      fun m hm => mt (hsep m (by omega)).mp (hlast m hm), rfl⟩

/-- Behind that position the separator does not stand any more. -/
theorem PastLast.none_behind {z : α} {xs : List α} {i o m : Nat} (h : PastLast z xs i o)
    (hm : o ≤ m) : xs[m]? ≠ some z := by
  rcases h with ⟨rfl, hnone⟩ | ⟨q, -, -, hlast, rfl⟩
  · exact hnone m hm
  · exact hlast m hm

theorem PastLast.bounds {z : α} {xs : List α} {i o : Nat} (h : PastLast z xs i o)
    (hi : i ≤ xs.length) : i ≤ o ∧ o ≤ xs.length := by
  rcases h with ⟨rfl, -⟩ | ⟨q, hiq, hq, -, rfl⟩
  · exact ⟨le_rfl, hi⟩
  · have := (List.getElem?_eq_some_iff.mp hq).1
    omega

/-- The same, behind another list. -/
theorem PastLast.append_left {z : α} {ys : List α} {i o : Nat} (xs : List α)
    (h : PastLast z ys i o) : PastLast z (xs ++ ys) (xs.length + i) (xs.length + o) := by
  have hget : ∀ m, (xs ++ ys)[xs.length + m]? = ys[m]? := fun m => by
    rw [List.getElem?_append_right (Nat.le_add_right _ _), Nat.add_sub_cancel_left]
  have hbehind : ∀ {q m : Nat}, (∀ m, q ≤ m → ys[m]? ≠ some z) → xs.length + q ≤ m →
      (xs ++ ys)[m]? ≠ some z := by
    intro q m hnone hm
    obtain ⟨k, rfl⟩ : ∃ k, m = xs.length + k := ⟨m - xs.length, by omega⟩
    rw [hget]
    exact hnone k (by omega)
  rcases h with ⟨rfl, hnone⟩ | ⟨q, hiq, hq, hlast, rfl⟩
  · exact Or.inl ⟨rfl, fun m hm => hbehind hnone hm⟩
  · refine Or.inr ⟨xs.length + q, by omega, by rw [hget, hq], fun m hm => ?_, by omega⟩
    exact hbehind (q := q + 1) (fun m hm => hlast m hm) (by omega)

end TruenasPydmi.Foundation
