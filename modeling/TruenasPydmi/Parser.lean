/-
  Parser.lean --- `private/parser.py`: the entry point and the structure stream.

  The two loops of `_walk_structures` are `Loop` values.  `stringPass` is one
  pass of the inner loop, which collects the string set of a structure;
  `walkStructure` is the body of the outer loop up to the point where the
  structure is appended, and `walkPass` the whole pass.  The source leaves the
  outer loop by `break` after an End-of-Table structure and by its condition
  when the declared end is reached; both are `Turn.done` here.
-/
import TruenasPydmi.Errors
import TruenasPydmi.Foundation.Loop
import TruenasPydmi.Foundation.Separator
import TruenasPydmi.Models

set_option autoImplicit false

namespace TruenasPydmi

open TruenasPydmi.Foundation TruenasPydmi.Python

/-! ## The entry point -/

/-- Parsed SMBIOS entry-point structure (either 2.x `_SM_` or 3.x `_SM3_`). -/
structure EntryPoint where
  major : Nat
  minor : Nat
  revision : Nat
  tableLength : Nat
  deriving DecidableEq, Repr

/-- `_parse_entry_point`. -/
def parseEntryPoint (buf : Bytes) : Except Raised EntryPoint :=
  if buf.length < 5 then protocolError "entry point too short" 0
  else if slice buf 0 5 = bytesLit "_SM3_" then
    if buf.length < 24 then protocolError "SMBIOS 3 entry point too short" 0
    else do
      let major ← getItem buf 7
      let minor ← getItem buf 8
      let revision ← getItem buf 10
      let maxSize ← unpackFrom 4 buf 12
      return { major := major.toNat, minor := minor.toNat, revision := revision.toNat,
               tableLength := maxSize }
  else if slice buf 0 4 = bytesLit "_SM_" then
    if buf.length < 31 then protocolError "SMBIOS 2 entry point too short" 0
    else do
      let major ← getItem buf 6
      let minor ← getItem buf 7
      let revision ← getItem buf 10
      if slice buf 16 21 ≠ bytesLit "_DMI_" then
        protocolError "missing _DMI_ intermediate anchor" 16
      else
        let tableLength ← unpackFrom 2 buf 22
        return { major := major.toNat, minor := minor.toNat, revision := revision.toNat,
                 tableLength := tableLength }
  else protocolError ("unknown entry point anchor: " ++ reprBytes (slice buf 0 5)) 0

/-! ## The string set of a structure -/

/-- `i < len(buf) and buf[i] == 0`. -/
def nulAt (buf : Bytes) (i : Nat) : Except BuiltinError Bool :=
  if i < buf.length then do
    let b ← getItem buf i
    return b == 0
  else return false

/-- `i + 1 < len(buf) and buf[i] == 0 and buf[i + 1] == 0`. -/
def doubleNulAt (buf : Bytes) (i : Nat) : Except BuiltinError Bool :=
  if i + 1 < buf.length then do
    let b ← getItem buf i
    if b == 0 then
      let c ← getItem buf (i + 1)
      return c == 0
    else return false
  else return false

/-- One string of a string set: `bytes(...).decode("latin-1").strip()`. -/
def text (b : Bytes) : Str := strip (decodeLatin1 b)

/-- A text is no longer than what it was stripped from. -/
theorem length_text_le (b : Bytes) : (text b).length ≤ b.length :=
  (strip_sublist _).length_le.trans (List.length_map _).le

/-- What the inner loop carries. -/
structure StringState where
  cursor : Nat
  strings : List Str

/-- One pass of the inner loop.  When the loop ends by its condition nothing has
set `terminated`. -/
def stringPass (buf : Bytes) (s : StringState) :
    Except Raised (Turn StringState (Nat × List Str)) :=
  if s.cursor < buf.length then
    match findFrom 0 buf s.cursor with
    | none => protocolError "string table not terminated" s.cursor
    | some nul => do
        let strings := s.strings ++ [text (slice buf s.cursor nul)]
        let cursor := nul + 1
        if ← nulAt buf cursor then
          return .done (cursor + 1, strings)
        else return .next { cursor := cursor, strings := strings }
  else protocolError "string table not terminated (eof)" s.cursor

theorem nulAt_eq (buf : Bytes) (i : Nat) : nulAt buf i = .ok (buf[i]? == some 0) := by
  unfold nulAt
  split
  · rename_i h
    rw [List.getElem?_eq_getElem h, getItem_of_getElem? (List.getElem?_eq_getElem h)]
    rfl
  · rename_i h
    rw [List.getElem?_eq_none (by omega)]
    rfl

/-- What a pass of the inner loop can do. -/
theorem stringPass_cases (buf : Bytes) (s : StringState) :
    (findFrom 0 buf s.cursor = none ∧ s.cursor < buf.length ∧
      stringPass buf s = protocolError "string table not terminated" s.cursor) ∨
    (buf.length ≤ s.cursor ∧
      stringPass buf s = protocolError "string table not terminated (eof)" s.cursor) ∨
    ∃ nul, findFrom 0 buf s.cursor = some nul ∧
      ((buf[nul + 1]? = some 0 ∧
          stringPass buf s =
            .ok (.done (nul + 2, s.strings ++ [text (slice buf s.cursor nul)]))) ∨
        (buf[nul + 1]? ≠ some 0 ∧
          stringPass buf s =
            .ok (.next ⟨nul + 1, s.strings ++ [text (slice buf s.cursor nul)]⟩))) := by
  by_cases hlt : s.cursor < buf.length
  · cases hfind : findFrom 0 buf s.cursor with
    | none => exact Or.inl ⟨rfl, hlt, by simp [stringPass, hlt, hfind]⟩
    | some nul =>
        refine Or.inr (Or.inr ⟨nul, rfl, ?_⟩)
        by_cases hnul : buf[nul + 1]? = some 0
        · exact Or.inl ⟨hnul, by simp [stringPass, hlt, hfind, nulAt_eq, hnul]⟩
        · exact Or.inr ⟨hnul, by simp [stringPass, hlt, hfind, nulAt_eq, hnul]⟩
  · exact Or.inr (Or.inl ⟨Nat.le_of_not_lt hlt, by simp [stringPass, hlt]⟩)

/-- The inner loop. -/
def stringLoop (buf : Bytes) : Loop Raised StringState (Nat × List Str) where
  body := stringPass buf
  measure s := buf.length - s.cursor
  decreases := by
    intro s s' h
    rcases stringPass_cases buf s with ⟨-, -, hs⟩ | ⟨-, hs⟩ | ⟨nul, hfind, ⟨-, hs⟩ | ⟨-, hs⟩⟩
    · simp [hs] at h
    · simp [hs] at h
    · simp [hs] at h
    · obtain ⟨hle, hz, -⟩ := findFrom_eq_some_iff.mp hfind
      have hlt := (List.getElem?_eq_some_iff.mp hz).1
      rw [hs] at h
      simp only [Except.ok.injEq, Turn.next.injEq] at h
      subst h
      show buf.length - (nul + 1) < buf.length - s.cursor
      omega

/-- The string set that starts at `cursor`: where the next structure starts, and
the strings. -/
def walkStrings (buf : Bytes) (cursor : Nat) : Except Raised (Nat × List Str) := do
  if ← doubleNulAt buf cursor then
    return (cursor + 2, [])
  else (stringLoop buf).run { cursor := cursor, strings := [] }

@[simp] theorem passKeeps_protocolError {σ β : Type} {P : σ → Except Raised β → Prop} {s : σ}
    {message : String} {o : Nat} :
    Loop.PassKeeps P s (protocolError message o) ↔ P s (protocolError message o) := Iff.rfl

/-! ### What the string set is

The inner loop is specified by `Closes` and `segments` where the set closes, and
by `PastLast` where it does not. -/

/-- The strings of a set that starts at `i` and closes at `p`. -/
def stringSet (buf : Bytes) (i p : Nat) : List Str :=
  if p = i then [] else (segments 0 buf i p).map text

/-- The message of the two raises for a set that never closes: the second is for
a search that stops at the very end of the data. -/
def unterminatedMessage (buf : Bytes) (o : Nat) : String :=
  if o < buf.length then "string table not terminated" else "string table not terminated (eof)"

theorem doubleNulAt_eq (buf : Bytes) (i : Nat) :
    doubleNulAt buf i = .ok (buf[i]? == some 0 && buf[i + 1]? == some 0) := by
  unfold doubleNulAt
  split
  · rename_i h
    have hi : i < buf.length := by omega
    rw [getItem_of_getElem? (List.getElem?_eq_getElem hi),
      getItem_of_getElem? (List.getElem?_eq_getElem h), List.getElem?_eq_getElem hi,
      List.getElem?_eq_getElem h]
    by_cases hz : buf[i] = 0 <;> simp [hz]
  · rename_i h
    rw [List.getElem?_eq_none (by omega : buf.length ≤ i + 1)]
    simp

theorem stringLoop_run (buf : Bytes) (s : StringState) :
    (∀ p, Closes 0 buf s.cursor p →
      (stringLoop buf).run s =
        .ok (p + 2, s.strings ++ (segments 0 buf s.cursor p).map text)) ∧
    ((∀ p, ¬ Closes 0 buf s.cursor p) → s.cursor ≤ buf.length →
      ∃ o, PastLast 0 buf s.cursor o ∧
        (stringLoop buf).run s = protocolError (unterminatedMessage buf o) o) := by
  refine Loop.run_rule (L := stringLoop buf)
    (P := fun s r =>
      (∀ p, Closes 0 buf s.cursor p →
        r = .ok (p + 2, s.strings ++ (segments 0 buf s.cursor p).map text)) ∧
      ((∀ p, ¬ Closes 0 buf s.cursor p) → s.cursor ≤ buf.length →
        ∃ o, PastLast 0 buf s.cursor o ∧ r = protocolError (unterminatedMessage buf o) o))
    (fun s => ?_) s
  show Loop.PassKeeps _ s (stringPass buf s)
  rcases stringPass_cases buf s with
    ⟨hfind, hlt, hs⟩ | ⟨hle, hs⟩ | ⟨nul, hfind, ⟨hd, hs⟩ | ⟨hd, hs⟩⟩
  · rw [hs, passKeeps_protocolError]
    refine ⟨fun p hp => absurd hp (not_closes_of_findFrom_none hfind p), fun _ _ => ?_⟩
    refine ⟨s.cursor, Or.inl ⟨rfl, findFrom_eq_none_iff.mp hfind⟩, ?_⟩
    rw [unterminatedMessage, if_pos hlt]
  · rw [hs, passKeeps_protocolError]
    refine ⟨fun p hp => ?_, fun _ hcur => ?_⟩
    · have := hp.le
      have := hp.lt_length
      omega
    · refine ⟨s.cursor, Or.inl ⟨rfl, fun m hm => ?_⟩, ?_⟩
      · rw [List.getElem?_eq_none (by omega)]
        simp
      · rw [unterminatedMessage, if_neg (Nat.not_lt.mpr hle)]
  · have hcloses := closes_of_doubled hfind hd
    rw [hs, Loop.passKeeps_done]
    refine ⟨fun p hp => ?_, fun hnone => absurd hcloses (hnone nul)⟩
    obtain rfl := hcloses.unique hp
    rw [segments_of_findFrom hfind, List.map_singleton]
  · rw [hs, Loop.passKeeps_next]
    rintro r ⟨hclosed, hopen⟩
    have hiff := closes_iff_of_not_doubled hfind hd
    obtain ⟨hle, hz, -⟩ := findFrom_eq_some_iff.mp hfind
    refine ⟨fun p hp => ?_, fun hnone hcur => ?_⟩
    · have hp' := (hiff p).mp hp
      rw [hclosed p hp', segments_of_findFrom_lt hfind (show nul < p from hp'.le)]
      simp
    · have hlt := (List.getElem?_eq_some_iff.mp hz).1
      obtain ⟨o, ho, hr⟩ := hopen (fun p hp => hnone p ((hiff p).mpr hp)) hlt
      exact ⟨o, ho.of_succ hle hz, hr⟩

/-- A set that closes is read up to its closing separator. -/
theorem walkStrings_of_closes {buf : Bytes} {i p : Nat} (h : Closes 0 buf i p) :
    walkStrings buf i = .ok (p + 2, stringSet buf i p) := by
  unfold walkStrings stringSet
  rw [doubleNulAt_eq]
  by_cases hd : buf[i]? = some 0 ∧ buf[i + 1]? = some 0
  · obtain rfl : p = i := h.eq_start_iff.mpr hd
    simp [hd]
  · rw [if_neg (mt h.eq_start_iff.mp hd)]
    simpa [hd] using (stringLoop_run buf ⟨i, []⟩).1 p h

/-- A set that never closes is reported one past the last NUL. -/
theorem walkStrings_of_not_closes {buf : Bytes} {i : Nat} (h : ∀ p, ¬ Closes 0 buf i p)
    (hi : i ≤ buf.length) :
    ∃ o, PastLast 0 buf i o ∧
      walkStrings buf i = protocolError (unterminatedMessage buf o) o := by
  have hd : ¬ (buf[i]? = some 0 ∧ buf[i + 1]? = some 0) := by
    rintro ⟨hz, hz'⟩
    obtain ⟨p, hp⟩ := exists_closes le_rfl (doubled_of_getElem? hz hz')
    exact h p hp
  unfold walkStrings
  rw [doubleNulAt_eq]
  simpa [hd] using (stringLoop_run buf ⟨i, []⟩).2 h hi

theorem walkStrings_lt {buf : Bytes} {i c : Nat} {strings : List Str}
    (h : walkStrings buf i = .ok (c, strings)) (hi : i ≤ buf.length) : i < c := by
  by_cases hclose : ∃ p, Closes 0 buf i p
  · obtain ⟨p, hp⟩ := hclose
    have hle := hp.le
    rw [walkStrings_of_closes hp] at h
    simp only [Except.ok.injEq, Prod.mk.injEq] at h
    omega
  · obtain ⟨o, -, ho⟩ := walkStrings_of_not_closes (fun p hp => hclose ⟨p, hp⟩) hi
    simp [ho] at h

/-! ## The structure stream -/

/-- The structure that starts at `offset`, in a table that ends at `stop`: the
structure, and where the next one starts. -/
def walkStructure (buf : Bytes) (stop offset : Nat) : Except Raised (RawStructure × Nat) :=
  if offset + 4 > stop then protocolError "truncated structure header" offset
  else do
    let (type, length, handle) ← unpackFromBBH buf offset
    if length < 4 then
      protocolError ("structure length " ++ toString length ++ " < 4") offset
    else
      let formattedEnd := offset + length
      if formattedEnd > stop then
        protocolError "formatted area extends past table end" offset
      else
        let formatted := slice buf (offset + 4) formattedEnd
        let (cursor, strings) ← walkStrings buf formattedEnd
        return ({ type := type, handle := handle, formatted := formatted, strings := strings },
          cursor)

/-- What the outer loop carries. -/
structure WalkState where
  offset : Nat
  structures : List RawStructure

/-- One pass of the outer loop. -/
def walkPass (buf : Bytes) (stop : Nat) (s : WalkState) :
    Except Raised (Turn WalkState (List RawStructure)) :=
  if s.offset < stop then do
    let (r, cursor) ← walkStructure buf stop s.offset
    let structures := s.structures ++ [r]
    if r.type = 127 then
      return .done structures
    else return .next { offset := cursor, structures := structures }
  else return .done s.structures

theorem walkStructure_lt {buf : Bytes} {stop offset cursor : Nat} {r : RawStructure}
    (hstop : stop ≤ buf.length) (h : walkStructure buf stop offset = .ok (r, cursor)) :
    offset < cursor := by
  unfold walkStructure at h
  split at h
  · simp at h
  · rename_i hheader
    rw [unpackFromBBH_of_le (by omega)] at h
    simp only [ok_bind, liftM_ok] at h
    split at h
    · simp at h
    · split at h
      · simp at h
      · rename_i hlength hfits
        cases hstrings : walkStrings buf
            (offset + fromLE (slice buf (offset + 1) (offset + 2))) with
        | error e => simp [hstrings] at h
        | ok result =>
            obtain ⟨c, strings⟩ := result
            have hlt := walkStrings_lt hstrings (by omega)
            simp only [hstrings, ok_bind, pure_eq_ok, Except.ok.injEq, Prod.mk.injEq] at h
            omega

/-- The outer loop over a table that ends at `stop`. -/
def walkLoop (buf : Bytes) (stop : Nat) (hstop : stop ≤ buf.length) :
    Loop Raised WalkState (List RawStructure) where
  body := walkPass buf stop
  measure s := stop - s.offset
  decreases := by
    intro s s' h
    unfold walkPass at h
    split at h
    · rename_i hlt
      cases hwalk : walkStructure buf stop s.offset with
      | error e => simp [hwalk] at h
      | ok result =>
          obtain ⟨r, cursor⟩ := result
          have hcursor := walkStructure_lt hstop hwalk
          simp only [hwalk, ok_bind] at h
          split at h
          · simp at h
          · simp only [pure_eq_ok, Except.ok.injEq, Turn.next.injEq] at h
            subst h
            show stop - cursor < stop - s.offset
            omega
    · simp at h

/-- `end`: the declared length bounds the table unless it is zero. -/
def tableEnd (buf : Bytes) (maxLength : Nat) : Nat :=
  if maxLength > 0 then min buf.length maxLength else buf.length

theorem tableEnd_le (buf : Bytes) (maxLength : Nat) : tableEnd buf maxLength ≤ buf.length := by
  unfold tableEnd
  split
  · exact Nat.min_le_left _ _
  · exact le_rfl

/-- `_walk_structures`. -/
def walkStructures (buf : Bytes) (maxLength : Nat) : Except Raised (List RawStructure) :=
  (walkLoop buf (tableEnd buf maxLength) (tableEnd_le buf maxLength)).run
    { offset := 0, structures := [] }

end TruenasPydmi
