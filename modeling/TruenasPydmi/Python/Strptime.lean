/-
  Python/Strptime.lean --- what `strptime` accepts with `%m/%d/%Y` and `%m/%d/%y`.

  `strptimeDate` tries the alternatives of each group in their order and takes the
  first way to match.  A group of a directive matches the texts of certain numbers
  (`month_matches_iff` and the like), and the slashes between the groups leave one
  way to match at most, so that the order of the alternatives makes no difference.
-/
import TruenasPydmi.Python.Format
import TruenasPydmi.Python.Stdlib

set_option autoImplicit false

namespace TruenasPydmi.Python

/-! ## Matching -/

/-- The text is one of those a directive's group matches. -/
def Directive.Matches (d : Directive) (group : Str) : Prop :=
  ∃ alternative ∈ d.alternatives, List.Forall₂ (fun p c => p c = true) alternative group

theorem matchClasses_eq_some_iff {ps : List CharClass} {s group rest : Str} :
    matchClasses ps s = some (group, rest) ↔
      s = group ++ rest ∧ List.Forall₂ (fun p c => p c = true) ps group := by
  induction ps generalizing s group with
  | nil =>
      rw [matchClasses, Option.some.injEq, Prod.mk.injEq, List.forall₂_nil_left_iff]
      constructor
      · rintro ⟨rfl, rfl⟩
        exact ⟨rfl, rfl⟩
      · rintro ⟨rfl, rfl⟩
        exact ⟨rfl, rfl⟩
  | cons p ps ih =>
      cases s with
      | nil =>
          rw [matchClasses]
          constructor
          · intro h
            cases h
          · rintro ⟨hs, hgroup⟩
            cases hgroup
            cases hs
      | cons c s =>
          rw [matchClasses, List.forall₂_cons_left_iff]
          constructor
          · intro h
            split at h
            · rename_i hc
              obtain ⟨⟨group', rest'⟩, hmatch, heq⟩ := Option.map_eq_some_iff.mp h
              cases heq
              obtain ⟨rfl, hgroup⟩ := ih.mp hmatch
              exact ⟨rfl, c, group', hc, hgroup, rfl⟩
            · cases h
          · rintro ⟨hs, c', group', hc, hgroup, rfl⟩
            obtain ⟨rfl, rfl⟩ := List.cons.inj hs
            rw [if_pos hc]
            exact Option.map_eq_some_iff.mpr ⟨(group', rest), ih.mpr ⟨rfl, hgroup⟩, rfl⟩

theorem mem_matchFormat_iff {fmt : List Directive} {s rest : Str} {groups : List Str} :
    (groups, rest) ∈ matchFormat fmt s ↔
      s = groups.flatten ++ rest ∧ List.Forall₂ Directive.Matches fmt groups := by
  induction fmt generalizing s groups with
  | nil =>
      rw [matchFormat, List.mem_singleton, Prod.mk.injEq, List.forall₂_nil_left_iff]
      constructor
      · rintro ⟨rfl, rfl⟩
        exact ⟨rfl, rfl⟩
      · rintro ⟨rfl, rfl⟩
        exact ⟨rfl, rfl⟩
  | cons d ds ih =>
      rw [matchFormat, List.mem_flatMap, List.forall₂_cons_left_iff]
      constructor
      · rintro ⟨⟨group, s'⟩, hgroup, hrest⟩
        obtain ⟨alternative, halternative, hmatch⟩ := List.mem_filterMap.mp hgroup
        obtain ⟨rfl, hclasses⟩ := matchClasses_eq_some_iff.mp hmatch
        obtain ⟨⟨groups', rest'⟩, hmem, heq⟩ := List.mem_map.mp hrest
        cases heq
        obtain ⟨rfl, hgroups⟩ := ih.mp hmem
        refine ⟨?_, group, groups', ⟨alternative, halternative, hclasses⟩, hgroups, rfl⟩
        rw [List.flatten_cons, List.append_assoc]
      · rintro ⟨rfl, group, groups', ⟨alternative, halternative, hclasses⟩, hgroups, rfl⟩
        refine ⟨(group, groups'.flatten ++ rest), ?_, ?_⟩
        · refine List.mem_filterMap.mpr ⟨alternative, halternative, ?_⟩
          rw [List.flatten_cons, List.append_assoc]
          exact matchClasses_eq_some_iff.mpr ⟨rfl, hclasses⟩
        · exact List.mem_map.mpr ⟨(groups', rest), ih.mpr ⟨rfl, hgroups⟩, rfl⟩

/-! ## The groups -/

theorem toNat_digitChar {d : Nat} (h : d < 10) : (digitChar d).toNat = 48 + d := by
  have hall : ∀ e < 10, (digitChar e).toNat = 48 + e := by decide
  exact hall d h

/-- A class of digits. -/
theorem charRange_iff {lo hi : Nat} (hlo : lo < 10) (hhi : hi < 10) {c : Char} :
    charRange (digitChar lo) (digitChar hi) c = true ↔
      ∃ k, lo ≤ k ∧ k ≤ hi ∧ c = digitChar k := by
  have hle : charRange (digitChar lo) (digitChar hi) c = true ↔
      48 + lo ≤ c.toNat ∧ c.toNat ≤ 48 + hi := by
    rw [charRange, Bool.and_eq_true, decide_eq_true_iff, decide_eq_true_iff,
      ← toNat_digitChar hlo, ← toNat_digitChar hhi]
    rfl
  rw [hle]
  constructor
  · rintro ⟨hlower, hupper⟩
    refine ⟨c.toNat - 48, by omega, by omega, Char.toNat_inj.mp ?_⟩
    rw [toNat_digitChar (by omega)]
    omega
  · rintro ⟨k, hlower, hupper, rfl⟩
    rw [toNat_digitChar (by omega)]
    omega

theorem digit_iff {c : Char} : digit c = true ↔ ∃ k < 10, c = digitChar k := by
  have hclass : digit = charRange (digitChar 0) (digitChar 9) := rfl
  rw [hclass, charRange_iff (by decide) (by decide)]
  constructor
  · rintro ⟨k, -, hk, rfl⟩
    exact ⟨k, by omega, rfl⟩
  · rintro ⟨k, hk, rfl⟩
    exact ⟨k, Nat.zero_le k, by omega, rfl⟩

/-- With two digits there is nothing to fill up. -/
theorem formatNat_one_eq_two {n : Nat} (hten : 10 ≤ n) (h : n < 100) :
    formatNat 10 1 n = formatNat 10 2 n := by
  have hpos : formatNat 10 0 (n / 10) = [digitChar (n / 10)] := by
    rw [formatNat, Nat.digits_of_lt 10 (n / 10) (by omega) (by omega)]
    rfl
  rw [formatNat_succ (by decide), hpos, formatNat_two h]
  rfl

section

variable {group : Str} {a b c d : Nat}

theorem only_digitChar (ha : a < 10) :
    only (digitChar a) = charRange (digitChar a) (digitChar a) := by
  funext x
  rw [Bool.eq_iff_iff, charRange_iff ha ha, only, beq_iff_eq]
  constructor
  · rintro rfl
    exact ⟨a, le_refl a, le_refl a, rfl⟩
  · rintro ⟨k, hlower, hupper, rfl⟩
    rw [Nat.le_antisymm hlower hupper]

/-- A group of one digit. -/
theorem forall₂_digit_iff (ha : a < 10) (hb : b < 10) :
    List.Forall₂ (fun p c => p c = true) [charRange (digitChar a) (digitChar b)] group ↔
      ∃ n, (a ≤ n ∧ n ≤ b) ∧ group = formatNat 10 1 n := by
  simp only [List.forall₂_cons_left_iff, List.forall₂_nil_left_iff, charRange_iff ha hb]
  constructor
  · rintro ⟨_, _, ⟨k, hlower, hupper, rfl⟩, rfl, rfl⟩
    exact ⟨k, ⟨hlower, hupper⟩, (formatNat_one (by omega)).symm⟩
  · rintro ⟨n, ⟨hlower, hupper⟩, rfl⟩
    exact ⟨_, [], ⟨n, hlower, hupper, rfl⟩, rfl, formatNat_one (by omega)⟩

/-- A group of two digits. -/
theorem forall₂_digits_iff (ha : a < 10) (hb : b < 10) (hc : c < 10) (hd : d < 10) :
    List.Forall₂ (fun p c => p c = true)
        [charRange (digitChar a) (digitChar b), charRange (digitChar c) (digitChar d)] group ↔
      ∃ n, (a ≤ n / 10 ∧ n / 10 ≤ b) ∧ (c ≤ n % 10 ∧ n % 10 ≤ d) ∧ group = formatNat 10 2 n := by
  simp only [List.forall₂_cons_left_iff, List.forall₂_nil_left_iff, charRange_iff ha hb,
    charRange_iff hc hd]
  constructor
  · rintro ⟨_, _, ⟨i, hai, hib, rfl⟩, ⟨_, _, ⟨j, hcj, hjd, rfl⟩, rfl, rfl⟩, rfl⟩
    refine ⟨10 * i + j, by omega, by omega, ?_⟩
    rw [formatNat_two (by omega), show (10 * i + j) / 10 = i by omega,
      show (10 * i + j) % 10 = j by omega]
  · rintro ⟨n, ⟨han, hnb⟩, ⟨hcn, hnd⟩, rfl⟩
    exact ⟨_, _, ⟨n / 10, han, hnb, rfl⟩, ⟨_, [], ⟨n % 10, hcn, hnd, rfl⟩, rfl, rfl⟩,
      formatNat_two (by omega)⟩

theorem month_matches_iff : Directive.month.Matches group ↔
    ∃ n, (1 ≤ n ∧ n ≤ 12) ∧ (group = formatNat 10 1 n ∨ group = formatNat 10 2 n) := by
  have hmatches : Directive.month.Matches group ↔
      (∃ n, (1 ≤ n / 10 ∧ n / 10 ≤ 1) ∧ (0 ≤ n % 10 ∧ n % 10 ≤ 2) ∧ group = formatNat 10 2 n) ∨
      (∃ n, (0 ≤ n / 10 ∧ n / 10 ≤ 0) ∧ (1 ≤ n % 10 ∧ n % 10 ≤ 9) ∧ group = formatNat 10 2 n) ∨
      ∃ n, (1 ≤ n ∧ n ≤ 9) ∧ group = formatNat 10 1 n := by
    have hone := only_digitChar (show 1 < 10 by decide)
    have hzero := only_digitChar (show 0 < 10 by decide)
    rw [← forall₂_digits_iff, ← forall₂_digits_iff, ← forall₂_digit_iff, ← hone, ← hzero]
    · simp only [Directive.Matches, Directive.alternatives, List.mem_cons, List.not_mem_nil,
        or_false, exists_eq_or_imp, exists_eq_left]
      rfl
    all_goals decide
  rw [hmatches]
  constructor
  · rintro (⟨n, htens, hunits, rfl⟩ | ⟨n, htens, hunits, rfl⟩ | ⟨n, hn, rfl⟩)
    · exact ⟨n, by omega, Or.inr rfl⟩
    · exact ⟨n, by omega, Or.inr rfl⟩
    · exact ⟨n, by omega, Or.inl rfl⟩
  · rintro ⟨n, hn, rfl | rfl⟩
    · by_cases hten : n < 10
      · exact Or.inr (Or.inr ⟨n, by omega, rfl⟩)
      · exact Or.inl ⟨n, by omega, by omega, formatNat_one_eq_two (by omega) (by omega)⟩
    · by_cases hten : n < 10
      · exact Or.inr (Or.inl ⟨n, by omega, by omega, rfl⟩)
      · exact Or.inl ⟨n, by omega, by omega, rfl⟩

/-- A blank and a digit. -/
theorem forall₂_blank_iff (ha : a < 10) (hb : b < 10) :
    List.Forall₂ (fun p c => p c = true) [only ' ', charRange (digitChar a) (digitChar b)] group ↔
      ∃ n, (a ≤ n ∧ n ≤ b) ∧ group = ' ' :: formatNat 10 1 n := by
  rw [List.forall₂_cons_left_iff]
  constructor
  · rintro ⟨x, rest, hx, hrest, rfl⟩
    obtain ⟨n, hn, rfl⟩ := (forall₂_digit_iff ha hb).mp hrest
    rw [beq_iff_eq.mp hx]
    exact ⟨n, hn, rfl⟩
  · rintro ⟨n, hn, rfl⟩
    exact ⟨' ', _, beq_self_eq_true ' ', (forall₂_digit_iff ha hb).mpr ⟨n, hn, rfl⟩, rfl⟩

theorem day_matches_iff : Directive.day.Matches group ↔
    ∃ n, (1 ≤ n ∧ n ≤ 31) ∧ (group = formatNat 10 1 n ∨ group = formatNat 10 2 n ∨
      n < 10 ∧ group = ' ' :: formatNat 10 1 n) := by
  have hmatches : Directive.day.Matches group ↔
      (∃ n, (3 ≤ n / 10 ∧ n / 10 ≤ 3) ∧ (0 ≤ n % 10 ∧ n % 10 ≤ 1) ∧ group = formatNat 10 2 n) ∨
      (∃ n, (1 ≤ n / 10 ∧ n / 10 ≤ 2) ∧ (0 ≤ n % 10 ∧ n % 10 ≤ 9) ∧ group = formatNat 10 2 n) ∨
      (∃ n, (0 ≤ n / 10 ∧ n / 10 ≤ 0) ∧ (1 ≤ n % 10 ∧ n % 10 ≤ 9) ∧ group = formatNat 10 2 n) ∨
      (∃ n, (1 ≤ n ∧ n ≤ 9) ∧ group = formatNat 10 1 n) ∨
      ∃ n, (1 ≤ n ∧ n ≤ 9) ∧ group = ' ' :: formatNat 10 1 n := by
    have hthree := only_digitChar (show 3 < 10 by decide)
    have hzero := only_digitChar (show 0 < 10 by decide)
    rw [← forall₂_digits_iff, ← forall₂_digits_iff, ← forall₂_digits_iff, ← forall₂_digit_iff,
      ← forall₂_blank_iff, ← hthree, ← hzero]
    · simp only [Directive.Matches, Directive.alternatives, List.mem_cons, List.not_mem_nil,
        or_false, exists_eq_or_imp, exists_eq_left]
      rfl
    all_goals decide
  rw [hmatches]
  constructor
  · rintro (⟨n, htens, hunits, rfl⟩ | ⟨n, htens, hunits, rfl⟩ | ⟨n, htens, hunits, rfl⟩ |
      ⟨n, hn, rfl⟩ | ⟨n, hn, rfl⟩)
    · exact ⟨n, by omega, Or.inr (Or.inl rfl)⟩
    · exact ⟨n, by omega, Or.inr (Or.inl rfl)⟩
    · exact ⟨n, by omega, Or.inr (Or.inl rfl)⟩
    · exact ⟨n, by omega, Or.inl rfl⟩
    · exact ⟨n, by omega, Or.inr (Or.inr ⟨by omega, rfl⟩)⟩
  · rintro ⟨n, hn, hgroup⟩
    have hgroup' : n < 10 ∧ group = formatNat 10 1 n ∨ group = formatNat 10 2 n ∨
        n < 10 ∧ group = ' ' :: formatNat 10 1 n := by
      rcases hgroup with hone | htwo | hblank
      · by_cases hten : n < 10
        · exact Or.inl ⟨hten, hone⟩
        · exact Or.inr (Or.inl (hone.trans (formatNat_one_eq_two (by omega) (by omega))))
      · exact Or.inr (Or.inl htwo)
      · exact Or.inr (Or.inr hblank)
    rcases hgroup' with ⟨hten, rfl⟩ | rfl | ⟨hten, rfl⟩
    · exact Or.inr (Or.inr (Or.inr (Or.inl ⟨n, by omega, rfl⟩)))
    · by_cases hten : n < 10
      · exact Or.inr (Or.inr (Or.inl ⟨n, by omega, by omega, rfl⟩))
      · by_cases hthirty : n < 30
        · exact Or.inr (Or.inl ⟨n, by omega, by omega, rfl⟩)
        · exact Or.inl ⟨n, by omega, by omega, rfl⟩
    · exact Or.inr (Or.inr (Or.inr (Or.inr ⟨n, by omega, rfl⟩)))

end

/-! ## Digits of one width -/

section

variable {w n : Nat}

theorem length_formatNat (h : n < 10 ^ w) : (formatNat 10 w n).length = w := by
  induction w generalizing n with
  | zero =>
      rw [Nat.lt_one_iff.mp h]
      rfl
  | succ w ih =>
      rw [formatNat_succ (by decide), List.length_append, ih (by omega)]
      rfl

theorem digit_of_mem_formatNat {c : Char} (h : c ∈ formatNat 10 w n) : digit c = true := by
  rw [digit_iff]
  rw [formatNat, List.leftpad] at h
  rcases List.mem_append.mp h with hpad | hdigit
  · exact ⟨0, by decide, List.eq_of_mem_replicate hpad⟩
  · obtain ⟨d, hd, rfl⟩ := List.mem_map.mp hdigit
    exact ⟨d, Nat.digits_lt_base (by decide) (List.mem_reverse.mp hd), rfl⟩

/-- `int` of digits. -/
theorem intOfGroup_append (s : Str) {d : Nat} (h : d < 10) :
    intOfGroup (s ++ [digitChar d]) = 10 * intOfGroup s + d := by
  have hzero : '0'.toNat = 48 := rfl
  rw [intOfGroup, List.filter_append, List.foldl_append,
    List.filter_singleton, digit_iff.mpr ⟨d, h, rfl⟩, cond_true, List.foldl_cons, List.foldl_nil,
    toNat_digitChar h, hzero, Nat.add_sub_cancel_left]
  rfl

theorem intOfGroup_formatNat (h : n < 10 ^ w) : intOfGroup (formatNat 10 w n) = n := by
  induction w generalizing n with
  | zero =>
      rw [Nat.lt_one_iff.mp h]
      rfl
  | succ w ih =>
      rw [formatNat_succ (by decide), intOfGroup_append _ (by omega), ih (by omega)]
      omega

/-- Every text of digits writes a number. -/
theorem exists_formatNat {s : Str} (h : ∀ c ∈ s, digit c = true) :
    ∃ n < 10 ^ s.length, s = formatNat 10 s.length n := by
  induction s using List.reverseRecOn with
  | nil => exact ⟨0, by decide, rfl⟩
  | append_singleton s c ih =>
      obtain ⟨m, hm, hs⟩ := ih fun x hx => h x (List.mem_append_left _ hx)
      obtain ⟨d, hd, rfl⟩ := digit_iff.mp (h c (by simp))
      refine ⟨10 * m + d, ?_, ?_⟩
      · rw [List.length_append, List.length_singleton, Nat.pow_succ]
        omega
      · rw [List.length_append, List.length_singleton, formatNat_succ (by decide),
          show (10 * m + d) / 10 = m by omega, show (10 * m + d) % 10 = d by omega, ← hs]

theorem forall₂_replicate_digit_iff {group : Str} :
    List.Forall₂ (fun p c => p c = true) (List.replicate w digit) group ↔
      ∃ n < 10 ^ w, group = formatNat 10 w n := by
  have hdigits : List.Forall₂ (fun p c => p c = true) (List.replicate w digit) group ↔
      group.length = w ∧ ∀ c ∈ group, digit c = true := by
    induction w generalizing group with
    | zero => simp +contextual [List.length_eq_zero_iff]
    | succ w ih =>
        rw [List.replicate_succ, List.forall₂_cons_left_iff]
        simp only [ih]
        constructor
        · rintro ⟨c, rest, hc, ⟨rfl, hrest⟩, rfl⟩
          exact ⟨rfl, List.forall_mem_cons.mpr ⟨hc, hrest⟩⟩
        · rintro ⟨hlength, hall⟩
          obtain ⟨c, rest, rfl⟩ := List.exists_cons_of_length_eq_add_one hlength
          obtain ⟨hc, hrest⟩ := List.forall_mem_cons.mp hall
          exact ⟨c, rest, hc, ⟨Nat.succ.inj hlength, hrest⟩, rfl⟩
  rw [hdigits]
  constructor
  · rintro ⟨rfl, hall⟩
    exact exists_formatNat hall
  · rintro ⟨n, hn, rfl⟩
    exact ⟨length_formatNat hn, fun c => digit_of_mem_formatNat⟩

end

/-! ## The two formats -/

section

variable {group : Str}

theorem year_matches_iff :
    Directive.year.Matches group ↔ ∃ n < 10 ^ 4, group = formatNat 10 4 n := by
  rw [← forall₂_replicate_digit_iff]
  simp only [Directive.Matches, Directive.alternatives, List.mem_singleton, exists_eq_left]
  rfl

theorem shortYear_matches_iff :
    Directive.shortYear.Matches group ↔ ∃ n < 10 ^ 2, group = formatNat 10 2 n := by
  rw [← forall₂_replicate_digit_iff]
  simp only [Directive.Matches, Directive.alternatives, List.mem_singleton, exists_eq_left]
  rfl

theorem literal_matches_iff {c : Char} : (Directive.literal c).Matches group ↔ group = [c] := by
  simp [Directive.Matches, Directive.alternatives, List.forall₂_cons_left_iff, only]

theorem slash_notMem_formatNat {w n : Nat} : '/' ∉ formatNat 10 w n := by
  intro h
  exact absurd (digit_of_mem_formatNat h) (by decide)

theorem Directive.Matches.slash_notMem_month (h : Directive.month.Matches group) :
    '/' ∉ group := by
  obtain ⟨n, -, rfl | rfl⟩ := month_matches_iff.mp h
  · exact slash_notMem_formatNat
  · exact slash_notMem_formatNat

theorem Directive.Matches.slash_notMem_day (h : Directive.day.Matches group) : '/' ∉ group := by
  obtain ⟨n, -, rfl | rfl | ⟨-, rfl⟩⟩ := day_matches_iff.mp h
  · exact slash_notMem_formatNat
  · exact slash_notMem_formatNat
  · exact List.not_mem_cons_of_ne_of_not_mem (by decide) slash_notMem_formatNat

end

/-- A text has one first part before a separator. -/
theorem split_unique {c : Char} {s s' t t' : Str} (hs : c ∉ s) (hs' : c ∉ s')
    (h : s ++ c :: t = s' ++ c :: t') : s = s' ∧ t = t' := by
  have hsplit := congrArg (List.splitOn c) h
  rw [List.splitOn_append_cons_self_of_not_mem hs,
    List.splitOn_append_cons_self_of_not_mem hs'] at hsplit
  obtain ⟨rfl, -⟩ := List.cons.inj hsplit
  exact ⟨rfl, (List.cons.inj (List.append_cancel_left h)).2⟩

/-- `%m/%d/` and a year. -/
def dateFormat (last : Directive) : List Directive :=
  [.month, .literal '/', .day, .literal '/', last]

section

variable {last : Directive} {s rest : Str} {groups : List Str}

theorem mem_matchFormat_dateFormat_iff : (groups, rest) ∈ matchFormat (dateFormat last) s ↔
    ∃ m d y, groups = [m, ['/'], d, ['/'], y] ∧ s = m ++ '/' :: (d ++ '/' :: (y ++ rest)) ∧
      Directive.month.Matches m ∧ Directive.day.Matches d ∧ last.Matches y := by
  rw [mem_matchFormat_iff]
  simp only [dateFormat, List.forall₂_cons_left_iff, List.forall₂_nil_left_iff, literal_matches_iff]
  constructor
  · rintro ⟨rfl, m, _, hm, ⟨_, _, rfl, ⟨d, _, hd, ⟨_, _, rfl, ⟨y, _, hy, rfl, rfl⟩, rfl⟩, rfl⟩,
      rfl⟩, rfl⟩
    exact ⟨m, d, y, rfl, by simp, hm, hd, hy⟩
  · rintro ⟨m, d, y, rfl, rfl, hm, hd, hy⟩
    exact ⟨by simp, m, _, hm, ⟨_, _, rfl, ⟨d, _, hd, ⟨_, _, rfl, ⟨y, _, hy, rfl, rfl⟩, rfl⟩, rfl⟩,
      rfl⟩, rfl⟩

/-- The slashes leave one way to match, so it does not matter that the first way is
taken. -/
theorem head?_matchFormat_dateFormat
    (hwidth : ∀ y y', last.Matches y → last.Matches y' → y.length = y'.length)
    (h : (groups, rest) ∈ matchFormat (dateFormat last) s) :
    (matchFormat (dateFormat last) s).head? = some (groups, rest) := by
  obtain ⟨m, d, y, rfl, rfl, hm, hd, hy⟩ := mem_matchFormat_dateFormat_iff.mp h
  have hunique : ∀ x ∈ matchFormat (dateFormat last) (m ++ '/' :: (d ++ '/' :: (y ++ rest))),
      x = ([m, ['/'], d, ['/'], y], rest) := by
    rintro ⟨groups', rest'⟩ hx
    obtain ⟨m', d', y', rfl, hs, hm', hd', hy'⟩ := mem_matchFormat_dateFormat_iff.mp hx
    obtain ⟨rfl, hdays⟩ := split_unique hm.slash_notMem_month hm'.slash_notMem_month hs
    obtain ⟨rfl, hyears⟩ := split_unique hd.slash_notMem_day hd'.slash_notMem_day hdays
    obtain ⟨rfl, rfl⟩ := List.append_inj hyears (hwidth _ _ hy hy')
    rfl
  cases hmatches : matchFormat (dateFormat last) (m ++ '/' :: (d ++ '/' :: (y ++ rest))) with
  | nil =>
      rw [hmatches] at h
      exact absurd h List.not_mem_nil
  | cons x xs => rw [List.head?_cons, hunique x (by rw [hmatches]; exact List.mem_cons_self)]

theorem mkDate_eq_ok_iff {y m d : Nat} {date : Date} :
    mkDate y m d = .ok date ↔ y = date.year ∧ m = date.month ∧ d = date.day := by
  unfold mkDate
  constructor
  · intro h
    split at h
    · cases h
      exact ⟨rfl, rfl, rfl⟩
    · cases h
  · rintro ⟨rfl, rfl, rfl⟩
    exact dif_pos date.isDate

theorem strptimeDate_eq_ok_iff {date : Date}
    (hwidth : ∀ y y', last.Matches y → last.Matches y' → y.length = y'.length) :
    strptimeDate s (dateFormat last) = .ok date ↔
      ∃ m d y, s = m ++ '/' :: (d ++ '/' :: y) ∧ Directive.month.Matches m ∧
        Directive.day.Matches d ∧ last.Matches y ∧ intOfGroup m = date.month ∧
        intOfGroup d = date.day ∧
        groupYear (dateFormat last) [m, ['/'], d, ['/'], y] = date.year := by
  have hgroups : ∀ m d y : Str,
      ((groupValue (dateFormat last) [m, ['/'], d, ['/'], y] .month).getD 1 = intOfGroup m) ∧
      ((groupValue (dateFormat last) [m, ['/'], d, ['/'], y] .day).getD 1 = intOfGroup d) :=
    fun _ _ _ => ⟨rfl, rfl⟩
  constructor
  · intro h
    unfold strptimeDate at h
    cases hhead : (matchFormat (dateFormat last) s).head? with
    | none =>
        rw [hhead] at h
        cases h
    | some first =>
        obtain ⟨groups, rest⟩ := first
        obtain ⟨m, d, y, rfl, rfl, hm, hd, hy⟩ :=
          mem_matchFormat_dateFormat_iff.mp (List.mem_of_mem_head? hhead)
        rw [hhead] at h
        by_cases hrest : rest = []
        · subst hrest
          obtain ⟨hyear, hmonth, hday⟩ := mkDate_eq_ok_iff.mp h
          exact ⟨m, d, y, by rw [List.append_nil], hm, hd, hy, hmonth, hday, hyear⟩
        · simp [hrest] at h
  · rintro ⟨m, d, y, rfl, hm, hd, hy, hmonth, hday, hyear⟩
    have hhead := head?_matchFormat_dateFormat hwidth (mem_matchFormat_dateFormat_iff.mpr
      ⟨m, d, y, rfl, rfl, hm, hd, hy⟩ : ([m, ['/'], d, ['/'], y], []) ∈ _)
    rw [List.append_nil] at hhead
    unfold strptimeDate
    rw [hhead]
    exact mkDate_eq_ok_iff.mpr ⟨hyear, hmonth, hday⟩

end

end TruenasPydmi.Python
