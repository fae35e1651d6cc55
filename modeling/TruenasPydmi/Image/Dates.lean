/-
  Image/Dates.lean --- which texts of a table are release dates.

  `_parse_bios_release_date` splits the text at `/`, chooses a format by the length of
  the last part and hands the whole text to `strptime`.  `Writes` is the grammar of
  the texts that come out of this as a day; the parser accepts this grammar and
  nothing else, and each of its texts can stand in a table (`releaseDate_exact`).
-/
import TruenasPydmi.Python.Strptime
import TruenasPydmi.Image.Range

set_option autoImplicit false

namespace TruenasPydmi

open TruenasPydmi.Python

/-! ## The grammar -/

/-- The text writes the day: `MM/DD/YYYY`, where month and day may be without their
leading zero, a blank may stand for that of the day, and from 1969 to 2068 the year
may be without its century. -/
inductive Writes (d : Date) : Str → Prop where
  | intro {month day year : Str}
      (hmonth : month = formatNat 10 1 d.month ∨ month = formatNat 10 2 d.month)
      (hday : day = formatNat 10 1 d.day ∨ day = formatNat 10 2 d.day ∨
        d.day < 10 ∧ day = ' ' :: formatNat 10 1 d.day)
      (hyear : year = formatNat 10 4 d.year ∨
        (1969 ≤ d.year ∧ d.year ≤ 2068) ∧ year = formatNat 10 2 (d.year % 100)) :
      Writes d (month ++ '/' :: (day ++ '/' :: year))

/-! ## The numbers of the groups -/

section

variable {text : Str} {n : Nat}

theorem intOfGroup_of_text (hn : n < 100)
    (h : text = formatNat 10 1 n ∨ text = formatNat 10 2 n) : intOfGroup text = n := by
  rcases h with rfl | rfl
  · by_cases hten : n < 10
    · exact intOfGroup_formatNat (w := 1) hten
    · rw [formatNat_one_eq_two (by omega) hn]
      exact intOfGroup_formatNat (w := 2) hn
  · exact intOfGroup_formatNat (w := 2) hn

theorem intOfGroup_of_dayText (hn : n < 100)
    (h : text = formatNat 10 1 n ∨ text = formatNat 10 2 n ∨
      n < 10 ∧ text = ' ' :: formatNat 10 1 n) : intOfGroup text = n := by
  rcases h with hone | htwo | ⟨-, rfl⟩
  · exact intOfGroup_of_text hn (Or.inl hone)
  · exact intOfGroup_of_text hn (Or.inr htwo)
  · have hblank : intOfGroup (' ' :: formatNat 10 1 n) = intOfGroup (formatNat 10 1 n) := rfl
    rw [hblank]
    exact intOfGroup_of_text hn (Or.inl rfl)

theorem month_text (h : Directive.month.Matches text) :
    text = formatNat 10 1 (intOfGroup text) ∨ text = formatNat 10 2 (intOfGroup text) := by
  obtain ⟨n, hn, htext⟩ := month_matches_iff.mp h
  rwa [intOfGroup_of_text (by omega) htext]

theorem day_text (h : Directive.day.Matches text) :
    text = formatNat 10 1 (intOfGroup text) ∨ text = formatNat 10 2 (intOfGroup text) ∨
      intOfGroup text < 10 ∧ text = ' ' :: formatNat 10 1 (intOfGroup text) := by
  obtain ⟨n, hn, htext⟩ := day_matches_iff.mp h
  rwa [intOfGroup_of_dayText (by omega) htext]

theorem year_text (h : Directive.year.Matches text) :
    text = formatNat 10 4 (intOfGroup text) ∧ text.length = 4 ∧ '/' ∉ text := by
  obtain ⟨n, hn, rfl⟩ := year_matches_iff.mp h
  exact ⟨by rw [intOfGroup_formatNat hn], length_formatNat hn, slash_notMem_formatNat⟩

theorem shortYear_text (h : Directive.shortYear.Matches text) :
    text = formatNat 10 2 (intOfGroup text) ∧ intOfGroup text < 100 ∧ text.length = 2 ∧
      '/' ∉ text := by
  obtain ⟨n, hn, rfl⟩ := shortYear_matches_iff.mp h
  exact ⟨by rw [intOfGroup_formatNat hn], by rw [intOfGroup_formatNat hn]; exact hn,
    length_formatNat hn, slash_notMem_formatNat⟩

end

/-! ## The two formats and the grammar -/

section

variable {d : Date} {s : Str}

theorem month_bounds (d : Date) : 1 ≤ d.month ∧ d.month ≤ 12 := d.isDate.2.1

theorem day_bounds (d : Date) : 1 ≤ d.day ∧ d.day ≤ 31 := by
  have hday := d.isDate.2.2
  have hmonth : daysInMonth d.year d.month ≤ 31 := by
    unfold daysInMonth
    split
    · split <;> omega
    · split <;> omega
  omega

theorem strptime_year_iff : strptimeDate s (dateFormat .year) = .ok d ↔
    ∃ m dd y, s = m ++ '/' :: (dd ++ '/' :: y) ∧ Directive.month.Matches m ∧
      Directive.day.Matches dd ∧ Directive.year.Matches y ∧ intOfGroup m = d.month ∧
      intOfGroup dd = d.day ∧ intOfGroup y = d.year :=
  strptimeDate_eq_ok_iff fun _ _ h h' => (year_text h).2.1.trans (year_text h').2.1.symm

theorem strptime_shortYear_iff : strptimeDate s (dateFormat .shortYear) = .ok d ↔
    ∃ m dd y, s = m ++ '/' :: (dd ++ '/' :: y) ∧ Directive.month.Matches m ∧
      Directive.day.Matches dd ∧ Directive.shortYear.Matches y ∧ intOfGroup m = d.month ∧
      intOfGroup dd = d.day ∧
      (if intOfGroup y ≤ 68 then intOfGroup y + 2000 else intOfGroup y + 1900) = d.year :=
  strptimeDate_eq_ok_iff fun _ _ h h' => (shortYear_text h).2.2.1.trans
    (shortYear_text h').2.2.1.symm

theorem writes_iff : Writes d s ↔ strptimeDate s (dateFormat .year) = .ok d ∨
    strptimeDate s (dateFormat .shortYear) = .ok d := by
  have hmonth := month_bounds d
  have hday := day_bounds d
  rw [strptime_year_iff, strptime_shortYear_iff]
  constructor
  · rintro ⟨hm, hd, hy⟩
    have hm' := month_matches_iff.mpr ⟨d.month, hmonth, hm⟩
    have hd' := day_matches_iff.mpr ⟨d.day, hday, hd⟩
    have hm'' := intOfGroup_of_text (by omega) hm
    have hd'' := intOfGroup_of_dayText (by omega) hd
    rcases hy with rfl | ⟨hyear, rfl⟩
    · have hlt : d.year < 10 ^ 4 := by
        have := d.isDate.1
        omega
      exact Or.inl ⟨_, _, _, rfl, hm', hd', year_matches_iff.mpr ⟨_, hlt, rfl⟩, hm'', hd'',
        intOfGroup_formatNat hlt⟩
    · have hlt : d.year % 100 < 10 ^ 2 := by omega
      refine Or.inr ⟨_, _, _, rfl, hm', hd', shortYear_matches_iff.mpr ⟨_, hlt, rfl⟩, hm'', hd'',
        ?_⟩
      rw [intOfGroup_formatNat hlt]
      split <;> omega
  · rintro (⟨m, dd, y, rfl, hm, hd, hy, hmonth', hday', hyear⟩ |
      ⟨m, dd, y, rfl, hm, hd, hy, hmonth', hday', hyear⟩)
    · refine .intro (hmonth' ▸ month_text hm) (hday' ▸ day_text hd) (Or.inl ?_)
      exact hyear ▸ (year_text hy).1
    · obtain ⟨htext, hlt, -, -⟩ := shortYear_text hy
      refine .intro (hmonth' ▸ month_text hm) (hday' ▸ day_text hd) (Or.inr ⟨?_, ?_⟩)
      · split at hyear <;> omega
      · have hmod : d.year % 100 = intOfGroup y := by split at hyear <;> omega
        rw [hmod]
        exact htext

theorem toOption_eq_some_iff {α : Type} {x : Except BuiltinError α} {a : α} :
    x.toOption = some a ↔ x = .ok a := by
  cases x with
  | ok b => simp [Except.toOption]
  | error e => simp [Except.toOption]

theorem splitOn_parts {m dd y : Str} (hm : '/' ∉ m) (hdd : '/' ∉ dd) (hy : '/' ∉ y) :
    (m ++ '/' :: (dd ++ '/' :: y)).splitOn '/' = [m, dd, y] := by
  rw [List.splitOn_append_cons_self_of_not_mem hm, List.splitOn_append_cons_self_of_not_mem hdd,
    List.splitOn_eq_singleton hy]

/-- The length of the last part chooses the format that can match. -/
theorem releaseDate_eq_some_iff : releaseDate s = some d ↔ Writes d (strip s) := by
  unfold releaseDate
  generalize strip s = t
  rw [writes_iff]
  constructor
  · intro h
    dsimp only at h
    split at h
    · cases h
    · split at h
      · split at h
        · exact Or.inl (toOption_eq_some_iff.mp h)
        · exact Or.inr (toOption_eq_some_iff.mp h)
      · cases h
  · intro h
    have hparts : ∃ m dd y, t = m ++ '/' :: (dd ++ '/' :: y) ∧ '/' ∉ m ∧ '/' ∉ dd ∧ '/' ∉ y ∧
        strptimeDate t (if y.length = 4 then dateFormat .year else dateFormat .shortYear) =
          .ok d := by
      rcases h with hyear | hshort
      · obtain ⟨m, dd, y, rfl, hm, hd, hy, -⟩ := strptime_year_iff.mp hyear
        obtain ⟨-, hlength, hslash⟩ := year_text hy
        refine ⟨m, dd, y, rfl, hm.slash_notMem_month, hd.slash_notMem_day, hslash, ?_⟩
        rwa [if_pos hlength]
      · obtain ⟨m, dd, y, rfl, hm, hd, hy, -⟩ := strptime_shortYear_iff.mp hshort
        obtain ⟨-, -, hlength, hslash⟩ := shortYear_text hy
        refine ⟨m, dd, y, rfl, hm.slash_notMem_month, hd.slash_notMem_day, hslash, ?_⟩
        rwa [if_neg (by omega)]
    obtain ⟨m, dd, y, rfl, hm, hdd, hy, hok⟩ := hparts
    have hne : m ++ '/' :: (dd ++ '/' :: y) ≠ [] := by simp
    simp only [if_neg hne, splitOn_parts hm hdd hy]
    exact toOption_eq_some_iff.mpr hok

/-! ## Release dates in a table -/

/-- What the characters of a written day have in common. -/
def dateChar (c : Char) : Bool := digit c || c == ' ' || c == '/'

theorem dateChar_bounds {c : Char} (h : dateChar c = true) : 0 < c.toNat ∧ c.toNat < 0x100 := by
  simp only [dateChar, Bool.or_eq_true, beq_iff_eq] at h
  rcases h with (hdigit | rfl) | rfl
  · obtain ⟨k, hk, rfl⟩ := digit_iff.mp hdigit
    rw [toNat_digitChar hk]
    omega
  · decide
  · decide

theorem isSpace_digit {c : Char} (h : digit c = true) : isSpace c = false := by
  obtain ⟨k, hk, rfl⟩ := digit_iff.mp h
  have hall : ∀ e < 10, isSpace (digitChar e) = false := by decide
  exact hall k hk

theorem dateChar_of_mem_formatNat {w n : Nat} {c : Char} (h : c ∈ formatNat 10 w n) :
    dateChar c = true := by
  rw [dateChar, digit_of_mem_formatNat h]
  rfl

theorem Writes.dateChar (h : Writes d s) : ∀ c ∈ s, dateChar c = true := by
  obtain ⟨hm, hd, hy⟩ := h
  have hslash : TruenasPydmi.dateChar '/' = true := by decide
  have hblank : TruenasPydmi.dateChar ' ' = true := by decide
  refine List.forall_mem_append.mpr ⟨?_, List.forall_mem_cons.mpr ⟨hslash,
    List.forall_mem_append.mpr ⟨?_, List.forall_mem_cons.mpr ⟨hslash, ?_⟩⟩⟩⟩
  · rcases hm with rfl | rfl
    · exact fun c => dateChar_of_mem_formatNat
    · exact fun c => dateChar_of_mem_formatNat
  · rcases hd with rfl | rfl | ⟨-, rfl⟩
    · exact fun c => dateChar_of_mem_formatNat
    · exact fun c => dateChar_of_mem_formatNat
    · exact List.forall_mem_cons.mpr ⟨hblank, fun c => dateChar_of_mem_formatNat⟩
  · rcases hy with rfl | ⟨-, rfl⟩
    · exact fun c => dateChar_of_mem_formatNat
    · exact fun c => dateChar_of_mem_formatNat

/-- A written number begins with a digit and ends with one. -/
theorem formatNat_ends (w n : Nat) : ∃ c c' : Char, ∃ rest rest' : Str,
    formatNat 10 (w + 1) n = c :: rest ∧ formatNat 10 (w + 1) n = rest' ++ [c'] ∧
      isSpace c = false ∧ isSpace c' = false := by
  have hlast := formatNat_succ (show 1 < 10 by decide) w n
  have hdigit := fun c (hc : c ∈ formatNat 10 (w + 1) n) =>
    isSpace_digit (digit_of_mem_formatNat hc)
  cases hfirst : formatNat 10 (w + 1) n with
  | nil => simp [hfirst] at hlast
  | cons c rest =>
      refine ⟨c, _, rest, _, rfl, hfirst.symm.trans hlast, hdigit c ?_, hdigit _ ?_⟩
      · rw [hfirst]
        exact List.mem_cons_self
      · rw [hlast]
        exact List.mem_append_right _ (List.mem_singleton.mpr rfl)

theorem strip_eq_self {c c' : Char} {mid : Str} (hc : isSpace c = false)
    (hc' : isSpace c' = false) :
    strip (c :: (mid ++ [c'])) = c :: (mid ++ [c']) := by
  rw [strip, List.dropWhile_cons_of_neg (by simp [hc]), ← List.cons_append]
  exact List.rdropWhile_concat_neg _ _ _ (by simp [hc'])

theorem Writes.strip_eq (h : Writes d s) : strip s = s := by
  obtain @⟨m, dd, y, hm, -, hy⟩ := h
  obtain ⟨c, rest, rfl, hc⟩ : ∃ c rest, m = c :: rest ∧ isSpace c = false := by
    rcases hm with rfl | rfl
    · obtain ⟨c, -, rest, -, hfirst, -, hc, -⟩ := formatNat_ends 0 d.month
      exact ⟨c, rest, hfirst, hc⟩
    · obtain ⟨c, -, rest, -, hfirst, -, hc, -⟩ := formatNat_ends 1 d.month
      exact ⟨c, rest, hfirst, hc⟩
  obtain ⟨c', rest', rfl, hc'⟩ : ∃ c' rest', y = rest' ++ [c'] ∧ isSpace c' = false := by
    rcases hy with rfl | ⟨-, rfl⟩
    · obtain ⟨-, c', -, rest', -, hlast, -, hc'⟩ := formatNat_ends 3 d.year
      exact ⟨c', rest', hlast, hc'⟩
    · obtain ⟨-, c', -, rest', -, hlast, -, hc'⟩ := formatNat_ends 1 (d.year % 100)
      exact ⟨c', rest', hlast, hc'⟩
  have hshape : c :: rest ++ '/' :: (dd ++ '/' :: (rest' ++ [c'])) =
      c :: ((rest ++ '/' :: (dd ++ '/' :: rest')) ++ [c']) := by simp
  rw [hshape]
  exact strip_eq_self hc hc'

/-- A text of the grammar can be stored in a table as it is. -/
theorem Writes.text (h : Writes d s) : Text s where
  nul_notMem hnul := by
    have hpos := (dateChar_bounds (h.dateChar _ hnul)).1
    exact absurd hpos (by decide)
  latin1 c hc := (dateChar_bounds (h.dateChar c hc)).2
  stripped := h.strip_eq

end

/-- A BIOS with a release date. -/
def dated (s : Str) : BIOSInfo where
  handle := 0
  vendor := []
  version := []
  releaseDate := releaseDate s
  releaseDateRaw := s
  romSizeBytes := some 65536
  biosMajor := none
  biosMinor := none
  ecMajor := none
  ecMinor := none
  characteristics := 0
  characteristicsExtension := []

theorem dated_wellFormed {s : Str} (h : Text s) : (dated s).WellFormed where
  handle := show 0 < 0x10000 by decide
  vendor := .nil
  version := .nil
  releaseDate := rfl
  releaseDateRaw := h
  romSize := Or.inr (Or.inl ⟨0, by decide, rfl⟩)
  biosMajor := rfl
  biosMinor := rfl
  ecMajor := rfl
  ecMinor := rfl
  characteristics := show 0 < 0x10000000000000000 by decide
  extension := show 0 ≤ 237 by decide

/-- A release date that is read is the day that its text writes, and a text that
writes no day is read without a date.  Every text that writes a day is read from some
tables as this day; it writes no other; and every day can be written. -/
theorem releaseDate_exact :
    (∀ (ep tables : Bytes) (info : DMIInfo) (b : BIOSInfo), readTables ep tables = .ok info →
      info.bios = some b → ∀ d, b.releaseDate = some d ↔ Writes d b.releaseDateRaw) ∧
    (∀ (d : Date) (s : Str), Writes d s → Readable fun info =>
      ∃ b, info.bios = some b ∧ b.releaseDateRaw = s ∧ b.releaseDate = some d) ∧
    (∀ (d d' : Date) (s : Str), Writes d s → Writes d' s → d = d') ∧
    ∀ d : Date, Writes d
      (formatNat 10 2 d.month ++
        '/' :: (formatNat 10 2 d.day ++ '/' :: formatNat 10 4 d.year)) := by
  have hread : ∀ {d : Date} {s : Str}, Writes d s → releaseDate s = some d := fun {d s} h =>
    releaseDate_eq_some_iff.mpr (h.strip_eq.symm ▸ h)
  refine ⟨fun ep tables info b h hb d => ?_, fun d s h => ?_, fun d d' s h h' => ?_, fun d => ?_⟩
  · have hwell := (wellFormed_of_readTables h).bios b hb
    rw [hwell.releaseDate, releaseDate_eq_some_iff, hwell.releaseDateRaw.stripped]
  · have hvalid : (Record.bios (dated s)).Valid :=
      ⟨dated_wellFormed h.text, fun hnone => by cases hnone⟩
    exact hvalid.readable ⟨dated s, rfl, rfl, hread h⟩
  · exact Option.some.inj ((hread h).symm.trans (hread h'))
  · exact .intro (Or.inr rfl) (Or.inr (Or.inl rfl)) (Or.inl rfl)

end TruenasPydmi
