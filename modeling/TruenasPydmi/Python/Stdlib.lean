/-
  Python/Stdlib.lean --- the two standard-library calls of the decoders:
  `datetime.strptime(s, fmt).date()` and `UUID(bytes_le=...)`.

  `strptime` compiles its format to a regular expression whose groups are
  alternations of character-class sequences, takes the first way the expression
  matches a prefix of the text, and raises `ValueError` when there is none, when
  text is left over, or when the numbers name no day of the calendar.
  `Directive.alternatives` lists the alternations in the order in which they are
  tried.

  Values that an exception would have prevented cannot be built: a `Date` is a
  day of the calendar and a `UUID` has sixteen octets.
-/
import TruenasPydmi.Python.Builtin

set_option autoImplicit false

namespace TruenasPydmi.Python

open TruenasPydmi.Foundation

/-! ## Dates -/

/-- `calendar.isleap(year)`. -/
def isLeap (year : Nat) : Bool := year % 4 == 0 && (year % 100 != 0 || year % 400 == 0)

/-- The number of days of a month. -/
def daysInMonth (year month : Nat) : Nat :=
  if month = 2 then (if isLeap year then 29 else 28)
  else if month = 4 ∨ month = 6 ∨ month = 9 ∨ month = 11 then 30
  else 31

/-- The three numbers name a day that `datetime.date` can hold. -/
def IsDate (year month day : Nat) : Prop :=
  (1 ≤ year ∧ year ≤ 9999) ∧ (1 ≤ month ∧ month ≤ 12) ∧ (1 ≤ day ∧ day ≤ daysInMonth year month)

instance (year month day : Nat) : Decidable (IsDate year month day) :=
  inferInstanceAs (Decidable (_ ∧ _ ∧ _))

/-- `datetime.date`. -/
structure Date where
  year : Nat
  month : Nat
  day : Nat
  isDate : IsDate year month day
  deriving DecidableEq, Repr

instance : Truthy Date := ⟨fun _ => true⟩

/-- `date(year, month, day)`. -/
def mkDate (year month day : Nat) : Except BuiltinError Date :=
  if h : IsDate year month day then .ok ⟨year, month, day, h⟩ else .error .valueError

/-- One item of a `strptime` format. -/
inductive Directive where
  /-- `%m` -/
  | month
  /-- `%d` -/
  | day
  /-- `%Y` -/
  | year
  /-- `%y` -/
  | shortYear
  /-- any other character stands for itself -/
  | literal (c : Char)
  deriving DecidableEq

/-- A character class of the compiled expression. -/
abbrev CharClass : Type := Char → Bool

/-- The class `[lo-hi]`. -/
def charRange (lo hi : Char) : CharClass := fun c => lo ≤ c && c ≤ hi

/-- `\d`, on the code points a latin-1 text can hold. -/
def digit : CharClass := charRange '0' '9'

/-- The class of one character. -/
def only (c : Char) : CharClass := fun d => d == c

/-- The alternatives of a directive's group, in the order they are tried. -/
def Directive.alternatives : Directive → List (List CharClass)
  | .month => [[only '1', charRange '0' '2'], [only '0', charRange '1' '9'], [charRange '1' '9']]
  | .day =>
      [[only '3', charRange '0' '1'], [charRange '1' '2', digit], [only '0', charRange '1' '9'],
        [charRange '1' '9'], [only ' ', charRange '1' '9']]
  | .year => [[digit, digit, digit, digit]]
  | .shortYear => [[digit, digit]]
  | .literal c => [[only c]]

/-- Match a sequence of classes at the start of a text: what matched, and the rest. -/
def matchClasses : List CharClass → Str → Option (Str × Str)
  | [], s => some ([], s)
  | _ :: _, [] => none
  | p :: ps, c :: s =>
      if p c then (matchClasses ps s).map fun (matched, rest) => (c :: matched, rest) else none

/-- Every way a format matches a prefix of a text, the first one tried first. -/
def matchFormat : List Directive → Str → List (List Str × Str)
  | [], s => [([], s)]
  | d :: ds, s =>
      (d.alternatives.filterMap fun alternative => matchClasses alternative s).flatMap
        fun (group, rest) =>
          (matchFormat ds rest).map fun (groups, rest') => (group :: groups, rest')

/-- `int(group)` on a group that matched: its digits in base ten, a leading
blank being ignored. -/
def intOfGroup (group : Str) : Nat :=
  (group.filter digit).foldl (fun n c => 10 * n + (c.toNat - '0'.toNat)) 0

/-- The number a format's groups give to a directive, or the default. -/
def groupValue (fmt : List Directive) (groups : List Str) (d : Directive) : Option Nat :=
  ((fmt.zip groups).find? fun p => p.1 == d).map fun p => intOfGroup p.2

/-- The year of a match: `%y` counts from 1969 to 2068. -/
def groupYear (fmt : List Directive) (groups : List Str) : Nat :=
  match groupValue fmt groups .year, groupValue fmt groups .shortYear with
  | some year, _ => year
  | none, some year => if year ≤ 68 then year + 2000 else year + 1900
  | none, none => 1900

/-- `datetime.strptime(s, fmt).date()`. -/
def strptimeDate (s : Str) (fmt : List Directive) : Except BuiltinError Date :=
  match (matchFormat fmt s).head? with
  | none => .error .valueError
  | some (groups, rest) =>
      if rest = [] then
        mkDate (groupYear fmt groups) ((groupValue fmt groups .month).getD 1)
          ((groupValue fmt groups .day).getD 1)
      else .error .valueError

/-- `strptime` raises nothing but `ValueError`. -/
theorem strptimeDate_error {s : Str} {fmt : List Directive} {e : BuiltinError}
    (h : strptimeDate s fmt = .error e) : e = .valueError := by
  unfold strptimeDate at h
  split at h
  · simpa using h.symm
  · split at h
    · unfold mkDate at h
      split at h
      · simp at h
      · simpa using h.symm
    · simpa using h.symm

/-! ## UUIDs -/

/-- `uuid.UUID`, as its big-endian octets. -/
structure UUID where
  bytes : Bytes
  length_eq : bytes.length = 16
  deriving DecidableEq, Repr

instance : Truthy UUID := ⟨fun _ => true⟩

/-- The octets of a UUID from its `bytes_le` form: the first three fields are
stored the other way round. -/
def swapBytesLE (b : Bytes) : Bytes :=
  (slice b 0 4).reverse ++ (slice b 4 6).reverse ++ (slice b 6 8).reverse ++ b.drop 8

theorem length_swapBytesLE {b : Bytes} (h : b.length = 16) : (swapBytesLE b).length = 16 := by
  simp [swapBytesLE, length_slice, h]

/-- `UUID(bytes_le=b)`. -/
def uuidOfBytesLE (b : Bytes) : Except BuiltinError UUID :=
  if h : b.length = 16 then .ok ⟨swapBytesLE b, length_swapBytesLE h⟩ else .error .valueError

end TruenasPydmi.Python
