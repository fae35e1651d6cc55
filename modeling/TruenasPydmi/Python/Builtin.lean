/-
  Python/Builtin.lean --- the built-in types and partial operations of the source
  language that the program uses.

  A `bytes` is a list of octets and a `str` a list of code points.  Operations
  that can raise return in `Except BuiltinError`: subscripting past the end, and
  `struct.unpack_from` past the buffer.  Operations that cannot, such as slices,
  are plain functions.
-/
import Mathlib.Data.Nat.Digits.Defs
import Mathlib.Data.List.DropRight
import TruenasPydmi.Foundation.Slice

set_option autoImplicit false

namespace TruenasPydmi.Python

open TruenasPydmi.Foundation

/-- `bytes`. -/
abbrev Bytes : Type := List UInt8

/-- `str`, as its code points. -/
abbrev Str : Type := List Char

/-! ## Exceptions -/

/-- The subclasses of `OSError` that a caller can tell apart. -/
inductive OSErrorClass where
  | permissionError
  | fileNotFoundError
  | isADirectoryError
  | notADirectoryError
  | interruptedError
  | timeoutError
  /-- plain `OSError`, such as `EIO` -/
  | osError
  deriving DecidableEq, Repr

/-- An `OSError` instance: its class and its `str()`. -/
structure OSError where
  cls : OSErrorClass
  text : String
  deriving DecidableEq, Repr

/-- The built-in exceptions that operations of the program can raise. -/
inductive BuiltinError where
  | indexError
  | structError
  | valueError
  | osError (error : OSError)
  deriving DecidableEq, Repr

section

variable {ε α β : Type}

@[simp] theorem pure_eq_ok (a : α) : (pure a : Except ε α) = .ok a := rfl

@[simp] theorem ok_bind (a : α) (f : α → Except ε β) : (Except.ok a >>= f) = f a := rfl

@[simp] theorem error_bind (e : ε) (f : α → Except ε β) : (Except.error e >>= f) = .error e := rfl

/-- A computation with a known value returns one with a property exactly when the
known one has it. -/
theorem exists_eq_ok_and_iff {x : Except ε α} {a : α} (h : x = .ok a) {p : α → Prop} :
    (∃ b, x = .ok b ∧ p b) ↔ p a := by
  constructor
  · rintro ⟨b, hb, hp⟩
    rw [h] at hb
    cases hb
    exact hp
  · intro hp
    exact ⟨a, h, hp⟩

/-- The same for a relation between the values of two computations. -/
theorem exists_eq_ok_and_iff₂ {x : Except ε α} {y : Except ε β} {a : α} {b : β}
    (hx : x = .ok a) (hy : y = .ok b) {p : α → β → Prop} :
    (∃ a' b', x = .ok a' ∧ y = .ok b' ∧ p a' b') ↔ p a b := by
  constructor
  · rintro ⟨a', b', ha, hb, hp⟩
    rw [hx] at ha
    rw [hy] at hb
    cases ha
    cases hb
    exact hp
  · intro hp
    exact ⟨a, b, hx, hy, hp⟩

end

/-- `try: return x` with `except ValueError: return None`. -/
def noneOnValueError {α : Type} (x : Except BuiltinError α) : Except BuiltinError (Option α) :=
  match x with
  | .ok a => .ok (some a)
  | .error .valueError => .ok none
  | .error e => .error e

/-! ## Truth values -/

/-- `bool(x)`. -/
class Truthy (α : Type) where
  /-- The truth value of a value in a condition. -/
  truthy : α → Bool

export Truthy (truthy)

instance : Truthy Nat := ⟨fun n => n != 0⟩
instance : Truthy Bool := ⟨id⟩
instance {α : Type} : Truthy (List α) := ⟨fun xs => !xs.isEmpty⟩
instance {α : Type} [Truthy α] : Truthy (Option α) := ⟨fun x => x.any truthy⟩

@[simp] theorem truthy_nat (n : Nat) : truthy n = true ↔ n ≠ 0 := by simp [truthy]
@[simp] theorem truthy_bool (b : Bool) : truthy b = b := rfl
@[simp] theorem truthy_list {α : Type} (xs : List α) : truthy xs = true ↔ xs ≠ [] := by
  simp [truthy]
@[simp] theorem truthy_none {α : Type} [Truthy α] : truthy (none : Option α) = false := rfl
@[simp] theorem truthy_some {α : Type} [Truthy α] (a : α) : truthy (some a) = truthy a := rfl

/-- `x or 0` on an `int | None`: a present zero is falsy and gives the zero on
the right, so only the absent case changes anything. -/
def orZero (x : Option Nat) : Nat := x.getD 0

@[simp] theorem orZero_none : orZero none = 0 := rfl
@[simp] theorem orZero_some (n : Nat) : orZero (some n) = n := rfl

/-! ## Bytes -/

/-- `b"..."` for a literal of ASCII characters. -/
def bytesLit (s : String) : Bytes := s.toList.map fun c => UInt8.ofNat c.toNat

/-- `xs[i]` on a `bytes`, a `tuple` or a `list`, where `i` is not negative. -/
def getItem {α : Type} (xs : List α) (i : Nat) : Except BuiltinError α :=
  match xs[i]? with
  | some a => .ok a
  | none => .error .indexError

@[simp] theorem getItem_of_getElem? {α : Type} {xs : List α} {i : Nat} {a : α}
    (h : xs[i]? = some a) : getItem xs i = .ok a := by
  simp [getItem, h]

/-- `xs[i] = a` on a `bytearray`, where `i` is not negative. -/
def setItem {α : Type} (xs : List α) (i : Nat) (a : α) : Except BuiltinError (List α) :=
  if i < xs.length then .ok (xs.set i a) else .error .indexError

/-- The value of a little-endian field. -/
def fromLE (b : Bytes) : Nat := Nat.ofDigits 256 (b.map UInt8.toNat)

/-- `struct.unpack_from(fmt, buf, offset)[0]` where `fmt` is one of `<B`, `<H`,
`<I`, `<Q` and `width` its size. -/
def unpackFrom (width : Nat) (buf : Bytes) (offset : Nat) : Except BuiltinError Nat :=
  if offset + width ≤ buf.length then .ok (fromLE (slice buf offset (offset + width)))
  else .error .structError

/-- `struct.unpack_from("<BBH", buf, offset)`. -/
def unpackFromBBH (buf : Bytes) (offset : Nat) : Except BuiltinError (Nat × Nat × Nat) :=
  if offset + 4 ≤ buf.length then
    .ok (fromLE (slice buf offset (offset + 1)),
      fromLE (slice buf (offset + 1) (offset + 2)),
      fromLE (slice buf (offset + 2) (offset + 4)))
  else .error .structError

theorem unpackFrom_of_le {width offset : Nat} {buf : Bytes} (h : offset + width ≤ buf.length) :
    unpackFrom width buf offset = .ok (fromLE (slice buf offset (offset + width))) :=
  if_pos h

theorem unpackFromBBH_of_le {offset : Nat} {buf : Bytes} (h : offset + 4 ≤ buf.length) :
    unpackFromBBH buf offset =
      .ok (fromLE (slice buf offset (offset + 1)),
        fromLE (slice buf (offset + 1) (offset + 2)),
        fromLE (slice buf (offset + 2) (offset + 4))) :=
  if_pos h

theorem fromLE_slice_one {buf : Bytes} {i : Nat} {b : UInt8} (h : buf[i]? = some b) :
    fromLE (slice buf i (i + 1)) = b.toNat := by
  rw [slice_eq_cons (Nat.lt_succ_self i) h, slice_self]
  simp [fromLE]

theorem fromLE_slice_two {buf : Bytes} {i : Nat} {b c : UInt8} (hb : buf[i]? = some b)
    (hc : buf[i + 1]? = some c) : fromLE (slice buf i (i + 2)) = b.toNat + 256 * c.toNat := by
  rw [slice_eq_cons (by omega) hb, slice_eq_cons (by omega) hc, slice_self]
  simp [fromLE, Nat.ofDigits]

/-- One hexadecimal digit of `repr`. -/
def hexDigit (n : Nat) : Char := "0123456789abcdef".toList.getD n '?'

/-- The characters between the quotes of a `repr`, and the quotes: double ones
when the text holds a single quote and no double one. -/
def reprText (s : Str) (printable : Nat → Bool) : Str :=
  let single := Char.ofNat 39
  let double := Char.ofNat 34
  let backslash := Char.ofNat 92
  let quote := if s.contains single && !s.contains double then double else single
  let escape (c : Char) : List Char :=
    if c = quote ∨ c = backslash then [backslash, c]
    else if c.toNat = 9 then [backslash, 't']
    else if c.toNat = 10 then [backslash, 'n']
    else if c.toNat = 13 then [backslash, 'r']
    else if printable c.toNat then [c]
    else [backslash, 'x', hexDigit (c.toNat / 16), hexDigit (c.toNat % 16)]
  quote :: (s.flatMap escape ++ [quote])

/-- `repr(b)` on `bytes`: printable ASCII stands for itself. -/
def reprBytes (b : Bytes) : String :=
  String.ofList ('b' :: reprText (b.map fun x => Char.ofNat x.toNat) fun n => 32 ≤ n && n < 127)

/-- `repr(s)` on a `str` of latin-1 code points: all of them are printable but
the controls, the no-break space and the soft hyphen. -/
def reprString (s : Str) : String :=
  String.ofList (reprText s fun n => (32 ≤ n && n < 127) || (161 ≤ n && n != 173))

/-- `b.decode("latin-1")`: every octet is the code point of the same number. -/
def decodeLatin1 (b : Bytes) : Str := b.map fun x => Char.ofNat x.toNat

/-- `s.encode("latin-1")`, on a text of such code points. -/
def encodeLatin1 (s : Str) : Bytes := s.map fun c => UInt8.ofNat c.toNat

theorem toNat_charOfNat (x : UInt8) : (Char.ofNat x.toNat).toNat = x.toNat := by
  have h : x.toNat.isValidChar := Or.inl (by have := x.toNat_lt; omega)
  rw [Char.ofNat, dif_pos h]
  rfl

theorem encodeLatin1_decodeLatin1 (b : Bytes) : encodeLatin1 (decodeLatin1 b) = b := by
  simp [encodeLatin1, decodeLatin1, Function.comp_def, toNat_charOfNat]

theorem decodeLatin1_encodeLatin1 {s : Str} (h : ∀ c ∈ s, c.toNat < 256) :
    decodeLatin1 (encodeLatin1 s) = s := by
  rw [decodeLatin1, encodeLatin1, List.map_map]
  refine (List.map_congr_left fun c hc => ?_).trans (List.map_id s)
  rw [Function.comp_apply, UInt8.toNat_ofNat_of_lt' (h c hc), Char.ofNat_toNat, id]

theorem toNat_lt_of_mem_decodeLatin1 {b : Bytes} {c : Char} (h : c ∈ decodeLatin1 b) :
    c.toNat < 256 := by
  obtain ⟨x, -, rfl⟩ := List.mem_map.mp h
  rw [toNat_charOfNat]
  exact x.toNat_lt

/-- Only the NUL octet decodes to the NUL character. -/
theorem nul_mem_decodeLatin1 {b : Bytes} : Char.ofNat 0 ∈ decodeLatin1 b ↔ 0 ∈ b := by
  rw [decodeLatin1, List.mem_map]
  constructor
  · rintro ⟨x, hx, h⟩
    have hzero : x = 0 := UInt8.toNat_inj.mp (by rw [← toNat_charOfNat, h]; rfl)
    rwa [hzero] at hx
  · intro h
    exact ⟨0, h, rfl⟩

/-- `b.rstrip(b"\x00")`. -/
def rstripNul (b : Bytes) : Bytes := b.rdropWhile (· == 0)

/-! ## Text -/

/-- `c.isspace()` for one code point. -/
def isSpace (c : Char) : Bool :=
  let n := c.toNat
  (9 ≤ n && n ≤ 13) || (28 ≤ n && n ≤ 32) || n == 0x85 || n == 0xA0 || n == 0x1680 ||
    (0x2000 ≤ n && n ≤ 0x200A) || n == 0x2028 || n == 0x2029 || n == 0x202F ||
    n == 0x205F || n == 0x3000

/-- `s.strip()`. -/
def strip (s : Str) : Str := (s.dropWhile isSpace).rdropWhile isSpace

theorem strip_sublist (s : Str) : (strip s).Sublist s :=
  (List.rdropWhile_prefix _ _).sublist.trans (List.dropWhile_sublist _)

theorem strip_strip (s : Str) : strip (strip s) = strip s := by
  have hhead : (strip s).dropWhile isSpace = strip s := by
    have hstart : strip s <+: s.dropWhile isSpace := List.rdropWhile_prefix _ _
    rw [List.dropWhile_eq_self_iff]
    intro hpos
    rw [hstart.getElem hpos]
    exact List.dropWhile_get_zero_not _ _ _
  rw [strip, hhead, strip, List.rdropWhile_idempotent]

/-- A text without white space is not stripped. -/
theorem strip_of_forall {s : Str} (h : ∀ c ∈ s, isSpace c = false) : strip s = s := by
  have hdrop : s.dropWhile isSpace = s :=
    List.dropWhile_eq_self_iff.mpr fun hpos => by simp [h _ (List.getElem_mem hpos)]
  rw [strip, hdrop, List.rdropWhile_eq_self_iff]
  exact fun hne => by simp [h _ (List.getLast_mem hne)]

/-- Whitespace around a text makes no difference to what is left of it. -/
theorem strip_append_append {l s r : Str} (hl : ∀ c ∈ l, isSpace c = true)
    (hr : ∀ c ∈ r, isSpace c = true) : strip (l ++ s ++ r) = strip s := by
  have hback : ∀ t : Str, (t ++ r).rdropWhile isSpace = t.rdropWhile isSpace := by
    intro t
    rw [List.rdropWhile, List.reverse_append,
      List.dropWhile_append_of_pos (by simpa using hr), List.rdropWhile]
  rw [strip, List.append_assoc, List.dropWhile_append_of_pos hl, List.dropWhile_append, strip]
  split
  · rename_i hspace
    rw [List.isEmpty_iff] at hspace
    rw [hspace, List.dropWhile_eq_nil_iff.mpr hr]
  · exact hback _

/-- `s.startswith(prefixes)` with a tuple of prefixes. -/
def startsWithAny (s : Str) (starts : List Str) : Bool := starts.any (·.isPrefixOf s)

end TruenasPydmi.Python
