import Mathlib.Data.List.DropRight
import Mathlib.Data.List.Infix

/-!
# Text

The `str` methods the development needs, on strings as sequences of code points: `strip`,
`lower`, substring search, slicing and decimal digits. White space and decimal digits follow the
Unicode tables of the interpreter.
-/

namespace Py

/-! ## White space -/

/-- `c.isspace()`. -/
def isSpace (c : Char) : Bool :=
  let n := c.toNat
  (9 ≤ n && n ≤ 13) || (0x1c ≤ n && n ≤ 0x20) || n == 0x85 || n == 0xa0 || n == 0x1680 ||
    (0x2000 ≤ n && n ≤ 0x200a) || n == 0x2028 || n == 0x2029 || n == 0x202f || n == 0x205f ||
    n == 0x3000

/-- Drop the white space at both ends. -/
def stripChars (cs : List Char) : List Char := (cs.dropWhile isSpace).rdropWhile isSpace

/-- `s.strip()`. -/
def strip (s : String) : String := String.ofList (stripChars s.toList)

/-- Dropping trailing white space keeps a first character that is not white space. -/
theorem dropWhile_rdropWhile {cs : List Char} (h : cs.dropWhile isSpace = cs) :
    (cs.rdropWhile isSpace).dropWhile isSpace = cs.rdropWhile isSpace := by
  have hpre : cs.rdropWhile isSpace <+: cs := List.rdropWhile_prefix isSpace cs
  cases hr : cs.rdropWhile isSpace with
  | nil => rfl
  | cons c rest =>
    rw [hr] at hpre
    obtain ⟨t, ht⟩ := hpre
    -- the first character of the prefix is the first character of `cs`
    have hc : isSpace c = false := by
      by_contra hsp
      rw [Bool.not_eq_false] at hsp
      rw [← ht, List.cons_append, List.dropWhile_cons_of_pos hsp] at h
      have hlen := congrArg List.length h
      have hle := (List.dropWhile_suffix (p := isSpace) (l := rest ++ t)).length_le
      rw [List.length_cons] at hlen
      omega
    rw [List.dropWhile_cons_of_neg (by simp [hc])]

theorem stripChars_stripChars (cs : List Char) : stripChars (stripChars cs) = stripChars cs := by
  have h : (cs.dropWhile isSpace).dropWhile isSpace = cs.dropWhile isSpace :=
    List.dropWhile_idempotent isSpace cs
  unfold stripChars
  rw [dropWhile_rdropWhile h, List.rdropWhile_idempotent]

/-- Stripping twice is stripping once. -/
@[simp] theorem strip_strip (s : String) : strip (strip s) = strip s := by
  simp only [strip, String.toList_ofList, stripChars_stripChars]

/-- A text with a first character that is not white space keeps it. -/
theorem strip_ne_empty {s : String} {c : Char} {rest : List Char} (h : s.toList = c :: rest)
    (hc : isSpace c = false) : strip s ≠ "" := by
  intro hempty
  have hlist := congrArg String.toList hempty
  unfold strip stripChars at hlist
  rw [String.toList_ofList, h, List.dropWhile_cons_of_neg (by simp [hc])] at hlist
  have hall := (List.rdropWhile_eq_nil_iff (p := isSpace) (l := c :: rest)).mp hlist
  exact absurd (hall c List.mem_cons_self) (by simp [hc])

/-- A stripped text: one that `strip` leaves as it is. -/
def Stripped (s : String) : Prop := strip s = s

instance (s : String) : Decidable (Stripped s) := inferInstanceAs (Decidable (strip s = s))

theorem stripped_strip (s : String) : Stripped (strip s) := strip_strip s

/-! ## Case, search and slices -/

/-- The lower-case form of a character, as far as a comparison with ASCII text can tell: besides
the ASCII capitals, only the Kelvin sign and the dotted capital I have a lower-case form with an
ASCII letter in it. -/
def lowerChar (c : Char) : List Char :=
  if 'A' ≤ c ∧ c ≤ 'Z' then [Char.ofNat (c.toNat + 32)]
  else if c.toNat = 0x212a then ['k']
  else if c.toNat = 0x130 then ['i', Char.ofNat 0x307]
  else [c]

/-- `s.lower()`, for text that is then compared with ASCII text. -/
def lower (s : String) : String := String.ofList (s.toList.flatMap lowerChar)

/-- `needle in s`. -/
def contains (s needle : String) : Bool := decide (needle.toList <:+: s.toList)

/-- `s.removeprefix(p)`. -/
def removePrefix (s p : String) : String :=
  if p.toList <+: s.toList then String.ofList (s.toList.drop p.toList.length) else s

/-- `s[:n]`. -/
def take (n : ℕ) (s : String) : String := String.ofList (s.toList.take n)

/-- `s.replace("Z", "+00:00")`. -/
def replaceZ (s : String) : String :=
  String.ofList (s.toList.flatMap fun c => if c = 'Z' then "+00:00".toList else [c])

/-! ## Decimal digits -/

/-- The zeros of the runs of ten decimal digits outside ASCII. -/
def decimalZeros : List ℕ :=
  [0x660, 0x6f0, 0x7c0, 0x966, 0x9e6, 0xa66, 0xae6, 0xb66, 0xbe6, 0xc66, 0xce6, 0xd66, 0xde6,
    0xe50, 0xed0, 0xf20, 0x1040, 0x1090, 0x17e0, 0x1810, 0x1946, 0x19d0, 0x1a80, 0x1a90, 0x1b50,
    0x1bb0, 0x1c40, 0x1c50, 0xa620, 0xa8d0, 0xa900, 0xa9d0, 0xa9f0, 0xaa50, 0xabf0, 0xff10,
    0x104a0, 0x10d30, 0x11066, 0x110f0, 0x11136, 0x111d0, 0x112f0, 0x11450, 0x114d0, 0x11650,
    0x116c0, 0x11730, 0x118e0, 0x11950, 0x11c50, 0x11d50, 0x11da0, 0x16a60, 0x16ac0, 0x16b50,
    0x1d7ce, 0x1d7d8, 0x1d7e2, 0x1d7ec, 0x1d7f6, 0x1e140, 0x1e2f0, 0x1e950, 0x1fbf0]

/-- The value of a decimal digit of any script. -/
def digit? (c : Char) : Option ℕ :=
  if '0' ≤ c ∧ c ≤ '9' then some (c.toNat - 48)
  else if c.toNat < 128 then none
  else (decimalZeros.find? fun z => z ≤ c.toNat ∧ c.toNat < z + 10).map (c.toNat - ·)

-- proofs about text go through the lemmas; only the kernel computes these
attribute [irreducible] strip lower contains take replaceZ digit?

/-! ## Letters of any script

`str.lower` and `str.isalnum` beyond ASCII follow tables that are no part of this development:
`CharTables` stands for them. Within ASCII both are what they are everywhere.
-/

/-- What the character database says of text outside ASCII. -/
structure CharTables where
  isAlnum : Char → Bool
  lower : String → String

namespace CharTables

variable (tables : CharTables)

/-- A character of ASCII. -/
def isAscii (c : Char) : Bool := c.toNat < 128

/-- `c.isalnum()`. -/
def isalnum (c : Char) : Bool := if isAscii c then c.isAlphanum else tables.isAlnum c

/-- `s.lower()`. -/
def lowerText (s : String) : String :=
  if s.toList.all isAscii then String.ofList (s.toList.map Char.toLower) else tables.lower s

theorem lowerText_of_ascii {s : String} (h : s.toList.all isAscii = true) :
    tables.lowerText s = String.ofList (s.toList.map Char.toLower) := by
  rw [lowerText, if_pos h]

theorem isalnum_of_ascii {c : Char} (h : isAscii c = true) :
    tables.isalnum c = c.isAlphanum := by
  rw [isalnum, if_pos h]

end CharTables

/-! ## Texts joined by a character -/

/-- Two ways to cut a list at an element: the same way, or one further to the right. -/
theorem append_cons_eq_iff {α : Type*} (x : α) (a b c d : List α) :
    a ++ x :: b = c ++ x :: d ↔ (a = c ∧ b = d) ∨ (∃ w, a = c ++ x :: w ∧ d = w ++ x :: b) ∨
      ∃ w, c = a ++ x :: w ∧ b = w ++ x :: d := by
  rw [List.append_eq_append_iff]
  constructor
  · rintro (⟨w, hc, hb⟩ | ⟨w, ha, hd⟩)
    · cases w with
      | nil =>
        rw [List.append_nil] at hc
        exact .inl ⟨hc.symm, (List.cons.inj hb).2⟩
      | cons y w =>
        obtain ⟨rfl, hrest⟩ := List.cons.inj hb
        exact .inr (.inr ⟨w, hc, hrest⟩)
    · cases w with
      | nil =>
        rw [List.append_nil] at ha
        exact .inl ⟨ha, (List.cons.inj hd).2.symm⟩
      | cons y w =>
        obtain ⟨rfl, hrest⟩ := List.cons.inj hd
        exact .inr (.inl ⟨w, ha, hrest⟩)
  · rintro (⟨rfl, rfl⟩ | ⟨w, rfl, rfl⟩ | ⟨w, rfl, rfl⟩)
    · exact .inl ⟨[], (List.append_nil _).symm, rfl⟩
    · exact .inr ⟨x :: w, rfl, rfl⟩
    · exact .inl ⟨x :: w, rfl, rfl⟩

end Py
