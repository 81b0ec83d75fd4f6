import ShelfWise.Py.Text
import Mathlib.Tactic.IntervalCases

/-!
# Decimal numbers as text

`Decimal` is the arbitrary-precision decimal of the interpreter's `decimal` module: a sign, a
coefficient and an exponent, or one of the special values. `Decimal.ofText` is the constructor
from text with its lenient syntax (surrounding white space, underscores, digits of any script)
and `Decimal.str` the scientific string of the specification. The main result is
`ofText_str`: the text of a decimal reads back as the same decimal, exponent included.
-/

namespace Py

/-- A value of the `decimal` module. -/
inductive Decimal where
  | finite (negative : Bool) (coefficient : ℕ) (exponent : ℤ)
  | infinity (negative : Bool)
  | nan (negative signalling : Bool) (payload : ℕ)
deriving DecidableEq

namespace Decimal

/-- The largest adjusted exponent of the C implementation. -/
def maxEmax : ℤ := 999999999999999999

/-- The smallest exponent of the C implementation. -/
def minEtiny : ℤ := -1999999999999999997

/-- The finite values the implementation can hold. -/
def InRange : Decimal → Prop
  | finite _ coefficient exponent =>
      minEtiny ≤ exponent ∧ exponent + (Nat.toDigits 10 coefficient).length - 1 ≤ maxEmax
  | _ => True

instance (d : Decimal) : Decidable d.InRange := by
  cases d <;> unfold InRange <;> infer_instance

/-! ## Reading -/

/-- The text with ASCII digits for the digits of any script and without underscores; `none` when
another character outside ASCII is left. -/
def asciiNumeral : List Char → Option (List Char)
  | [] => some []
  | c :: rest =>
      if c = '_' then asciiNumeral rest
      else if c.toNat < 128 then (asciiNumeral rest).map (c :: ·)
      else if isSpace c then (asciiNumeral rest).map (' ' :: ·)
      else match digit? c with
        | some n => (asciiNumeral rest).map (Nat.digitChar n :: ·)
        | none => none

/-- An optional sign in front of the rest. -/
def readSign : List Char → Bool × List Char
  | '-' :: rest => (true, rest)
  | '+' :: rest => (false, rest)
  | cs => (false, cs)

/-- The exponent part: nothing, or `e` and a signed run of digits. -/
def readExponent : List Char → Option ℤ
  | [] => some 0
  | c :: rest =>
      if c = 'e' ∨ c = 'E' then
        let (negative, ds) := readSign rest
        if ds ≠ [] ∧ ds.all Char.isDigit then
          some (if negative then -(Nat.ofDigitChars 10 ds 0 : ℤ) else Nat.ofDigitChars 10 ds 0)
        else none
      else none

/-- The digits behind the point, and what follows them. -/
def readFraction : List Char → List Char × List Char
  | '.' :: rest => (rest.takeWhile Char.isDigit, rest.dropWhile Char.isDigit)
  | cs => ([], cs)

/-- A numeral: digits with an optional point and an optional exponent, at least one digit. -/
def readNumber (negative : Bool) (cs : List Char) : Option Decimal :=
  let whole := cs.takeWhile Char.isDigit
  let (fraction, rest) := readFraction (cs.dropWhile Char.isDigit)
  if whole = [] ∧ fraction = [] then none
  else (readExponent rest).bind fun e =>
    let d := finite negative (Nat.ofDigitChars 10 (whole ++ fraction) 0) (e - fraction.length)
    if d.InRange then some d else none

/-- `inf`, `infinity`, `nan` and `snan` with an optional payload, in any case. -/
def readSpecial (negative : Bool) (cs : List Char) : Option Decimal :=
  let low := cs.flatMap lowerChar
  if low = "inf".toList ∨ low = "infinity".toList then some (infinity negative)
  else if "nan".toList <+: low ∧ (low.drop 3).all Char.isDigit then
    some (nan negative false (Nat.ofDigitChars 10 (low.drop 3) 0))
  else if "snan".toList <+: low ∧ (low.drop 4).all Char.isDigit then
    some (nan negative true (Nat.ofDigitChars 10 (low.drop 4) 0))
  else none

/-- Read a signed number, special values included. -/
def readSigned (cs : List Char) : Option Decimal :=
  let (negative, rest) := readSign cs
  match readNumber negative rest with
  | some d => some d
  | none => readSpecial negative rest

/-- `Decimal(text)`; `none` stands for `InvalidOperation`. -/
def ofText (s : String) : Option Decimal := (asciiNumeral (stripChars s.toList)).bind readSigned

/-! ## Writing -/

/-- An exponent with its sign, as in `"%+d"`. -/
def signedText (n : ℤ) : List Char :=
  (if n < 0 then '-' else '+') :: Nat.toDigits 10 n.natAbs

/-- The unsigned scientific string of `digits · 10 ^ exponent`. -/
def finiteText (digits : List Char) (exponent : ℤ) : List Char :=
  let left := exponent + digits.length
  if exponent ≤ 0 ∧ -6 < left then
    if left ≤ 0 then '0' :: '.' :: (List.replicate left.natAbs '0' ++ digits)
    else if exponent = 0 then digits
    else digits.take left.toNat ++ '.' :: digits.drop left.toNat
  else
    (if digits.length = 1 then digits else digits.take 1 ++ '.' :: digits.drop 1)
      ++ if left = 1 then [] else 'E' :: signedText (left - 1)

/-- The text of a value, as a list of characters. -/
def chars : Decimal → List Char
  | finite negative coefficient exponent =>
      (if negative then ['-'] else []) ++ finiteText (Nat.toDigits 10 coefficient) exponent
  | infinity negative => (if negative then ['-'] else []) ++ "Infinity".toList
  | nan negative signalling payload =>
      (if negative then ['-'] else []) ++ (if signalling then "sNaN".toList else "NaN".toList)
        ++ if payload = 0 then [] else Nat.toDigits 10 payload

/-- `str(d)`. -/
def str (d : Decimal) : String := String.ofList d.chars

/-! ## Integral values -/

/-- `d.is_finite()`. -/
def isFinite : Decimal → Bool
  | finite .. => true
  | _ => false

/-- The exact value of a finite decimal. -/
def toRat : Decimal → ℚ
  | finite negative coefficient exponent =>
      (if negative then -1 else 1) * coefficient * (10 : ℚ) ^ exponent
  | _ => 0

/-- `int(d)` for a finite decimal: the value without its fraction. -/
def truncate : Decimal → ℤ
  | finite negative coefficient exponent =>
      let magnitude : ℕ :=
        if 0 ≤ exponent then coefficient * 10 ^ exponent.toNat
        else coefficient / 10 ^ exponent.natAbs
      if negative then -(magnitude : ℤ) else magnitude
  | _ => 0

/-- `d == d.to_integral_value()` for a finite decimal. -/
def isIntegral : Decimal → Bool
  | finite _ coefficient exponent =>
      decide (0 ≤ exponent) || decide (10 ^ exponent.natAbs ∣ coefficient)
  | _ => false

/-! ## The text of a decimal reads back as the decimal -/

section RoundTrip

/-- The characters a finite decimal is written with. -/
def IsNumeralChar (c : Char) : Prop := c.isDigit = true ∨ c = '.' ∨ c = '-' ∨ c = '+' ∨ c = 'E'

variable {c : Char}

theorem isDigit_toNat (h : c.isDigit = true) : 48 ≤ c.toNat ∧ c.toNat ≤ 57 := by
  simp only [Char.isDigit, Bool.and_eq_true, decide_eq_true_eq, ge_iff_le,
    UInt32.le_iff_toNat_le] at h
  exact h

theorem IsNumeralChar.toNat_bounds (h : IsNumeralChar c) : 33 ≤ c.toNat ∧ c.toNat ≤ 90 := by
  rcases h with h | rfl | rfl | rfl | rfl
  · have := isDigit_toNat h
    omega
  all_goals decide

theorem IsNumeralChar.not_isSpace (h : IsNumeralChar c) : isSpace c = false := by
  obtain ⟨hlo, hhi⟩ := h.toNat_bounds
  unfold isSpace
  generalize c.toNat = n at hlo hhi
  interval_cases n <;> rfl

variable {cs : List Char}

theorem asciiNumeral_eq (h : ∀ c ∈ cs, IsNumeralChar c) : asciiNumeral cs = some cs := by
  induction cs with
  | nil => rfl
  | cons c rest ih =>
    have hc := (h c List.mem_cons_self).toNat_bounds
    have hu : c ≠ '_' := by
      rintro rfl
      exact absurd hc.2 (by decide)
    rw [asciiNumeral, if_neg hu, if_pos (by omega), ih fun a ha => h a (List.mem_cons_of_mem _ ha)]
    rfl

theorem stripChars_eq (h : ∀ c ∈ cs, isSpace c = false) : stripChars cs = cs := by
  have hd : cs.dropWhile isSpace = cs := by
    cases cs with
    | nil => rfl
    | cons c rest => rw [List.dropWhile_cons_of_neg (by simp [h c List.mem_cons_self])]
  rw [stripChars, hd, List.rdropWhile_eq_self_iff]
  intro hne
  simp [h _ (List.getLast_mem hne)]

theorem isDigit_toDigits {n : ℕ} (h : c ∈ Nat.toDigits 10 n) : c.isDigit = true :=
  Nat.isDigit_of_mem_toDigits (by decide) (by decide) h

/-- The decimal text of a number determines it. -/
theorem toDigits_injective {m n : ℕ} (h : Nat.toDigits 10 m = Nat.toDigits 10 n) : m = n := by
  have hback := congrArg (fun ds => Nat.ofDigitChars 10 ds 0) h
  simpa only [Nat.ofDigitChars_toDigits (by decide : 1 < 10) (by decide : 10 ≤ 10)] using hback

theorem all_isDigit (h : ∀ c ∈ cs, c.isDigit = true) : cs.all Char.isDigit := by
  simpa using h

/-! ### Reading the parts -/

theorem takeWhile_digits {ds : List Char} (tail : List Char) (h : ∀ c ∈ ds, c.isDigit = true)
    (ht : ∀ c, tail.head? = some c → c.isDigit = false) :
    (ds ++ tail).takeWhile Char.isDigit = ds ∧ (ds ++ tail).dropWhile Char.isDigit = tail := by
  rw [List.takeWhile_append_of_pos h, List.dropWhile_append_of_pos h]
  cases tail with
  | nil => simp
  | cons c rest =>
    have hc := ht c rfl
    simp [hc]

theorem readExponent_signedText (n : ℤ) : readExponent ('E' :: signedText n) = some n := by
  have hne : Nat.toDigits 10 n.natAbs ≠ [] := Nat.toDigits_ne_nil
  have hall : (Nat.toDigits 10 n.natAbs).all Char.isDigit := all_isDigit fun c => isDigit_toDigits
  by_cases hn : n < 0
  · simp only [readExponent, signedText, hn, if_true, readSign, hne, hall, ne_eq,
      not_false_eq_true, and_self, Nat.ofDigitChars_ten_toDigits, or_true]
    rw [Option.some.injEq]
    omega
  · simp only [readExponent, signedText, hn, if_false, readSign, hne, hall, ne_eq,
      not_false_eq_true, and_self, if_true, Nat.ofDigitChars_ten_toDigits, or_true]
    rw [Option.some.injEq]
    simp only [Bool.false_eq_true, if_false]
    omega

/-- The exponent part of the scientific string; it never starts with a digit or a point. -/
def exponentText (n : ℤ) : List Char := if n = 0 then [] else 'E' :: signedText n

theorem readExponent_exponentText (n : ℤ) : readExponent (exponentText n) = some n := by
  unfold exponentText
  split
  · rename_i h
    rw [h]
    rfl
  · exact readExponent_signedText n

theorem head?_exponentText {n : ℤ} (h : (exponentText n).head? = some c) : c = 'E' := by
  unfold exponentText at h
  split at h
  · cases h
  · exact (Option.some.inj h).symm

/-- Reading `whole`, without a point, and an exponent. -/
theorem readNumber_whole (negative : Bool) {whole : List Char} (hw : ∀ c ∈ whole, c.isDigit = true)
    (hne : whole ≠ []) (n : ℤ)
    (hr : (finite negative (Nat.ofDigitChars 10 whole 0) n).InRange) :
    readNumber negative (whole ++ exponentText n)
      = some (finite negative (Nat.ofDigitChars 10 whole 0) n) := by
  obtain ⟨ht, hd⟩ := takeWhile_digits (exponentText n) hw (by
    intro c hc
    rw [head?_exponentText hc]
    rfl)
  have hf : readFraction (exponentText n) = ([], exponentText n) := by
    cases he : exponentText n with
    | nil => rfl
    | cons c rest =>
      have hc : c = 'E' := head?_exponentText (n := n) (by rw [he]; rfl)
      subst hc
      rfl
  simp only [readNumber, ht, hd, hf, hne, false_and, if_false, readExponent_exponentText,
    Option.bind_some, List.append_nil, List.length_nil, Nat.cast_zero, sub_zero]
  rw [if_pos hr]

/-- Reading `whole.fraction` and an exponent. -/
theorem readNumber_point (negative : Bool) (whole fraction : List Char)
    (hw : ∀ c ∈ whole, c.isDigit = true) (hf : ∀ c ∈ fraction, c.isDigit = true)
    (hne : whole ≠ []) (n : ℤ)
    (hr : (finite negative (Nat.ofDigitChars 10 (whole ++ fraction) 0)
      (n - fraction.length)).InRange) :
    readNumber negative (whole ++ '.' :: (fraction ++ exponentText n))
      = some (finite negative (Nat.ofDigitChars 10 (whole ++ fraction) 0)
          (n - fraction.length)) := by
  obtain ⟨ht, hd⟩ := takeWhile_digits ('.' :: (fraction ++ exponentText n)) hw (by
    intro c hc
    rw [← Option.some.inj hc]
    rfl)
  obtain ⟨ht', hd'⟩ := takeWhile_digits (exponentText n) hf (by
    intro c hc
    rw [head?_exponentText hc]
    rfl)
  simp only [readNumber, ht, hd, readFraction, ht', hd', hne, false_and, if_false,
    readExponent_exponentText, Option.bind_some]
  rw [if_pos hr]

/-- The unsigned text reads back as the coefficient and the exponent. -/
theorem readNumber_finiteText (negative : Bool) (coefficient : ℕ) (exponent : ℤ)
    (hr : (finite negative coefficient exponent).InRange) :
    readNumber negative (finiteText (Nat.toDigits 10 coefficient) exponent)
      = some (finite negative coefficient exponent) := by
  have hdigits : ∀ c ∈ Nat.toDigits 10 coefficient, c.isDigit = true := fun c => isDigit_toDigits
  have hvalue : Nat.ofDigitChars 10 (Nat.toDigits 10 coefficient) 0 = coefficient :=
    Nat.ofDigitChars_ten_toDigits
  have hne : Nat.toDigits 10 coefficient ≠ [] := Nat.toDigits_ne_nil
  generalize Nat.toDigits 10 coefficient = digits at hdigits hvalue hne
  have hlen : 1 ≤ digits.length := List.length_pos_of_ne_nil hne
  have hsplit : ∀ k, Nat.ofDigitChars 10 (digits.take k ++ digits.drop k) 0 = coefficient := by
    intro k
    rw [List.take_append_drop, hvalue]
  have htake : ∀ k, ∀ c ∈ digits.take k, c.isDigit = true :=
    fun k c hc => hdigits c (List.mem_of_mem_take hc)
  have hdrop : ∀ k, ∀ c ∈ digits.drop k, c.isDigit = true :=
    fun k c hc => hdigits c (List.mem_of_mem_drop hc)
  unfold finiteText
  simp only
  split
  · rename_i hsmall
    split
    · -- `0.00ddd`: the point stands before the digits
      rename_i hleft
      set k := (exponent + digits.length).natAbs with hk
      have hzeros : Nat.ofDigitChars 10 (['0'] ++ (List.replicate k '0' ++ digits)) 0
          = coefficient := by
        rw [Nat.ofDigitChars_append, Nat.ofDigitChars_append, Nat.ofDigitChars_cons,
          Nat.ofDigitChars_nil, Nat.ofDigitChars_replicate_zero]
        simpa using hvalue
      have hexp : (0 : ℤ) - ((List.replicate k '0' ++ digits).length : ℤ) = exponent := by
        rw [List.length_append, List.length_replicate]
        omega
      have h := readNumber_point negative ['0']
        (List.replicate k '0' ++ digits) (by simp) (by
          intro c hc
          rcases List.mem_append.mp hc with h | h
          · rw [List.eq_of_mem_replicate h]
            rfl
          · exact hdigits c h) (by simp) 0 (by rw [hzeros, hexp]; exact hr)
      rw [hzeros, hexp] at h
      simpa [exponentText] using h
    · rename_i hleft
      split
      · -- an integer without an exponent
        rename_i hzero
        subst hzero
        have h := readNumber_whole negative hdigits hne 0 (by rw [hvalue]; exact hr)
        rw [hvalue] at h
        simpa [exponentText] using h
      · -- the point stands between the digits
        rename_i hexp0
        have hexp : (0 : ℤ) - ((digits.drop (exponent + digits.length).toNat).length : ℤ)
            = exponent := by
          rw [List.length_drop]
          omega
        have h := readNumber_point negative _ _ (htake (exponent + digits.length).toNat)
          (hdrop (exponent + digits.length).toNat) (by
            intro hnil
            have := congrArg List.length hnil
            rw [List.length_take, List.length_nil] at this
            omega) 0 (by rw [hsplit, hexp]; exact hr)
        rw [hsplit, hexp] at h
        simpa [exponentText] using h
  · -- scientific notation: one digit before the point
    have htail : (if exponent + (digits.length : ℤ) = 1 then ([] : List Char)
        else 'E' :: signedText (exponent + digits.length - 1))
          = exponentText (exponent + digits.length - 1) := by
      unfold exponentText
      by_cases h1 : exponent + (digits.length : ℤ) = 1
      · rw [if_pos h1, if_pos (by omega)]
      · rw [if_neg h1, if_neg (by omega)]
    rw [htail]
    split
    · rename_i hone
      have hexp : exponent + (digits.length : ℤ) - 1 = exponent := by omega
      have h := readNumber_whole negative hdigits hne exponent (by rw [hvalue]; exact hr)
      rw [hvalue] at h
      rw [hexp, h]
    · rename_i hone
      have hexp : exponent + (digits.length : ℤ) - 1 - ((digits.drop 1).length : ℤ) = exponent := by
        rw [List.length_drop]
        omega
      have h := readNumber_point negative _ _ (htake 1) (hdrop 1) (by
        intro hnil
        have := congrArg List.length hnil
        rw [List.length_take, List.length_nil] at this
        omega) (exponent + digits.length - 1) (by rw [hsplit, hexp]; exact hr)
      rw [hsplit, hexp] at h
      simpa only [List.append_assoc, List.cons_append] using h

theorem isNumeralChar_signedText {n : ℤ} (h : c ∈ signedText n) : IsNumeralChar c := by
  rcases List.mem_cons.mp h with rfl | h
  · by_cases hn : n < 0 <;> simp [IsNumeralChar, hn]
  · exact Or.inl (isDigit_toDigits h)

variable {digits : List Char}

/-- Everything a finite decimal is written with: its digits, zeros, a point and an exponent. -/
theorem isNumeralChar_finiteText (hd : ∀ c ∈ digits, c.isDigit = true) (exponent : ℤ)
    (h : c ∈ finiteText digits exponent) : IsNumeralChar c := by
  have hpoint : ∀ a b : List Char, (∀ x ∈ a, x.isDigit = true) → (∀ x ∈ b, x.isDigit = true) →
      ∀ x ∈ a ++ '.' :: b, IsNumeralChar x := by
    intro a b ha hb x hx
    rcases List.mem_append.mp hx with hx | hx
    · exact Or.inl (ha x hx)
    · rcases List.mem_cons.mp hx with rfl | hx
      · exact Or.inr (Or.inl rfl)
      · exact Or.inl (hb x hx)
  have htake : ∀ k, ∀ x ∈ digits.take k, x.isDigit = true :=
    fun k x hx => hd x (List.mem_of_mem_take hx)
  have hdrop : ∀ k, ∀ x ∈ digits.drop k, x.isDigit = true :=
    fun k x hx => hd x (List.mem_of_mem_drop hx)
  unfold finiteText at h
  simp only at h
  split at h
  · split at h
    · refine hpoint ['0'] _ (by simp) (fun x hx => ?_) c h
      rcases List.mem_append.mp hx with hx | hx
      · rw [List.eq_of_mem_replicate hx]
        rfl
      · exact hd x hx
    · split at h
      · exact Or.inl (hd c h)
      · exact hpoint _ _ (htake _) (hdrop _) c h
  · rcases List.mem_append.mp h with h | h
    · split at h
      · exact Or.inl (hd c h)
      · exact hpoint _ _ (htake _) (hdrop _) c h
    · split at h
      · cases h
      · rcases List.mem_cons.mp h with rfl | h
        · simp [IsNumeralChar]
        · exact isNumeralChar_signedText h

/-- The unsigned text starts with a digit, so it cannot be taken for a sign. -/
theorem head?_finiteText (hd : ∀ c ∈ digits, c.isDigit = true) (hne : digits ≠ []) (exponent : ℤ) :
    ∃ c rest, finiteText digits exponent = c :: rest ∧ c.isDigit = true := by
  obtain ⟨a, as, rfl⟩ := List.exists_cons_of_ne_nil hne
  have ha : a.isDigit = true := hd a List.mem_cons_self
  unfold finiteText
  simp only
  split
  · split
    · exact ⟨'0', _, rfl, rfl⟩
    · split
      · exact ⟨a, as, rfl, ha⟩
      · rename_i hleft _
        obtain ⟨k, hk⟩ : ∃ k, (exponent + ((a :: as).length : ℤ)).toNat = k + 1 :=
          ⟨(exponent + ((a :: as).length : ℤ)).toNat - 1, by omega⟩
        rw [hk, List.take_succ_cons]
        exact ⟨a, _, rfl, ha⟩
  · split
    · exact ⟨a, _, rfl, ha⟩
    · exact ⟨a, _, rfl, ha⟩

theorem readSign_of_isDigit {rest : List Char} (h : c.isDigit = true) :
    readSign (c :: rest) = (false, c :: rest) := by
  have hminus : c ≠ '-' := by
    rintro rfl
    cases h
  have hplus : c ≠ '+' := by
    rintro rfl
    cases h
  unfold readSign
  split
  · rename_i heq
    exact absurd (List.cons.inj heq).1 hminus
  · rename_i heq
    exact absurd (List.cons.inj heq).1 hplus
  · rfl

/-- The text of a finite decimal reads back as the same decimal, exponent included. -/
theorem ofText_str {negative : Bool} {coefficient : ℕ} {exponent : ℤ}
    (hr : (finite negative coefficient exponent).InRange) :
    ofText (finite negative coefficient exponent).str
      = some (finite negative coefficient exponent) := by
  have hdigits : ∀ c ∈ Nat.toDigits 10 coefficient, c.isDigit = true := fun c => isDigit_toDigits
  have hchars : ∀ c ∈ (finite negative coefficient exponent).chars, IsNumeralChar c := by
    intro c hc
    rcases List.mem_append.mp hc with hc | hc
    · cases negative
      · cases hc
      · rw [List.mem_singleton.mp hc]
        simp [IsNumeralChar]
    · exact isNumeralChar_finiteText hdigits exponent hc
  have hstrip : stripChars (finite negative coefficient exponent).chars
      = (finite negative coefficient exponent).chars :=
    stripChars_eq fun c hc => (hchars c hc).not_isSpace
  rw [ofText, str, String.toList_ofList, hstrip, asciiNumeral_eq hchars, Option.bind_some]
  have hread := readNumber_finiteText negative coefficient exponent hr
  obtain ⟨c, rest, hc, hcd⟩ := head?_finiteText hdigits Nat.toDigits_ne_nil exponent
  cases negative
  · simp only [readSigned, chars, Bool.false_eq_true, if_false, List.nil_append]
    rw [hc, readSign_of_isDigit hcd, ← hc, hread]
  · simp only [readSigned, chars, if_true, List.cons_append, List.nil_append, readSign, hread]

end RoundTrip

end Decimal

end Py
