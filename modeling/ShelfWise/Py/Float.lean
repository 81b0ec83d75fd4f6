import ShelfWise.Py.Value
import ShelfWise.Py.Datetime

/-!
# Reading floats

`float(text)`: the numerals the interpreter accepts and the double nearest to what they denote, ties
to the even significand.
-/

namespace Py

namespace FloatValue

/-! ## Rounding -/

/-- The greatest `k` with `2 ^ k ≤ q`, for a positive `q`. -/
def floorLog2 (q : ℚ) : ℤ :=
  let k : ℤ := (Nat.log2 q.num.natAbs : ℤ) - Nat.log2 q.den
  if (2 : ℚ) ^ k ≤ q then k else k - 1

/-- The integer nearest to `q`, ties to even. -/
def roundHalfEven (q : ℚ) : ℤ :=
  let low := q.floor
  if q - low < 1 / 2 then low
  else if 1 / 2 < q - low then low + 1
  else if low % 2 = 0 then low else low + 1

/-- The double nearest to a rational. -/
def ofRat (q : ℚ) : FloatValue :=
  if q = 0 then .finite 0
  else
    let e := max (-1074) (floorLog2 |q| - 52)
    let magnitude := roundHalfEven (|q| / (2 : ℚ) ^ e) * (2 : ℚ) ^ e
    if (2 : ℚ) ^ (1024 : ℤ) ≤ magnitude then .infinity (q < 0)
    else .finite (if q < 0 then -magnitude else magnitude)

/-! ## Numerals -/

/-- The text with ASCII digits for the digits of any script. An underscore may only stand between
digits, and is dropped. -/
def asciiFloat : Bool → List Char → Option (List Char)
  | _, [] => some []
  | afterDigit, c :: rest =>
    if c = '_' then
      if afterDigit ∧ (rest.head?.bind digit?).isSome then asciiFloat false rest else none
    else match digit? c with
      | some n => (asciiFloat true rest).map (Nat.digitChar n :: ·)
      | none =>
        if c.toNat < 128 then (asciiFloat false rest).map (c :: ·)
        else if isSpace c then (asciiFloat false rest).map (' ' :: ·)
        else none

/-- A numeral without its sign: digits with an optional point and an optional exponent. -/
def readRat (cs : List Char) : Option ℚ :=
  let whole := cs.takeWhile Char.isDigit
  let (fraction, rest) := Decimal.readFraction (cs.dropWhile Char.isDigit)
  if whole = [] ∧ fraction = [] then none
  else (Decimal.readExponent rest).map fun e : ℤ =>
    (Nat.ofDigitChars 10 (whole ++ fraction) 0 : ℚ) * (10 : ℚ) ^ (e - (fraction.length : ℤ))

/-- `inf`, `infinity` and `nan`, in any case. -/
def readSpecial (negative : Bool) (cs : List Char) : Option FloatValue :=
  let low := cs.flatMap lowerChar
  if low = "inf".toList ∨ low = "infinity".toList then some (.infinity negative)
  else if low = "nan".toList then some .nan
  else none

/-- `float(text)`; `none` stands for `ValueError`. -/
def ofText (s : String) : Option FloatValue :=
  (asciiFloat false (stripChars s.toList)).bind fun cs =>
    let (negative, body) := Decimal.readSign cs
    match readRat body with
    | some q => some (ofRat (if negative then -q else q))
    | none => readSpecial negative body

/-! ## Arithmetic of floats

Each operation on doubles gives the double nearest to the exact result. An integer that takes part is
made a double first, and refused when it is too large to be one.
-/

/-! ## Integers and doubles -/

/-- `float(n)`. -/
def ofInt (n : ℤ) : Except Exc FloatValue :=
  match ofRat n with
  | .infinity _ => .error (.overflowError "int too large to convert to float")
  | value => .ok value

/-- `float(d)` of a decimal. -/
def ofDecimal : Decimal → Except Exc FloatValue
  | .infinity negative => .ok (.infinity negative)
  | .nan _ signalling _ =>
    if signalling then .error (.valueError "cannot convert signaling NaN to float") else .ok .nan
  | d => .ok (ofRat d.toRat)

/-- `a / b` of integers. -/
def quotient (a b : ℤ) : Except Exc FloatValue :=
  if b = 0 then .error (.raised "ZeroDivisionError" "division by zero")
  else match ofRat ((a : ℚ) / b) with
    | .infinity _ => .error (.overflowError "integer division result too large for a float")
    | value => .ok value

/-- `int(x)`. -/
def toInt (x : FloatValue) : Except Exc ℤ := (Value.float ⟨x, ""⟩).toInt

/-! ## Operations -/

/-- `-x`. -/
def neg : FloatValue → FloatValue
  | .finite q => .finite (-q)
  | .infinity negative => .infinity !negative
  | .nan => .nan

/-- `x + y`. -/
def add : FloatValue → FloatValue → FloatValue
  | .finite p, .finite q => ofRat (p + q)
  | .infinity a, .infinity b => if a = b then .infinity a else .nan
  | .infinity a, .finite _ => .infinity a
  | .finite _, .infinity b => .infinity b
  | _, _ => .nan

/-- `x / y`. -/
def div : FloatValue → FloatValue → Except Exc FloatValue
  | x, .finite q =>
    if q = 0 then .error (.raised "ZeroDivisionError" "float division by zero")
    else match x with
      | .finite p => .ok (ofRat (p / q))
      | .infinity a => .ok (.infinity (a != decide (q < 0)))
      | .nan => .ok .nan
  | .finite _, .infinity _ => .ok (.finite 0)
  | _, _ => .ok .nan

/-- `x < y`. -/
def lt : FloatValue → FloatValue → Bool
  | .finite p, .finite q => decide (p < q)
  | .infinity a, .infinity b => a && !b
  | .infinity a, .finite _ => a
  | .finite _, .infinity b => !b
  | _, _ => false

/-- `x <= y`. -/
def le (x y : FloatValue) : Bool := lt x y || (decide (x = y) && decide (x ≠ .nan))

/-- `abs(x)`. -/
def magnitude (x : FloatValue) : FloatValue := if lt x (.finite 0) then neg x else x

/-! ## Sums -/

/-- One turn of `sum`: the sum so far and what rounding has cost it. -/
def addCompensated (acc : FloatValue × FloatValue) (x : FloatValue) : FloatValue × FloatValue :=
  let total := add acc.1 x
  let lost := if le (magnitude x) (magnitude acc.1) then add (add acc.1 (neg total)) x
    else add (add x (neg total)) acc.1
  (total, add acc.2 lost)

/-- `sum(xs)` of doubles. -/
def sum : List FloatValue → FloatValue
  | [] => .finite 0
  | x :: xs =>
    let acc := xs.foldl addCompensated (x, .finite 0)
    match acc.2 with
    | .finite lost => if lost = 0 then acc.1 else add acc.1 acc.2
    | _ => acc.1

/-! ## Decimal places -/

/-- `round(x, digits)`. -/
def roundTo (digits : ℕ) : FloatValue → FloatValue
  | .finite q => ofRat (roundHalfEven (q * 10 ^ digits) / 10 ^ digits)
  | x => x

/-- `f"{x:.{digits}f}"`. -/
def fixedText (digits : ℕ) : FloatValue → String
  | .finite q =>
    let units := (roundHalfEven (q * 10 ^ digits)).natAbs
    (if q < 0 then "-" else "") ++ toString (units / 10 ^ digits) ++ "." ++
      String.ofList (padded digits units)
  | .infinity negative => if negative then "-inf" else "inf"
  | .nan => "nan"

end FloatValue

end Py
