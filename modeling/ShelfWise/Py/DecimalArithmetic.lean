import ShelfWise.Py.DecimalContext
import ShelfWise.Py.Sorted

/-!
# Arithmetic of decimals

Sums, products, quotients and comparisons of the `decimal` module, rounded to the default context.
A quiet NaN goes through the arithmetic, and no NaN through a comparison. The median is that of
finite decimals.
-/

namespace Py

namespace Decimal

/-! ## Operations -/

/-- The coefficient with its sign. -/
def signed (negative : Bool) (coefficient : ℕ) : ℤ := if negative then -coefficient else coefficient

/-- The result of an operation on two values of which one is a NaN. -/
def nanOf : Decimal → Decimal → Except Exc Decimal
  | nan _ true _, _ => .error invalidOperation
  | _, nan _ true _ => .error invalidOperation
  | nan s false payload, _ => .ok (nan s false payload)
  | _, nan s false payload => .ok (nan s false payload)
  | _, _ => .error invalidOperation

/-- `a + b`. -/
def add : Decimal → Decimal → Except Exc Decimal
  | finite s c e, finite t d f =>
    let target := min e f
    let sum := signed s c * 10 ^ (e - target).toNat + signed t d * 10 ^ (f - target).toNat
    fix (sum < 0 ∨ (sum = 0 ∧ s ∧ t)) sum.natAbs target
  | infinity s, infinity t => if s = t then .ok (infinity s) else .error invalidOperation
  | infinity s, finite .. => .ok (infinity s)
  | finite .., infinity t => .ok (infinity t)
  | a, b => nanOf a b

/-- `-a`, without rounding. -/
def negate : Decimal → Decimal
  | finite s c e => finite (!s) c e
  | infinity s => infinity (!s)
  | nan s signalling payload => nan (!s) signalling payload

/-- `a - b`. -/
def sub (a : Decimal) : Decimal → Except Exc Decimal
  | nan s signalling payload => nanOf a (nan s signalling payload)
  | b => add a (negate b)

/-- `a * b`. -/
def mul : Decimal → Decimal → Except Exc Decimal
  | finite s c e, finite t d f => fix (s != t) (c * d) (e + f)
  | infinity s, infinity t => .ok (infinity (s != t))
  | infinity s, finite t d _ => if d = 0 then .error invalidOperation else .ok (infinity (s != t))
  | finite s c _, infinity t => if c = 0 then .error invalidOperation else .ok (infinity (s != t))
  | a, b => nanOf a b

/-- A quotient without trailing zeros, up to the exponent `ideal`; there are at most `fuel` of
them. -/
def towardsIdeal (ideal : ℤ) : ℕ → ℕ → ℤ → ℕ × ℤ
  | 0, coefficient, exponent => (coefficient, exponent)
  | fuel + 1, coefficient, exponent =>
    if exponent < ideal ∧ coefficient % 10 = 0 then
      towardsIdeal ideal fuel (coefficient / 10) (exponent + 1)
    else (coefficient, exponent)

/-- `a / b`: a digit more than the context has, and a last one that tells whether something is left
over. -/
def div : Decimal → Decimal → Except Exc Decimal
  | finite s c e, finite t d f =>
    if d = 0 then .error (.decimalError (if c = 0 then "InvalidOperation" else "DivisionByZero"))
    else if c = 0 then fix (s != t) 0 (e - f)
    else
      let shift : ℤ := (Nat.toDigits 10 d).length - (Nat.toDigits 10 c).length + precision + 1
      let scaled := c * 10 ^ shift.toNat
      let divisor := d * 10 ^ (-shift).toNat
      let quotient := scaled / divisor
      if scaled % divisor ≠ 0 then
        fix (s != t) (if quotient % 5 = 0 then quotient + 1 else quotient) (e - f - shift)
      else
        let reduced := towardsIdeal (e - f) (precision + 2) quotient (e - f - shift)
        fix (s != t) reduced.1 reduced.2
  | infinity _, infinity _ => .error invalidOperation
  | infinity s, finite t _ _ => .ok (infinity (s != t))
  | finite s _ _, infinity t => .ok (finite (s != t) 0 etiny)
  | a, b => nanOf a b

/-- `abs(a)`. -/
def magnitude : Decimal → Except Exc Decimal
  | finite _ c e => fix false c e
  | infinity _ => .ok (infinity false)
  | nan s signalling payload => nanOf (nan s signalling payload) (nan s signalling payload)

/-! ## Comparisons -/

/-- `a < b`. -/
def lt : Decimal → Decimal → Except Exc Bool
  | finite s c e, finite t d f =>
    let target := min e f
    .ok (signed s c * 10 ^ (e - target).toNat < signed t d * 10 ^ (f - target).toNat)
  | infinity s, infinity t => .ok (s && !t)
  | infinity s, finite .. => .ok s
  | finite .., infinity t => .ok (!t)
  | _, _ => .error invalidOperation

/-- `a <= b`. -/
def le (a b : Decimal) : Except Exc Bool := (lt b a).map (!·)

/-- `max(a, b)`: the first one of equal ones. -/
def maxOf (a b : Decimal) : Except Exc Decimal := (lt a b).map fun less => if less then b else a

/-- `min(a, b)`: the first one of equal ones. -/
def minOf (a b : Decimal) : Except Exc Decimal := (lt b a).map fun less => if less then b else a

/-- `Decimal(n)`. -/
def ofInt (n : ℤ) : Decimal := finite (n < 0) n.natAbs 0

/-- `sum(ds)`, from the integer zero. -/
def sum (ds : List Decimal) : Except Exc Decimal := ds.foldlM add (ofInt 0)

/-! ## Helpers of the decision science -/

/-- `q2`. -/
def q2 (d : Decimal) : Except Exc Decimal := d.quantize .halfUp (-2)

/-- `clamp` to the unit interval. -/
def clamp (d : Decimal) : Except Exc Decimal := do
  let low ← minOf (ofInt 1) d
  maxOf (ofInt 0) low

/-- `safe_div`. -/
def safeDiv (numerator denominator : Decimal) : Except Exc Decimal :=
  match denominator with
  | finite _ 0 _ => .ok (ofInt 0)
  | denominator => numerator.div denominator

/-- `statistics.median`. -/
def median (ds : List Decimal) : Except Exc Decimal :=
  let sorted := sortedBy toRat ds
  let middle := sorted.length / 2
  match sorted with
  | [] => .error (.raised "StatisticsError" "no median for empty data")
  | first :: _ =>
    if sorted.length % 2 = 1 then .ok (sorted.getD middle first)
    else do
      let total ← (sorted.getD (middle - 1) first).add (sorted.getD middle first)
      total.div (ofInt 2)

end Decimal

end Py
