import Csms.Js.Text
import Mathlib.Data.Rat.Floor
import Mathlib.Tactic.Positivity

/-!
# JavaScript values

A number is a finite value or one of the three non-finite ones.  Finite values
are exact rationals: rounding of doubles is not modelled, everything else about
`NaN`, the infinities, `Math.floor`, `Math.max` and the comparisons is.  Dates
are milliseconds since the epoch, and a date text is kept as what `Date.parse`
makes of it.

Services read their request bodies as `Record<string, unknown>`.  A value is any
JavaScript value such a record can hold, and a record is the function from field
names to values, `undefined` where a field is absent.  What the language
computes but a model cannot (collation, date texts, the numeric value of strings
and objects) is a parameter.
-/

namespace Csms.Js

/-- A JavaScript number without the rounding of doubles. -/
inductive JsNumber where
  | finite (value : ℚ)
  | posInfinity
  | negInfinity
  | nan
  deriving DecidableEq, Repr

namespace JsNumber

def ofInt (value : Int) : JsNumber :=
  finite value

/-- `Number.isFinite`. -/
def isFinite : JsNumber → Bool
  | finite _ => true
  | _ => false

/-- `Math.floor`. -/
def floor : JsNumber → JsNumber
  | finite value => ofInt ⌊value⌋
  | other => other

/-- `Math.max`: `NaN` as soon as one argument is. -/
def max : JsNumber → JsNumber → JsNumber
  | nan, _ => nan
  | _, nan => nan
  | posInfinity, _ => posInfinity
  | _, posInfinity => posInfinity
  | negInfinity, right => right
  | left, negInfinity => left
  | finite left, finite right => finite (Max.max left right)

/-- `Math.min`: `NaN` as soon as one argument is. -/
def min : JsNumber → JsNumber → JsNumber
  | nan, _ => nan
  | _, nan => nan
  | negInfinity, _ => negInfinity
  | _, negInfinity => negInfinity
  | posInfinity, right => right
  | left, posInfinity => left
  | finite left, finite right => finite (Min.min left right)

/-- `Math.round`: halves go up. -/
def round : JsNumber → JsNumber
  | finite value => ofInt ⌊value + 1 / 2⌋
  | other => other

/-- `Number(value.toFixed(digits))` of a finite value: halves go away from zero. -/
def toFixed (digits : Nat) (value : ℚ) : ℚ :=
  if value < 0 then -(⌊-value * 10 ^ digits + 1 / 2⌋ / 10 ^ digits)
  else ⌊value * 10 ^ digits + 1 / 2⌋ / 10 ^ digits

/-- Multiplication by a positive constant. -/
def scale (factor : ℚ) : JsNumber → JsNumber
  | finite value => finite (value * factor)
  | other => other

/-- What an integer column stores of a number: only integers are accepted. -/
def toColumn : JsNumber → Option Int
  | finite value => if value.den = 1 then some value.num else none
  | _ => none

/-- `left <= right`, false when one of them is `NaN`. -/
def le : JsNumber → JsNumber → Bool
  | nan, _ => false
  | _, nan => false
  | negInfinity, _ => true
  | _, posInfinity => true
  | posInfinity, _ => false
  | _, negInfinity => false
  | finite left, finite right => decide (left ≤ right)

/-- `value || fallback`: zero and `NaN` are falsy. -/
def orElse (value fallback : JsNumber) : JsNumber :=
  if value = finite 0 ∨ value = nan then fallback else value

/-- `value * 1000`, seconds to milliseconds. -/
def thousandfold : JsNumber → JsNumber
  | finite value => finite (value * 1000)
  | other => other

theorem toFixed_nonneg (digits : Nat) {value : ℚ} (nonneg : 0 ≤ value) :
    0 ≤ toFixed digits value := by
  rw [toFixed, if_neg (not_lt.mpr nonneg)]
  have scaled : (0 : ℚ) ≤ ⌊value * 10 ^ digits + 1 / 2⌋ := by
    rw [Int.cast_nonneg_iff, Int.floor_nonneg]
    positivity
  positivity

theorem toFixed_of_scaled {digits : Nat} {value : ℚ} {scaled : Int}
    (isScaled : value * 10 ^ digits = scaled) : toFixed digits value = value := by
  have positive : (10 : ℚ) ^ digits ≠ 0 := by positivity
  have rounds (whole : Int) : ⌊(whole : ℚ) + 1 / 2⌋ = whole := by
    rw [Int.floor_intCast_add]
    norm_num
  rw [toFixed]
  split
  · rw [neg_mul, isScaled, ← Int.cast_neg, rounds, Int.cast_neg, ← isScaled, neg_div, neg_neg,
      mul_div_cancel_right₀ value positive]
  · rw [isScaled, rounds, ← isScaled, mul_div_cancel_right₀ value positive]

theorem exists_toFixed_eq (digits : Nat) (value : ℚ) :
    ∃ whole : Int, toFixed digits value = whole / 10 ^ digits := by
  rw [toFixed]
  split
  · exact ⟨-⌊-value * 10 ^ digits + 1 / 2⌋, by rw [Int.cast_neg, neg_div]⟩
  · exact ⟨_, rfl⟩

theorem toFixed_toFixed {digits more : Nat} (le : digits ≤ more) (value : ℚ) :
    toFixed more (toFixed digits value) = toFixed digits value := by
  have positive : (10 : ℚ) ^ digits ≠ 0 := by positivity
  obtain ⟨whole, isWhole⟩ := exists_toFixed_eq digits value
  have scales : (whole : ℚ) / 10 ^ digits * 10 ^ more = (whole * 10 ^ (more - digits) : Int) := by
    rw [← Nat.add_sub_of_le le, pow_add, Nat.add_sub_cancel_left, ← mul_assoc,
      div_mul_cancel₀ _ positive]
    push_cast
    rfl
  rw [isWhole]
  exact toFixed_of_scaled scales

theorem toFixed_add_eq {digits : Nat} {left right : ℚ} (leftFixed : toFixed digits left = left)
    (rightFixed : toFixed digits right = right) : toFixed digits (left + right) = left + right := by
  have positive : (10 : ℚ) ^ digits ≠ 0 := by positivity
  obtain ⟨wholeLeft, isLeft⟩ := exists_toFixed_eq digits left
  obtain ⟨wholeRight, isRight⟩ := exists_toFixed_eq digits right
  have scaled : (left + right) * 10 ^ digits = (wholeLeft + wholeRight : Int) := by
    rw [← leftFixed, ← rightFixed, isLeft, isRight, add_mul, div_mul_cancel₀ _ positive,
      div_mul_cancel₀ _ positive, Int.cast_add]
  exact toFixed_of_scaled scaled

@[simp]
theorem floor_ofInt (value : Int) : (ofInt value).floor = ofInt value := by
  simp [ofInt, floor]

@[simp]
theorem max_ofInt (left right : Int) :
    max (ofInt left) (ofInt right) = ofInt (Max.max left right) := by
  simp [ofInt, max]

@[simp]
theorem le_ofInt (left right : Int) : le (ofInt left) (ofInt right) = decide (left ≤ right) := by
  simp [ofInt, le]

theorem orElse_ofInt (value fallback : Int) : orElse (ofInt value) (ofInt fallback) =
      ofInt (if value = 0 then fallback else value) := by
  by_cases isZero : value = 0 <;> simp [orElse, ofInt, isZero]

end JsNumber

/-- A date as text, kept as what `Date.parse` reads from it; `none` stands for
`NaN`.  The empty text, which the code tests for by truthiness, parses to `NaN`
as well. -/
abbrev DateText :=
  Option Int

/-- `Date.parse`. -/
def dateParse (text : DateText) : Option Int :=
  text

/-- `Date.prototype.toISOString`, which `Date.parse` reads back. -/
def toISOString (milliseconds : Int) : DateText :=
  some milliseconds

@[simp]
theorem dateParse_toISOString (milliseconds : Int) :
    dateParse (toISOString milliseconds) = some milliseconds :=
  rfl

/-- A JavaScript value of a request body. -/
inductive JsValue where
  | undefined
  | null
  | boolean (value : Bool)
  | number (value : JsNumber)
  | string (text : String)
  /-- A `Date` instance; `none` is the invalid date. -/
  | date (milliseconds : Option Int)
  | array (items : List JsValue)
  | object (fields : String → JsValue)

/-- `Record<string, unknown>`. -/
abbrev JsRecord :=
  String → JsValue

/-- The record without fields. -/
def JsRecord.empty : JsRecord :=
  fun _ => .undefined

/-- A record with one more field. -/
def JsRecord.with (record : JsRecord) (name : String) (value : JsValue) : JsRecord :=
  fun wanted => if wanted = name then value else record wanted

/-- `{ ...record, ...other }`. -/
def JsRecord.spread (record other : JsRecord) : JsRecord :=
  fun name =>
    match other name with
    | .undefined => record name
    | value => value

/-- `left ?? right`. -/
def JsValue.nullish : JsValue → JsValue → JsValue
  | .undefined, right => right
  | .null, right => right
  | left, _ => left

/-- Whether the value counts as true in a condition. -/
def JsValue.isTruthy : JsValue → Bool
  | .undefined | .null => false
  | .boolean value => value
  | .number value => value ≠ .finite 0 ∧ value ≠ .nan
  | .string text => text ≠ ""
  | .date _ | .array _ | .object _ => true

/-- `left || right`. -/
def JsValue.orElse (left right : JsValue) : JsValue :=
  if left.isTruthy then left else right

/-- What the JavaScript engine supplies. -/
structure Engine where
  /-- `left.localeCompare(right)`: negative, zero or positive. -/
  localeCompare : String → String → Int
  /-- `Date.parse` of a text from a request. -/
  parseDateText : String → Option Int
  /-- `Number(value)` of a string, an array or an object. -/
  coerceNumber : JsValue → JsNumber

namespace Engine

variable (engine : Engine)

/-- `Number(value)`. -/
def toNumber : JsValue → JsNumber
  | .undefined => .nan
  | .null => .ofInt 0
  | .boolean value => .ofInt (if value then 1 else 0)
  | .number value => value
  | .date (some milliseconds) => .ofInt milliseconds
  | .date none => .nan
  | other => engine.coerceNumber other

/-- The time value of `new Date(value)` for a string or a number. -/
def toDate : JsValue → Option Int
  | .string text => engine.parseDateText text
  | .number (.finite value) =>
    -- `TimeClip`: out of range is invalid, a fraction is cut off
    if |value| ≤ 8640000000000000 then some (Int.tdiv value.num value.den) else none
  | _ => none

end Engine

end Csms.Js
