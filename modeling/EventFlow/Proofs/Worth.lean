import EventFlow.Proofs.Rounding
import EventFlow.Value.Equality

/-
  What values are worth.

  Two values that are no list or object are the same exactly
  if they are worth the same: true, one, and one as a
  floating-point number are all worth the rational number
  one.  A finite number in the form that is kept is told by
  its worth, but for the sign of zero.

  Key definitions include:
    * `Worth`
    * `Value.worth`
    * `Double.IsProper`

  Key theorems include:
    * `Double.kept_unique`
    * `Double.eqInt_iff`
    * `Double.eq_iff`
    * `Value.sameMember_iff`
-/

------------------------------------------------------------
-- Worths
------------------------------------------------------------

namespace EventFlow

/- What a value that is no list or object stands for. -/
inductive Worth where
| nothing
| number (q : ℚ)
| endless (isNegative : Bool)
| undefined
| text (s : String)
deriving DecidableEq

namespace Double

/- The rational number that a finite number stands for. -/
def rational
    (isNegative : Bool)
    (significand : Nat)
    (exponent : Int) : ℚ :=
  (if isNegative then -(significand : ℚ) else significand) *
    2 ^ exponent

/- What a floating-point number is worth. -/
def worth : Double → Worth
| .finite isNegative significand exponent =>
    .number (rational isNegative significand exponent)
| .infinite isNegative => .endless isNegative
| .nan => .undefined

/- Whether a number, if it is finite, is in the form kept. -/
def IsProper : Double → Prop
| .finite _ significand exponent =>
    IsKept significand exponent
| _ => True

end Double

namespace Value

/- What a value is worth, unless it is a list or an object. -/
def worth : Value → Option Worth
| .null => some .nothing
| .bool b => some (.number (if b then 1 else 0))
| .int n => some (.number n)
| .float x => some x.worth
| .str s => some (.text s)
| .list _ => none
| .object _ => none

/-
  Whether a value, if it is a floating-point number, is in
  the form that is kept.
-/
def IsProper : Value → Prop
| .float x => x.IsProper
| _ => True

end Value

end EventFlow

------------------------------------------------------------
-- Numbers Told by Their Worth
------------------------------------------------------------

namespace EventFlow

namespace Double

variable {m m' : Nat}
variable {e e' : Int}
variable {s s' : Bool}

/- Of two kept numbers, the one with more bits is greater. -/
theorem kept_lt
    (hKept : IsKept m e)
    (hKept' : IsKept m' e')
    (hLt : e < e') :
    (m : ℚ) * 2 ^ e < m' * 2 ^ e' := by
  have hFull : 2 ^ 52 ≤ m' := by
    rcases hKept'.full with hFull | hLeast
    · exact hFull
    · have hLow := hKept.low
      omega
  have hSize : (m : ℚ) < 2 * m' := by
    have hNat : m < 2 * m' := by
      have hSmall := hKept.size
      omega
    exact_mod_cast hNat
  have hTwo : (0 : ℚ) < 2 ^ e := by positivity
  calc (m : ℚ) * 2 ^ e
    _ < 2 * m' * 2 ^ e := by gcongr
    _ = m' * 2 ^ (e + 1) := by
        rw [zpow_add_one₀ two_ne_zero]
        ring
    _ ≤ m' * 2 ^ e' := by
        gcongr
        · exact one_le_two
        · omega

/- A kept number has one significand and one exponent. -/
theorem kept_unique
    (hKept : IsKept m e)
    (hKept' : IsKept m' e')
    (hSame : (m : ℚ) * 2 ^ e = m' * 2 ^ e') :
    m = m' ∧ e = e' := by
  rcases lt_trichotomy e e' with hLt | rfl | hGt
  · exact absurd hSame (kept_lt hKept hKept' hLt).ne
  · have hTwo : (2 : ℚ) ^ e ≠ 0 := by positivity
    exact ⟨Nat.cast_injective
      (mul_right_cancel₀ hTwo hSame), rfl⟩
  · exact absurd hSame.symm (kept_lt hKept' hKept hGt).ne

/- Only zero is worth zero. -/
theorem rational_eq_zero :
    rational s m e = 0 ↔ m = 0 := by
  have hTwo : (2 : ℚ) ^ e ≠ 0 := by positivity
  unfold rational
  cases s <;> simp [hTwo]

/- A number that is not zero is worth more or less than it. -/
theorem rational_neg_iff (hSome : m ≠ 0) :
    rational s m e < 0 ↔ s = true := by
  have hPos : (0 : ℚ) < m * 2 ^ e := by positivity
  unfold rational
  cases s with
  | true =>
      refine iff_of_true ?_ rfl
      rw [if_pos rfl, neg_mul]
      exact neg_neg_of_pos hPos
  | false =>
      refine iff_of_false ?_ Bool.false_ne_true
      rw [if_neg Bool.false_ne_true]
      exact hPos.not_gt

/- The distance from zero does not depend on the sign. -/
theorem abs_rational :
    |rational s m e| = m * 2 ^ e := by
  have hNonneg : (0 : ℚ) ≤ m * 2 ^ e := by positivity
  unfold rational
  cases s with
  | true =>
      rw [if_pos rfl, neg_mul, abs_neg,
        abs_of_nonneg hNonneg]
  | false =>
      rw [if_neg Bool.false_ne_true, abs_of_nonneg hNonneg]

/-
  Kept numbers worth the same are equal, or both are zero.
-/
theorem rational_eq_iff
    (hKept : IsKept m e)
    (hKept' : IsKept m' e') :
    rational s m e = rational s' m' e' ↔
      (m = 0 ∧ m' = 0) ∨ (s = s' ∧ m = m' ∧ e = e') := by
  constructor
  · intro hSame
    by_cases hZero : m = 0
    · left
      refine ⟨hZero, ?_⟩
      rw [← rational_eq_zero (s := s') (e := e'), ← hSame,
        rational_eq_zero]
      exact hZero
    · right
      have hZero' : m' ≠ 0 := by
        intro hZero'
        apply hZero
        rw [← rational_eq_zero (s := s) (e := e), hSame,
          rational_eq_zero]
        exact hZero'
      refine ⟨?_, kept_unique hKept hKept' ?_⟩
      · rw [Bool.eq_iff_iff,
          ← rational_neg_iff (e := e) hZero, hSame,
          rational_neg_iff hZero']
      · rw [← abs_rational (s := s), hSame, abs_rational]
  · rintro (⟨rfl, rfl⟩ | ⟨rfl, rfl, rfl⟩)
    · rw [rational_eq_zero.mpr rfl, rational_eq_zero.mpr rfl]
    · rfl

/- The two parts of a ratio, and what they stand for. -/
theorem ratio_eq (m : Nat) (e : Int) :
    0 < (ratio m e).2 ∧
      ((ratio m e).1 : ℚ) / (ratio m e).2 = m * 2 ^ e := by
  unfold ratio
  by_cases hSign : 0 ≤ e
  · rw [if_pos hSign]
    refine ⟨Nat.one_pos, ?_⟩
    rw [power_eq]
    push_cast
    rw [zpow_toNat hSign, div_one]
  · rw [if_neg hSign]
    refine ⟨Nat.two_pow_pos _, ?_⟩
    rw [power_eq]
    push_cast
    rw [zpow_neg_toNat (by omega), div_inv_eq_mul]

/-
  Two numbers are equal if they are as far from zero, and on
  the same side of it.
-/
theorem eq_of_abs_eq
    {q r : ℚ}
    (hAbs : |q| = |r|)
    (hSide : q < 0 ↔ r < 0) :
    q = r := by
  rcases abs_eq_abs.mp hAbs with hSame | hOpposite
  · exact hSame
  · rw [hOpposite, neg_lt_zero] at hSide
    have hNone : r = 0 := by
      by_contra hSome
      rcases lt_or_gt_of_ne hSome with hLt | hGt
      · exact lt_asymm hLt (hSide.mpr hLt)
      · exact lt_asymm hGt (hSide.mp hGt)
    rw [hOpposite, hNone, neg_zero]

/- A number is an integer if it is worth as much. -/
theorem eqInt_iff (x : Double) (n : Int) :
    x.eqInt n = true ↔ x.worth = .number n := by
  cases x with
  | nan => simp [eqInt, worth]
  | infinite s => simp [eqInt, worth]
  | finite s m e =>
      rcases ratio_eq m e with ⟨hPos, hRatio⟩
      have hDen : ((ratio m e).2 : ℚ) ≠ 0 :=
        Nat.cast_ne_zero.mpr hPos.ne'
      -- The distance from zero is compared without division.
      have hSize :
          (ratio m e).1 = n.natAbs * (ratio m e).2 ↔
            (m : ℚ) * 2 ^ e = |(n : ℚ)| := by
        rw [← hRatio, div_eq_iff hDen, ← Int.cast_abs,
          ← Int.natCast_natAbs, Int.cast_natCast]
        exact_mod_cast Iff.rfl
      have hSign :
          (n == 0 || s == decide (n < 0)) = true ↔
            n = 0 ∨ (s = true ↔ n < 0) := by
        rw [Bool.or_eq_true, beq_iff_eq, beq_iff_eq,
          Bool.eq_iff_iff, decide_eq_true_eq]
      change
        ((ratio m e).1 == n.natAbs * (ratio m e).2 &&
            (n == 0 || s == decide (n < 0))) = true ↔
          Worth.number (rational s m e) = .number n
      rw [Bool.and_eq_true, beq_iff_eq, hSize, hSign,
        Worth.number.injEq, ← abs_rational (s := s)]
      constructor
      · rintro ⟨hAbs, rfl | hBoth⟩
        · rw [Int.cast_zero, abs_zero, abs_eq_zero] at hAbs
          rw [hAbs, Int.cast_zero]
        · by_cases hZero : m = 0
          · have hNone : rational s m e = 0 :=
              rational_eq_zero.mpr hZero
            rw [hNone, abs_zero, eq_comm, abs_eq_zero]
              at hAbs
            rw [hNone, hAbs]
          · have hNeg :
                rational s m e < 0 ↔ (n : ℚ) < 0 := by
              rw [rational_neg_iff hZero, hBoth,
                Int.cast_lt_zero]
            exact eq_of_abs_eq hAbs hNeg
      · intro hSame
        rw [hSame]
        refine ⟨rfl, ?_⟩
        by_cases hNone : n = 0
        · exact .inl hNone
        · right
          have hZero : m ≠ 0 := by
            rw [ne_eq, ← rational_eq_zero (s := s) (e := e),
              hSame, Int.cast_eq_zero]
            exact hNone
          rw [← rational_neg_iff (e := e) hZero, hSame,
            Int.cast_lt_zero]

/- Kept numbers are equal if they are worth the same. -/
theorem eq_iff
    {x y : Double}
    (hProper : x.IsProper)
    (hProper' : y.IsProper) :
    x.eq y = true ↔ x.worth = y.worth ∧ x ≠ .nan := by
  cases x with
  | nan => simp [eq]
  | infinite s =>
      cases y with
      | nan => simp [eq, worth]
      | infinite s' => simp [eq, worth, isZero]
      | finite s' m' e' => simp [eq, worth, isZero]
  | finite s m e =>
      cases y with
      | nan => simp [eq, worth]
      | infinite s' => simp [eq, worth, isZero]
      | finite s' m' e' =>
          simp [eq, worth, isZero,
            rational_eq_iff hProper hProper']

end Double

end EventFlow

------------------------------------------------------------
-- Members Told by Their Worth
------------------------------------------------------------

namespace EventFlow

namespace Value

variable {v w : Value}

/- A truth value or an integer is worth its integer. -/
theorem worth_of_integer
    {n : Int}
    (hInteger : v.integer? = some n) :
    v.worth = some (.number n) := by
  cases v with
  | bool b =>
      cases hInteger
      cases b <;> simp [worth]
  | int m =>
      cases hInteger
      rfl
  | _ => cases hInteger

/- Only numbers are worth a number. -/
theorem worth_ne_number
    {n : Int}
    (hReal : ∀ y, w ≠ .float y)
    (hInteger : w.integer? = none) :
    w.worth ≠ some (.number n) := by
  cases w with
  | float y => exact absurd rfl (hReal y)
  | bool b => cases hInteger
  | int m => cases hInteger
  | _ => simp [worth]

/- What an integer is the same as is worth as much. -/
theorem sameMember_integer_iff
    {n : Int}
    (hInteger : v.integer? = some n) :
    v.sameMember w = true ↔ v.worth = w.worth := by
  have hFloat (y : Double) :
      v.sameMember (.float y) = y.eqInt n := by
    cases v with
    | bool b =>
        cases hInteger
        rfl
    | int m =>
        cases hInteger
        rfl
    | _ => cases hInteger
  have hOther (hReal : ∀ y, w ≠ .float y) :
      v.sameMember w = (w.integer? == some n) := by
    cases v with
    | bool b =>
        cases hInteger
        cases w <;>
          simp_all [sameMember, areNaN, same, sameScalar,
            integer?, BEq.comm]
    | int m =>
        cases hInteger
        cases w <;>
          simp_all [sameMember, areNaN, same, sameScalar,
            integer?, BEq.comm]
    | _ => cases hInteger
  have hRest (hReal : ∀ y, w ≠ .float y) :
      v.sameMember w = true ↔ v.worth = w.worth := by
    rw [hOther hReal, beq_iff_eq, worth_of_integer hInteger]
    cases hFound : w.integer? with
    | some m =>
        rw [worth_of_integer hFound]
        simp [eq_comm]
    | none =>
        exact iff_of_false nofun
          (worth_ne_number hReal hFound).symm
  cases w with
  | float y =>
      rw [hFloat, Double.eqInt_iff, worth_of_integer hInteger,
        worth, Option.some_inj, eq_comm]
  | _ => exact hRest nofun

/- A floating-point number is the same as an integer so. -/
theorem sameMember_float_iff
    {x : Double}
    {n : Int}
    (hInteger : w.integer? = some n) :
    (float x).sameMember w = true ↔
      (float x).worth = w.worth := by
  have hCompared : (float x).sameMember w = x.eqInt n := by
    cases w with
    | bool b =>
        cases hInteger
        cases x <;> rfl
    | int m =>
        cases hInteger
        cases x <;> rfl
    | _ => cases hInteger
  rw [hCompared, Double.eqInt_iff, worth_of_integer hInteger,
    worth, Option.some_inj]

/-
  Values that are no lists or objects are the same, where
  they are members, if they are worth the same.
-/
theorem sameMember_iff
    (hScalar : v.isContainer = false)
    (hProper : v.IsProper)
    (hProper' : w.IsProper) :
    v.sameMember w = true ↔ v.worth = w.worth := by
  cases v with
  | list vs => cases hScalar
  | object fs => cases hScalar
  | bool b => exact sameMember_integer_iff rfl
  | int n => exact sameMember_integer_iff rfl
  | null =>
      cases w with
      | float y =>
          cases y <;>
            simp [sameMember, areNaN, same, sameScalar,
              integer?, worth, Double.worth]
      | _ =>
          simp [sameMember, areNaN, same, sameScalar,
            integer?, worth]
  | str s =>
      cases w with
      | float y =>
          cases y <;>
            simp [sameMember, areNaN, same, sameScalar,
              integer?, worth, Double.worth]
      | _ =>
          simp [sameMember, areNaN, same, sameScalar,
            integer?, worth]
  | float x =>
      cases w with
      | float y =>
          change (areNaN _ _ || x.eq y) = true ↔ _
          rw [Bool.or_eq_true, Double.eq_iff hProper hProper']
          cases x <;> cases y <;>
            simp [areNaN, worth, Double.worth]
      | bool b => exact sameMember_float_iff rfl
      | int n => exact sameMember_float_iff rfl
      | _ =>
          cases x <;>
            simp [sameMember, areNaN, same, sameScalar,
              integer?, worth, Double.worth]

end Value

end EventFlow
