import EventFlow.Number.Shortest
import Mathlib.Algebra.Order.Archimedean.Basic
import Mathlib.Algebra.Order.Field.Power
import Mathlib.Algebra.Order.Field.Rat
import Mathlib.Tactic.FieldSimp
import Mathlib.Tactic.Linarith
import Mathlib.Tactic.Positivity
import Mathlib.Tactic.Ring

/-
  Which quotients are rounded to a number.

  Every quotient in the rounding interval of a number is
  rounded to that number.  The quotients between a power of
  two and the number below it lie closer together, so that a
  quotient just below a power of two is rounded with one bit
  more, and the carry of the significand leads back to the
  power.

  Key definitions include:
    * `Double.IsKept`
    * `Double.IsCanonical`
    * `Double.Interval.Holds`

  Key theorems include:
    * `roundDiv_eq`
    * `Double.significandAt_eq`
    * `Double.exponentOf_eq`
    * `Double.ofRatio_of_holds`
-/

------------------------------------------------------------
-- Rounded Quotients
------------------------------------------------------------

namespace EventFlow

/-
  The nearest integer to a quotient is the one that is at
  most a half away, and that is even if it is a half away.
-/
theorem roundDiv_eq
    {num den k : Nat}
    (hDen : 0 < den)
    (hLow : 2 * (k * den) ≤ 2 * num + den)
    (hHigh : 2 * num ≤ 2 * (k * den) + den)
    (hTie :
      k % 2 = 0 ∨
        (2 * (k * den) < 2 * num + den ∧
          2 * num < 2 * (k * den) + den)) :
    roundDiv num den = k := by
  have hDivides : num / den * den + num % den = num :=
    Nat.div_add_mod' num den
  have hRest : num % den < den := Nat.mod_lt num hDen
  unfold roundDiv
  dsimp only
  generalize num / den = q at hDivides ⊢
  generalize num % den = r at hDivides hRest ⊢
  have hBelow : k ≤ q + 1 := by
    by_contra hFar
    have hMul : (q + 2) * den ≤ k * den :=
      Nat.mul_le_mul_right den (by omega)
    rw [Nat.add_mul] at hMul
    omega
  have hAbove : q ≤ k := by
    by_contra hFar
    have hMul : (k + 1) * den ≤ q * den :=
      Nat.mul_le_mul_right den (by omega)
    rw [Nat.add_mul] at hMul
    omega
  obtain rfl | rfl : k = q ∨ k = q + 1 := by omega
  · -- The quotient is not above the middle.
    have hLeft : 2 * r ≤ den := by omega
    by_cases hStrict : 2 * r < den
    · rw [if_pos hStrict]
    · rw [if_neg hStrict, if_neg (by omega), if_pos (by omega)]
  · have hMul : (q + 1) * den = q * den + den :=
      Nat.succ_mul q den
    rw [hMul] at hLow hHigh hTie
    have hRight : den ≤ 2 * r := by omega
    rw [if_neg (by omega)]
    by_cases hStrict : den < 2 * r
    · rw [if_pos hStrict]
    · rw [if_neg hStrict, if_neg (by omega)]

/- The same for quotients as numbers. -/
theorem roundDiv_eq_of_near
    {num den k : Nat}
    (hDen : 0 < den)
    (hLow : (k : ℚ) - 1 / 2 ≤ num / den)
    (hHigh : (num : ℚ) / den ≤ k + 1 / 2)
    (hTie :
      k % 2 = 0 ∨
        ((k : ℚ) - 1 / 2 < num / den ∧
          (num : ℚ) / den < k + 1 / 2)) :
    roundDiv num den = k := by
  have hPos : (0 : ℚ) < den := Nat.cast_pos.mpr hDen
  have hBelow : 2 * (k * den) ≤ 2 * num + den := by
    rw [le_div_iff₀ hPos] at hLow
    have hCast : (2 * (k * den) : ℚ) ≤ 2 * num + den := by
      linarith
    exact_mod_cast hCast
  have hAbove : 2 * num ≤ 2 * (k * den) + den := by
    rw [div_le_iff₀ hPos] at hHigh
    have hCast : (2 * num : ℚ) ≤ 2 * (k * den) + den := by
      linarith
    exact_mod_cast hCast
  refine roundDiv_eq hDen hBelow hAbove ?_
  rcases hTie with hEven | ⟨hLeft, hRight⟩
  · exact .inl hEven
  · refine .inr ⟨?_, ?_⟩
    · rw [lt_div_iff₀ hPos] at hLeft
      have hCast : (2 * (k * den) : ℚ) < 2 * num + den := by
        linarith
      exact_mod_cast hCast
    · rw [div_lt_iff₀ hPos] at hRight
      have hCast : (2 * num : ℚ) < 2 * (k * den) + den := by
        linarith
      exact_mod_cast hCast

end EventFlow

------------------------------------------------------------
-- Powers
------------------------------------------------------------

namespace EventFlow

@[simp] theorem power_eq (base exponent : Nat) :
    power base exponent = base ^ exponent := rfl

/- A power with an integer that is not negative. -/
theorem zpow_toNat
    {base : ℚ}
    {n : Int}
    (hSign : 0 ≤ n) :
    base ^ n.toNat = base ^ n := by
  rw [← zpow_natCast, Int.toNat_of_nonneg hSign]

/- A power with an integer that is not positive. -/
theorem zpow_neg_toNat
    {base : ℚ}
    {n : Int}
    (hSign : n ≤ 0) :
    base ^ (-n).toNat = (base ^ n)⁻¹ := by
  rw [zpow_toNat (by omega), zpow_neg]

end EventFlow

------------------------------------------------------------
-- Significands and Exponents
------------------------------------------------------------

namespace EventFlow

namespace Double

variable {num den : Nat}

/- The significand at an exponent is a rounded quotient. -/
theorem significandAt_eq
    (hDen : 0 < den)
    {e : Int}
    {k : Nat}
    (hLow : (k : ℚ) - 1 / 2 ≤ num / den / 2 ^ e)
    (hHigh : (num : ℚ) / den / 2 ^ e ≤ k + 1 / 2)
    (hTie :
      k % 2 = 0 ∨
        ((k : ℚ) - 1 / 2 < num / den / 2 ^ e ∧
          (num : ℚ) / den / 2 ^ e < k + 1 / 2)) :
    significandAt num den e = k := by
  unfold significandAt
  by_cases hSign : 0 ≤ e
  · rw [if_pos hSign]
    have hSame :
        (num : ℚ) / den / 2 ^ e =
          num / (den * power 2 e.toNat : Nat) := by
      rw [power_eq]
      push_cast
      rw [zpow_toNat hSign, div_div]
    rw [hSame] at hLow hHigh hTie
    refine roundDiv_eq_of_near ?_ hLow hHigh hTie
    rw [power_eq]
    positivity
  · rw [if_neg hSign]
    have hSame :
        (num : ℚ) / den / 2 ^ e =
          (num * power 2 (-e).toNat : Nat) / den := by
      rw [power_eq]
      push_cast
      rw [zpow_neg_toNat (by omega)]
      field_simp
    rw [hSame] at hLow hHigh hTie
    exact roundDiv_eq_of_near hDen hLow hHigh hTie

/- A power of two that is not above another is no greater. -/
theorem exponent_unique
    {q : ℚ}
    {a b : Int}
    (hLow : (2 : ℚ) ^ a ≤ q)
    (hHigh : q < 2 ^ (a + 1))
    (hLow' : (2 : ℚ) ^ b ≤ q)
    (hHigh' : q < 2 ^ (b + 1)) :
    a = b := by
  have hLeft : a < b + 1 :=
    (zpow_lt_zpow_iff_right₀ one_lt_two).mp
      (hLow.trans_lt hHigh')
  have hRight : b < a + 1 :=
    (zpow_lt_zpow_iff_right₀ one_lt_two).mp
      (hLow'.trans_lt hHigh)
  omega

/- Whether a quotient reaches a power of two. -/
theorem reached_iff
    {den : Nat}
    (hDen : 0 < den)
    (num : Nat)
    (shift : Int) :
    (if 0 ≤ shift then
        decide (den * power 2 shift.toNat ≤ num)
      else
        decide (den ≤ num * power 2 (-shift).toNat)) = true ↔
      (2 : ℚ) ^ shift ≤ num / den := by
  have hPos : (0 : ℚ) < den := Nat.cast_pos.mpr hDen
  rw [le_div_iff₀ hPos]
  by_cases hSign : 0 ≤ shift
  · rw [if_pos hSign, decide_eq_true_iff, power_eq,
      ← zpow_toNat hSign, mul_comm]
    exact_mod_cast Iff.rfl
  · have hTwo : (0 : ℚ) < 2 ^ shift := by positivity
    rw [if_neg hSign, decide_eq_true_iff, power_eq,
      ← Nat.cast_le (α := ℚ)]
    push_cast
    rw [zpow_neg_toNat (by omega), ← div_eq_mul_inv,
      le_div_iff₀ hTwo, mul_comm]

/- A quotient lies between powers of two of its logarithms. -/
theorem ratio_bounds
    (hNum : 0 < num)
    (hDen : 0 < den) :
    let shift : Int := (num.log2 : Int) - den.log2
    (2 : ℚ) ^ (shift - 1) ≤ num / den ∧
      (num : ℚ) / den < 2 ^ (shift + 1) := by
  intro shift
  have hPos : (0 : ℚ) < den := Nat.cast_pos.mpr hDen
  have hNumLow : (2 : ℚ) ^ (num.log2 : Int) ≤ num := by
    rw [zpow_natCast]
    exact_mod_cast Nat.log2_self_le hNum.ne'
  have hNumHigh : (num : ℚ) < 2 ^ ((num.log2 : Int) + 1) := by
    have hLog : num < 2 ^ (num.log2 + 1) := Nat.lt_log2_self
    exact_mod_cast hLog
  have hDenLow : (2 : ℚ) ^ (den.log2 : Int) ≤ den := by
    rw [zpow_natCast]
    exact_mod_cast Nat.log2_self_le hDen.ne'
  have hDenHigh : (den : ℚ) < 2 ^ ((den.log2 : Int) + 1) := by
    have hLog : den < 2 ^ (den.log2 + 1) := Nat.lt_log2_self
    exact_mod_cast hLog
  constructor
  · rw [le_div_iff₀ hPos]
    calc (2 : ℚ) ^ (shift - 1) * den
      _ ≤ 2 ^ (shift - 1) * 2 ^ ((den.log2 : Int) + 1) := by
          gcongr
      _ = 2 ^ (num.log2 : Int) := by
          rw [← zpow_add₀ two_ne_zero]
          congr 1
          omega
      _ ≤ num := hNumLow
  · rw [div_lt_iff₀ hPos]
    calc (num : ℚ)
      _ < 2 ^ ((num.log2 : Int) + 1) := hNumHigh
      _ = 2 ^ (shift + 1) * 2 ^ (den.log2 : Int) := by
          rw [← zpow_add₀ two_ne_zero]
          congr 1
          omega
      _ ≤ 2 ^ (shift + 1) * den := by
          gcongr

/-
  The exponent of a quotient between two neighbouring powers
  of two.
-/
theorem exponentOf_eq
    (hNum : 0 < num)
    (hDen : 0 < den)
    {n : Int}
    (hLow : (2 : ℚ) ^ n ≤ num / den)
    (hHigh : (num : ℚ) / den < 2 ^ (n + 1)) :
    exponentOf num den = max (n - 52) minExponent := by
  rcases ratio_bounds hNum hDen with ⟨hAbove, hBelow⟩
  have hReached :=
    reached_iff hDen num ((num.log2 : Int) - den.log2)
  unfold exponentOf
  dsimp only at hAbove hBelow ⊢
  generalize (num.log2 : Int) - den.log2 = shift
    at hAbove hBelow hReached ⊢
  generalize
    (if 0 ≤ shift then
      decide (den * power 2 shift.toNat ≤ num)
    else
      decide (den ≤ num * power 2 (-shift).toNat)) =
      reached at hReached ⊢
  cases reached with
  | true =>
      have hShift : n = shift :=
        exponent_unique hLow hHigh (hReached.mp rfl) hBelow
      subst hShift
      rw [if_pos rfl, max_def_lt]
  | false =>
      have hUnder : (num : ℚ) / den < 2 ^ shift := by
        by_contra hNot
        exact Bool.false_ne_true
          (hReached.mpr (not_lt.mp hNot))
      have hShift : n = shift - 1 := by
        refine exponent_unique hLow hHigh hAbove ?_
        rw [Int.sub_add_cancel]
        exact hUnder
      have hExponent : n - 52 = shift - 53 := by omega
      rw [if_neg Bool.false_ne_true, hExponent, max_def_lt]

end Double

end EventFlow

------------------------------------------------------------
-- Rounding Intervals
------------------------------------------------------------

namespace EventFlow

namespace Double

/- Whether a significand and an exponent are those kept. -/
structure IsKept
    (significand : Nat)
    (exponent : Int) : Prop where
  low : minExponent ≤ exponent
  high : exponent ≤ maxExponent
  size : significand < 2 ^ 53
  full : 2 ^ 52 ≤ significand ∨ exponent = minExponent

/- Whether a number is finite and in the form that is kept. -/
def IsCanonical : Double → Prop
| .finite _ significand exponent =>
    IsKept significand exponent
| _ => False

/- Whether a quotient is in a rounding interval. -/
def Interval.Holds
    (i : Interval)
    (q : ℚ) : Prop :=
  ((i.low : ℚ) * 2 ^ i.exponent ≤ q ∧
      q ≤ i.high * 2 ^ i.exponent) ∧
    (i.closed = true ∨
      ((i.low : ℚ) * 2 ^ i.exponent < q ∧
        q < i.high * 2 ^ i.exponent))

variable {m : Nat}
variable {e : Int}
variable {q : ℚ}

/- A multiple of a quarter of the last place. -/
theorem quarters_eq (n : ℚ) :
    n * 2 ^ (e - 2) = n / 4 * 2 ^ e := by
  rw [zpow_sub₀ two_ne_zero]
  ring

/- An interval in units of the last place. -/
theorem holds_iff :
    (interval m e).Holds q ↔
      (((interval m e).low : ℚ) / 4 ≤ q / 2 ^ e ∧
          q / 2 ^ e ≤ m + 1 / 2) ∧
        (m % 2 = 0 ∨
          (((interval m e).low : ℚ) / 4 < q / 2 ^ e ∧
            q / 2 ^ e < m + 1 / 2)) := by
  have hTwo : (0 : ℚ) < 2 ^ e := by positivity
  have hExponent : (interval m e).exponent = e - 2 := rfl
  have hHigh :
      ((interval m e).high : ℚ) / 4 = m + 1 / 2 := by
    have hEnd : (interval m e).high = 4 * m + 2 := rfl
    rw [hEnd]
    push_cast
    ring
  have hClosed :
      (interval m e).closed = true ↔ m % 2 = 0 :=
    beq_iff_eq
  unfold Interval.Holds
  rw [hExponent, quarters_eq, quarters_eq, hHigh, hClosed,
    le_div_iff₀ hTwo, div_le_iff₀ hTwo, lt_div_iff₀ hTwo,
    div_lt_iff₀ hTwo]

/- An interval ends a half below its number at most. -/
theorem low_ge (hPos : 0 < m) :
    (m : ℚ) - 1 / 2 ≤ ((interval m e).low : ℚ) / 4 := by
  have hLow : 4 * m ≤ (interval m e).low + 2 := by
    unfold interval
    dsimp only
    split
    · omega
    · omega
  have hCast : (4 * m : ℚ) ≤ (interval m e).low + 2 := by
    exact_mod_cast hLow
  linarith

/- Below a power of two it ends a quarter below. -/
theorem low_ge_of_short
    (hShort : m = 2 ^ 52)
    (hRoom : minExponent < e) :
    (m : ℚ) - 1 / 4 ≤ ((interval m e).low : ℚ) / 4 := by
  have hLow : 4 * m ≤ (interval m e).low + 1 := by
    subst hShort
    unfold interval
    simp [hRoom]
  have hCast : (4 * m : ℚ) ≤ (interval m e).low + 1 := by
    exact_mod_cast hLow
  linarith

end Double

end EventFlow

------------------------------------------------------------
-- Rounding to a Number
------------------------------------------------------------

namespace EventFlow

namespace Double

variable {m : Nat}
variable {e : Int}
variable {num den : Nat}

/- A quotient in the interval is rounded to the significand. -/
theorem significandAt_of_holds
    (hPos : 0 < m)
    (hDen : 0 < den)
    (hHolds : (interval m e).Holds (num / den)) :
    significandAt num den e = m := by
  rcases holds_iff.mp hHolds with ⟨⟨hLow, hHigh⟩, hTie⟩
  have hEnd := low_ge (e := e) hPos
  refine significandAt_eq hDen (hEnd.trans hLow) hHigh ?_
  rcases hTie with hEven | ⟨hLeft, hRight⟩
  · exact .inl hEven
  · exact .inr ⟨hEnd.trans_lt hLeft, hRight⟩

/-
  The exponent of a quotient in the interval is that of the
  number, unless the quotient is below a power of two.
-/
theorem exponentOf_of_holds
    (hKept : IsKept m e)
    (hPos : 0 < m)
    (hNum : 0 < num)
    (hDen : 0 < den)
    (hHolds : (interval m e).Holds (num / den))
    (hPower :
      m = 2 ^ 52 →
        minExponent < e →
          (2 : ℚ) ^ 52 ≤ num / den / 2 ^ e) :
    exponentOf num den = e := by
  rcases holds_iff.mp hHolds with ⟨⟨hLow, hHigh⟩, -⟩
  have hEnd := low_ge (e := e) hPos
  have hTwo : (0 : ℚ) < 2 ^ e := by positivity
  have hScale (n : Int) (q : ℚ) :
      q / 2 ^ e * 2 ^ e = q := div_mul_cancel₀ q hTwo.ne'
  by_cases hFull : (2 : ℚ) ^ 52 ≤ num / den / 2 ^ e
  · have hSize : (m : ℚ) + 1 ≤ 2 ^ 53 := by
      exact_mod_cast hKept.size
    have hAbove :
        (2 : ℚ) ^ (52 + e) ≤ num / den := by
      rw [le_div_iff₀ hTwo] at hFull
      rw [zpow_add₀ two_ne_zero]
      exact_mod_cast hFull
    have hBelow :
        (num : ℚ) / den < 2 ^ (52 + e + 1) := by
      have hStrict :
          (num : ℚ) / den / 2 ^ e < 2 ^ 53 := by
        linarith
      rw [div_lt_iff₀ hTwo] at hStrict
      have hSplit :
          (2 : ℚ) ^ (52 + e + 1) = 2 ^ 53 * 2 ^ e := by
        rw [Int.add_right_comm, zpow_add₀ two_ne_zero]
        norm_num
      rw [hSplit]
      exact hStrict
    rw [exponentOf_eq hNum hDen hAbove hBelow,
      add_sub_cancel_left]
    exact max_eq_left hKept.low
  · have hLeast : e = minExponent := by
      rcases hKept.full with hMost | hLeast
      · -- Only the interval of a power of two reaches below.
        have hSize : (m : ℚ) < 2 ^ 52 + 1 := by
          linarith
        have hSame : m = 2 ^ 52 := by
          have hBound : m < 2 ^ 52 + 1 := by
            exact_mod_cast hSize
          omega
        by_contra hMore
        have hRoom : minExponent < e := by
          have := hKept.low
          omega
        exact hFull (hPower hSame hRoom)
      · exact hLeast
    have hRatio : (0 : ℚ) < num / den := by positivity
    rcases exists_mem_Ico_zpow hRatio one_lt_two with
      ⟨n, hAbove, hBelow⟩
    have hUnder : (num : ℚ) / den < 2 ^ (52 + e) := by
      rw [not_le, div_lt_iff₀ hTwo] at hFull
      rw [zpow_add₀ two_ne_zero]
      exact_mod_cast hFull
    have hSmall : n < 52 + e :=
      (zpow_lt_zpow_iff_right₀ one_lt_two).mp
        (hAbove.trans_lt hUnder)
    rw [exponentOf_eq hNum hDen hAbove hBelow, hLeast]
    exact max_eq_right (by omega)

/-
  A quotient just below a power of two has an exponent and a
  significand of one bit more, and is rounded up to it.
-/
theorem carry_of_holds
    (hRoom : minExponent < e)
    (hNum : 0 < num)
    (hDen : 0 < den)
    (hHolds : (interval (2 ^ 52) e).Holds (num / den))
    (hBelow : (num : ℚ) / den / 2 ^ e < 2 ^ 52) :
    exponentOf num den = e - 1 ∧
      significandAt num den (e - 1) = 2 ^ 53 := by
  rcases holds_iff.mp hHolds with ⟨⟨hLow, -⟩, -⟩
  have hEnd := low_ge_of_short (e := e) rfl hRoom
  push_cast at hEnd
  have hTwo : (0 : ℚ) < 2 ^ e := by positivity
  have hHalf : (2 : ℚ) ^ (e - 1) = 2 ^ e / 2 := by
    rw [zpow_sub_one₀ two_ne_zero]
    ring
  have hDouble :
      (num : ℚ) / den / 2 ^ (e - 1) =
        2 * (num / den / 2 ^ e) := by
    rw [hHalf]
    field_simp
  constructor
  · have hAbove : (2 : ℚ) ^ (51 + e) ≤ num / den := by
      have hHigh : (2 : ℚ) ^ 51 ≤ num / den / 2 ^ e := by
        linarith
      rw [le_div_iff₀ hTwo] at hHigh
      rw [zpow_add₀ two_ne_zero]
      exact_mod_cast hHigh
    have hUnder :
        (num : ℚ) / den < 2 ^ (51 + e + 1) := by
      rw [div_lt_iff₀ hTwo] at hBelow
      have hSplit :
          (2 : ℚ) ^ (51 + e + 1) = 2 ^ 52 * 2 ^ e := by
        rw [Int.add_right_comm, zpow_add₀ two_ne_zero]
        norm_num
      rw [hSplit]
      exact hBelow
    have hShift : 51 + e - 52 = e - 1 := by omega
    rw [exponentOf_eq hNum hDen hAbove hUnder, hShift]
    exact max_eq_left (by omega)
  · refine significandAt_eq hDen ?_ ?_ (.inl (by norm_num))
    · rw [hDouble]
      push_cast
      linarith
    · rw [hDouble]
      push_cast
      linarith

/-
  Every quotient in the rounding interval of a number is
  rounded to the number.
-/
theorem ofRatio_of_holds
    (hKept : IsKept m e)
    (hPos : 0 < m)
    (hNum : 0 < num)
    (hDen : 0 < den)
    (hHolds : (interval m e).Holds (num / den))
    (isNegative : Bool) :
    ofRatio isNegative num den = .finite isNegative m e := by
  have hHigh := hKept.high
  unfold ofRatio
  rw [if_neg hNum.ne']
  dsimp only
  rw [power_eq, power_eq]
  by_cases hCarry :
      m = 2 ^ 52 ∧ minExponent < e ∧
        (num : ℚ) / den / 2 ^ e < 2 ^ 52
  · rcases hCarry with ⟨rfl, hRoom, hBelow⟩
    rcases carry_of_holds hRoom hNum hDen hHolds hBelow with
      ⟨hExponent, hSignificand⟩
    rw [hExponent, hSignificand, if_pos rfl]
    dsimp only
    rw [Int.sub_add_cancel, if_neg (by omega)]
  · have hExponent :
        exponentOf num den = e := by
      refine exponentOf_of_holds hKept hPos hNum hDen hHolds
        fun hPower hRoom => ?_
      by_contra hBelow
      exact hCarry ⟨hPower, hRoom, not_le.mp hBelow⟩
    have hSize : ¬ m = 2 ^ 53 := hKept.size.ne
    rw [hExponent, significandAt_of_holds hPos hDen hHolds,
      if_neg hSize]
    dsimp only
    rw [if_neg (by omega)]

end Double

end EventFlow
