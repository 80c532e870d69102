import EventFlow.Proofs.Rounding

/-
  The shortest decimal of a number reads back.

  A point of a decimal grid that the search accepts lies in
  the rounding interval of the number, and a grid with a
  unit below the length of the interval has such a point.
  The finest grid of the search is that fine, so the search
  always ends with a decimal, and every decimal of the
  interval is rounded to the number.

  Key theorems include:
    * `Double.holds_of_onGrid`
    * `Double.isSome_onGrid`
    * `Double.ten_zpow_le`
    * `Double.holds_shortest`
    * `Double.ofDecimal_of_holds`
-/

------------------------------------------------------------
-- Decimal Grids
------------------------------------------------------------

namespace EventFlow

namespace Double

/- Whether the value of an interval is inside of it. -/
structure Interval.IsAround (i : Interval) : Prop where
  below : i.low < i.value
  above : i.value < i.high

/- A power as a quotient of two natural powers. -/
theorem zpow_eq_div
    {base : ℚ}
    (hBase : base ≠ 0)
    (n : Int) :
    base ^ n = base ^ n.toNat / base ^ (-n).toNat := by
  rw [← zpow_natCast, ← zpow_natCast, ← zpow_sub₀ hBase,
    Int.toNat_sub_toNat_neg]

variable {i : Interval}
variable {scale : Int}

/- The unit of an interval, as a multiple of that of a grid. -/
def Interval.unitTop
    (i : Interval)
    (scale : Int) : Nat :=
  power 2 i.exponent.toNat * power 10 (-scale).toNat

/- What the multiple is divided by. -/
def Interval.unitBottom
    (i : Interval)
    (scale : Int) : Nat :=
  power 2 (-i.exponent).toNat * power 10 scale.toNat

theorem unitTop_pos : 0 < i.unitTop scale := by
  unfold Interval.unitTop
  rw [power_eq, power_eq]
  positivity

theorem unitBottom_pos : 0 < i.unitBottom scale := by
  unfold Interval.unitBottom
  rw [power_eq, power_eq]
  positivity

/- The two units are in the ratio of the two numbers. -/
theorem unitTop_mul :
    (i.unitTop scale : ℚ) * 10 ^ scale =
      i.unitBottom scale * 2 ^ i.exponent := by
  unfold Interval.unitTop Interval.unitBottom
  rw [power_eq, power_eq, power_eq, power_eq,
    zpow_eq_div two_ne_zero i.exponent,
    zpow_eq_div (by norm_num : (10 : ℚ) ≠ 0) scale]
  push_cast
  field_simp

/-
  Ends of an interval and points of a grid are multiples of
  one length, and so compare as natural numbers.
-/
theorem exists_length
    (i : Interval)
    (scale : Int) :
    ∃ length : ℚ,
      0 < length ∧
        (2 : ℚ) ^ i.exponent = i.unitTop scale * length ∧
        (10 : ℚ) ^ scale = i.unitBottom scale * length := by
  have hTop : (0 : ℚ) < i.unitTop scale :=
    Nat.cast_pos.mpr unitTop_pos
  have hUnits :
      (i.unitTop scale : ℚ) * 10 ^ scale =
        i.unitBottom scale * 2 ^ i.exponent :=
    unitTop_mul
  refine ⟨2 ^ i.exponent / i.unitTop scale, ?_, ?_, ?_⟩
  · positivity
  · field_simp
  · rw [mul_div_assoc', ← hUnits, mul_div_cancel_left₀]
    exact hTop.ne'

/- Whether a point of a grid lies in an interval. -/
theorem holds_grid_iff (n : Nat) :
    i.Holds (n * 10 ^ scale) ↔
      (i.low * i.unitTop scale ≤ n * i.unitBottom scale ∧
          n * i.unitBottom scale ≤
            i.high * i.unitTop scale) ∧
        (i.closed = true ∨
          (i.low * i.unitTop scale <
              n * i.unitBottom scale ∧
            n * i.unitBottom scale <
              i.high * i.unitTop scale)) := by
  rcases exists_length i scale with
    ⟨length, hPos, hTwo, hTen⟩
  unfold Interval.Holds
  rw [hTwo, hTen, ← mul_assoc, ← mul_assoc, ← mul_assoc,
    mul_le_mul_iff_left₀ hPos, mul_le_mul_iff_left₀ hPos,
    mul_lt_mul_iff_left₀ hPos, mul_lt_mul_iff_left₀ hPos]
  exact_mod_cast Iff.rfl

/- A grid with a unit below the length of an interval. -/
theorem unitBottom_lt
    (hFine :
      (10 : ℚ) ^ scale < (i.high - i.low) * 2 ^ i.exponent) :
    i.low * i.unitTop scale + i.unitBottom scale <
      i.high * i.unitTop scale := by
  rcases exists_length i scale with
    ⟨length, hPos, hTwo, hTen⟩
  rw [hTwo, hTen, ← mul_assoc,
    mul_lt_mul_iff_left₀ hPos] at hFine
  have hSum :
      (i.low * i.unitTop scale + i.unitBottom scale : ℚ) <
        i.high * i.unitTop scale := by
    linarith
  exact_mod_cast hSum

end Double

end EventFlow

------------------------------------------------------------
-- The Points That Are Accepted
------------------------------------------------------------

namespace EventFlow

namespace Double

variable {i : Interval}
variable {scale : Int}

/- The comparison of the search. -/
def Interval.within
    (i : Interval)
    (a b : Nat) : Bool :=
  if i.closed then a ≤ b else a < b

/- The greatest point of a grid that is not above. -/
def Interval.pointBelow
    (i : Interval)
    (scale : Int) : Nat :=
  i.value * i.unitTop scale / i.unitBottom scale

/- Whether the point below reads back. -/
def Interval.hitsBelow
    (i : Interval)
    (scale : Int) : Bool :=
  i.within (i.low * i.unitTop scale)
    (i.pointBelow scale * i.unitBottom scale)

/- Whether the next point reads back. -/
def Interval.hitsAbove
    (i : Interval)
    (scale : Int) : Bool :=
  i.within
    ((i.pointBelow scale + 1) * i.unitBottom scale)
    (i.high * i.unitTop scale)

/- What the search yields is one of the two neighbours. -/
theorem onGrid_cases (i : Interval) (scale : Int) :
    (i.hitsBelow scale = true ∧
        onGrid? i scale = some ⟨i.pointBelow scale, scale⟩) ∨
      (i.hitsAbove scale = true ∧
        onGrid? i scale =
          some ⟨i.pointBelow scale + 1, scale⟩) ∨
      (i.hitsBelow scale = false ∧
        i.hitsAbove scale = false ∧
        onGrid? i scale = none) := by
  have hUnfolded :
      onGrid? i scale =
        if i.hitsBelow scale && i.hitsAbove scale then
          if 2 * (i.value * i.unitTop scale) <
                (2 * i.pointBelow scale + 1) *
                  i.unitBottom scale ||
              (2 * (i.value * i.unitTop scale) ==
                  (2 * i.pointBelow scale + 1) *
                    i.unitBottom scale &&
                i.pointBelow scale % 2 == 0) then
            some ⟨i.pointBelow scale, scale⟩
          else
            some ⟨i.pointBelow scale + 1, scale⟩
        else if i.hitsBelow scale then
          some ⟨i.pointBelow scale, scale⟩
        else if i.hitsAbove scale then
          some ⟨i.pointBelow scale + 1, scale⟩
        else
          none := rfl
  rw [hUnfolded]
  cases hBelow : i.hitsBelow scale with
  | true =>
      cases hAbove : i.hitsAbove scale with
      | true =>
          rw [Bool.and_true, if_pos rfl]
          split
          · exact .inl ⟨rfl, rfl⟩
          · exact .inr (.inl ⟨rfl, rfl⟩)
      | false => exact .inl ⟨rfl, rfl⟩
  | false =>
      cases hAbove : i.hitsAbove scale with
      | true => exact .inr (.inl ⟨rfl, rfl⟩)
      | false => exact .inr (.inr ⟨rfl, rfl, rfl⟩)

theorem within_iff {a b : Nat} :
    i.within a b = true ↔
      a ≤ b ∧ (i.closed = true ∨ a < b) := by
  unfold Interval.within
  cases i.closed with
  | true => simp
  | false =>
      simp only [Bool.false_eq_true, if_false, false_or,
        decide_eq_true_eq]
      omega

/- The number lies between its two neighbours. -/
theorem pointBelow_bounds (i : Interval) (scale : Int) :
    i.pointBelow scale * i.unitBottom scale ≤
        i.value * i.unitTop scale ∧
      i.value * i.unitTop scale <
        (i.pointBelow scale + 1) * i.unitBottom scale :=
  ⟨Nat.div_mul_le_self _ _,
    (Nat.div_lt_iff_lt_mul unitBottom_pos).mp
      (Nat.lt_succ_self _)⟩

/- An accepted point reads back. -/
theorem holds_of_onGrid
    (hAround : i.IsAround)
    {d : Decimal}
    (hFound : onGrid? i scale = some d) :
    i.Holds (d.digits * 10 ^ d.scale) := by
  rcases pointBelow_bounds i scale with ⟨hUnder, hOver⟩
  have hTop : 0 < i.unitTop scale := unitTop_pos
  have hLow :
      i.low * i.unitTop scale < i.value * i.unitTop scale :=
    Nat.mul_lt_mul_of_pos_right hAround.below hTop
  have hHigh :
      i.value * i.unitTop scale <
        i.high * i.unitTop scale :=
    Nat.mul_lt_mul_of_pos_right hAround.above hTop
  have hEnd := hUnder.trans_lt hHigh
  have hStart := hLow.trans hOver
  rcases onGrid_cases i scale with
    ⟨hHit, hEq⟩ | ⟨hHit, hEq⟩ | ⟨-, -, hEq⟩
  · obtain rfl := Option.some_inj.mp (hEq.symm.trans hFound)
    rcases within_iff.mp hHit with ⟨hLe, hEnds⟩
    refine (holds_grid_iff _).mpr ⟨⟨hLe, hEnd.le⟩, ?_⟩
    exact hEnds.imp_right fun hLt => ⟨hLt, hEnd⟩
  · obtain rfl := Option.some_inj.mp (hEq.symm.trans hFound)
    rcases within_iff.mp hHit with ⟨hLe, hEnds⟩
    refine (holds_grid_iff _).mpr ⟨⟨hStart.le, hLe⟩, ?_⟩
    exact hEnds.imp_right fun hLt => ⟨hStart, hLt⟩
  · cases hEq.symm.trans hFound

/- A grid that is fine enough has a point that reads back. -/
theorem isSome_onGrid
    (hFine :
      (10 : ℚ) ^ scale < (i.high - i.low) * 2 ^ i.exponent) :
    (onGrid? i scale).isSome = true := by
  rcases onGrid_cases i scale with
    ⟨-, hEq⟩ | ⟨-, hEq⟩ | ⟨hBelow, hAbove, -⟩
  · rw [hEq]
    rfl
  · rw [hEq]
    rfl
  · -- The interval would lie between the two neighbours.
    exfalso
    have hLow :
        ¬ i.low * i.unitTop scale <
          i.pointBelow scale * i.unitBottom scale := by
      intro hLt
      have hHit : i.hitsBelow scale = true :=
        within_iff.mpr ⟨hLt.le, .inr hLt⟩
      rw [hBelow] at hHit
      cases hHit
    have hHigh :
        ¬ (i.pointBelow scale + 1) * i.unitBottom scale <
          i.high * i.unitTop scale := by
      intro hLt
      have hHit : i.hitsAbove scale = true :=
        within_iff.mpr ⟨hLt.le, .inr hLt⟩
      rw [hAbove] at hHit
      cases hHit
    have hLength := unitBottom_lt hFine
    rw [Nat.succ_mul] at hHigh
    omega

end Double

end EventFlow

------------------------------------------------------------
-- Powers of Ten and of Two
------------------------------------------------------------

namespace EventFlow

namespace Double

/-
  Ten is between 2 ^ (33 / 10) and 2 ^ (10 / 3), which bounds
  its powers by those of two.
-/
theorem ten_zpow_le
    {t u : Int}
    (hAbove : 10 * t ≤ 3 * u)
    (hBelow : 33 * t ≤ 10 * u) :
    (10 : ℚ) ^ t ≤ 2 ^ u := by
  rcases le_total 0 t with hSign | hSign
  · have hThird : ((10 : ℚ) ^ t) ^ 3 ≤ (2 ^ u) ^ 3 := by
      calc ((10 : ℚ) ^ t) ^ 3
        _ = ((10 : ℚ) ^ 3) ^ t := by
            rw [← zpow_natCast, zpow_comm, zpow_natCast]
        _ ≤ ((2 : ℚ) ^ 10) ^ t :=
            zpow_le_zpow_left₀ hSign (by norm_num)
              (by norm_num)
        _ = 2 ^ (10 * t) := by
            rw [zpow_mul]
            rfl
        _ ≤ 2 ^ (u * 3) :=
            zpow_le_zpow_right₀ one_le_two (by omega)
        _ = (2 ^ u) ^ 3 := by
            rw [zpow_mul]
            rfl
    exact (pow_le_pow_iff_left₀ (by positivity)
      (by positivity) (by omega)).mp hThird
  · have hTenth : ((10 : ℚ) ^ t) ^ 10 ≤ (2 ^ u) ^ 10 := by
      calc ((10 : ℚ) ^ t) ^ 10
        _ = ((10 : ℚ) ^ 10) ^ t := by
            rw [← zpow_natCast, zpow_comm, zpow_natCast]
        _ = (((10 : ℚ) ^ 10) ^ (-t))⁻¹ := by
            rw [zpow_neg, inv_inv]
        _ ≤ (((2 : ℚ) ^ 33) ^ (-t))⁻¹ := by
            refine inv_anti₀ (by positivity) ?_
            exact zpow_le_zpow_left₀ (by omega)
              (by norm_num) (by norm_num)
        _ = ((2 : ℚ) ^ 33) ^ t := by
            rw [zpow_neg, inv_inv]
        _ = 2 ^ (33 * t) := by
            rw [zpow_mul]
            rfl
        _ ≤ 2 ^ (u * 10) :=
            zpow_le_zpow_right₀ one_le_two (by omega)
        _ = (2 ^ u) ^ 10 := by
            rw [zpow_mul]
            rfl
    exact (pow_le_pow_iff_left₀ (by positivity)
      (by positivity) (by omega)).mp hTenth

end Double

end EventFlow

------------------------------------------------------------
-- The Search
------------------------------------------------------------

namespace EventFlow

namespace Double

variable {m : Nat}
variable {e : Int}

/- A positive number is inside its interval. -/
theorem isAround_interval (hPos : 0 < m) :
    (interval m e).IsAround := by
  constructor
  · unfold interval
    dsimp only
    split
    · omega
    · omega
  · exact Nat.lt_add_of_pos_right two_pos

/- An interval is three quarters of a place long at least. -/
theorem interval_length (hPos : 0 < m) :
    (interval m e).low + 3 ≤ (interval m e).high := by
  unfold interval
  dsimp only
  split
  · omega
  · omega

/- The finest grid of the search is finer than the interval. -/
theorem finest_grid
    (hKept : IsKept m e)
    (hPos : 0 < m) :
    (10 : ℚ) ^ (coarseScale m e - 23) <
      ((interval m e).high - (interval m e).low) *
        2 ^ (interval m e).exponent := by
  have hLow : minExponent ≤ e := hKept.low
  have hHigh : e ≤ maxExponent := hKept.high
  unfold minExponent at hLow
  unfold maxExponent at hHigh
  have hLog : m.log2 ≤ 52 := by
    have hSize : m.log2 < 53 :=
      (Nat.log2_lt hPos.ne').mpr hKept.size
    omega
  have hWide :
      (3 : ℚ) ≤ (interval m e).high - (interval m e).low := by
    have hLength :
        ((interval m e).low + 3 : ℚ) ≤
          (interval m e).high := by
      exact_mod_cast interval_length (e := e) hPos
    linarith
  unfold coarseScale
  generalize hWhole :
    ((m.log2 : Int) + e) * 30103 / 100000 = t
  have hBound : (10 : ℚ) ^ t ≤ 2 ^ (e + 67) :=
    ten_zpow_le (by omega) (by omega)
  have hUnit : (interval m e).exponent = e - 2 := rfl
  rw [hUnit]
  calc (10 : ℚ) ^ (t + 2 - 23)
    _ = 10 ^ t / 10 ^ 21 := by
        rw [add_sub_assoc, zpow_add₀ (by norm_num)]
        norm_num
        ring
    _ ≤ 2 ^ (e + 67) / 10 ^ 21 := by
        gcongr
    _ < 3 * 2 ^ (e - 2) := by
        rw [div_lt_iff₀ (by positivity)]
        have hSplit :
            (2 : ℚ) ^ (e + 67) = 2 ^ 69 * 2 ^ (e - 2) := by
          rw [← zpow_natCast, ← zpow_add₀ two_ne_zero]
          congr 1
          omega
        have hTwo : (0 : ℚ) < 2 ^ (e - 2) := by positivity
        rw [hSplit]
        linarith
    _ ≤ _ := by
        gcongr

/- The shortest decimal of a number reads back. -/
theorem holds_shortest
    (hKept : IsKept m e)
    (hPos : 0 < m) :
    (interval m e).Holds
      ((shortest m e).digits * 10 ^ (shortest m e).scale) := by
  have hAround := isAround_interval (e := e) hPos
  have hFinest := isSome_onGrid (finest_grid hKept hPos)
  rcases Option.isSome_iff_exists.mp hFinest with ⟨d, hGrid⟩
  unfold shortest
  dsimp only
  cases hFound :
      List.findSome? (onGrid? (interval m e))
        ((List.range 24).map fun (k : Nat) =>
          coarseScale m e - (k : Int)) with
  | some decimal =>
      rcases List.exists_of_findSome?_eq_some hFound with
        ⟨scale, -, hScale⟩
      exact holds_of_onGrid hAround hScale
  | none =>
      rw [List.findSome?_eq_none_iff] at hFound
      have hMem :
          coarseScale m e - 23 ∈
            (List.range 24).map fun (k : Nat) =>
              coarseScale m e - (k : Int) :=
        List.mem_map.mpr ⟨23, by decide, rfl⟩
      rw [hFound _ hMem] at hGrid
      cases hGrid

end Double

end EventFlow

------------------------------------------------------------
-- Decimals of an Interval
------------------------------------------------------------

namespace EventFlow

namespace Double

variable {m : Nat}
variable {e : Int}

/- A decimal lies between powers of ten of its digits. -/
theorem decimal_bounds
    {digits : Nat}
    (hDigits : 0 < digits)
    (scale : Int) :
    let size : Int := (Nat.toDigits 10 digits).length
    (10 : ℚ) ^ (size + scale - 1) ≤ digits * 10 ^ scale ∧
      (digits : ℚ) * 10 ^ scale < 10 ^ (size + scale) := by
  intro size
  have hTen : (10 : ℚ) ≠ 0 := by norm_num
  have hSize : 0 < (Nat.toDigits 10 digits).length :=
    Nat.length_toDigits_pos
  have hScale : (0 : ℚ) < 10 ^ scale := by positivity
  constructor
  · have hLow :
        10 ^ ((Nat.toDigits 10 digits).length - 1) ≤
          digits := by
      by_cases hOne : (Nat.toDigits 10 digits).length = 1
      · rw [hOne]
        exact hDigits
      · by_contra hLess
        have hShort :=
          (Nat.length_toDigits_le_iff (b := 10)
            (n := digits) (by norm_num)
            (k := (Nat.toDigits 10 digits).length - 1)
            (by omega)).mpr (by omega)
        omega
    have hSplit : size + scale - 1 =
        ((Nat.toDigits 10 digits).length - 1 : Nat) +
          scale := by
      omega
    rw [hSplit, zpow_add₀ hTen, zpow_natCast]
    gcongr
    exact_mod_cast hLow
  · have hHigh :
        digits < 10 ^ (Nat.toDigits 10 digits).length :=
      (Nat.length_toDigits_le_iff (by norm_num) hSize).mp
        le_rfl
    rw [zpow_add₀ hTen, zpow_natCast]
    gcongr
    exact_mod_cast hHigh

/- What lies in an interval is neither huge nor tiny. -/
theorem bounds_of_holds
    (hKept : IsKept m e)
    (hPos : 0 < m)
    {q : ℚ}
    (hHolds : (interval m e).Holds q) :
    (10 : ℚ) ^ (-340 : Int) ≤ q ∧ q < 10 ^ (320 : Int) := by
  have hLow : minExponent ≤ e := hKept.low
  have hHigh : e ≤ maxExponent := hKept.high
  unfold minExponent at hLow
  unfold maxExponent at hHigh
  have hUnit : (interval m e).exponent = e - 2 := rfl
  have hLeast : 1 ≤ (interval m e).low := by
    unfold interval
    dsimp only
    split
    · omega
    · omega
  have hMost : (interval m e).high < 2 ^ 56 := by
    have hSize := hKept.size
    have hEnd : (interval m e).high = 4 * m + 2 := rfl
    omega
  rcases hHolds with ⟨⟨hAbove, hBelow⟩, -⟩
  rw [hUnit] at hAbove hBelow
  have hTwo : (0 : ℚ) < 2 ^ (e - 2) := by positivity
  constructor
  · calc (10 : ℚ) ^ (-340 : Int)
      _ ≤ 2 ^ (e - 2) := ten_zpow_le (by omega) (by omega)
      _ ≤ (interval m e).low * 2 ^ (e - 2) :=
          le_mul_of_one_le_left hTwo.le
            (by exact_mod_cast hLeast)
      _ ≤ q := hAbove
  · have hInverse :
        (10 : ℚ) ^ (-320 : Int) ≤ 2 ^ (-(54 + e)) :=
      ten_zpow_le (by omega) (by omega)
    calc q
      _ ≤ (interval m e).high * 2 ^ (e - 2) := hBelow
      _ < 2 ^ 56 * 2 ^ (e - 2) := by
          gcongr
          exact_mod_cast hMost
      _ = 2 ^ (54 + e) := by
          rw [← zpow_natCast, ← zpow_add₀ two_ne_zero]
          congr 1
          omega
      _ ≤ 10 ^ (320 : Int) := by
          rw [zpow_neg, zpow_neg] at hInverse
          exact (inv_le_inv₀ (by positivity)
            (by positivity)).mp hInverse

/- A decimal of an interval has digits. -/
theorem digits_pos_of_holds
    (hKept : IsKept m e)
    (hPos : 0 < m)
    {digits : Nat}
    {scale : Int}
    (hHolds :
      (interval m e).Holds (digits * 10 ^ scale)) :
    0 < digits := by
  have hTiny := (bounds_of_holds hKept hPos hHolds).1
  have hTen : (0 : ℚ) < 10 ^ (-340 : Int) := by positivity
  by_contra hNone
  obtain rfl : digits = 0 := by omega
  rw [Nat.cast_zero, zero_mul] at hTiny
  exact absurd hTiny (not_le.mpr hTen)

/- A decimal of the interval is rounded to the number. -/
theorem ofDecimal_of_holds
    (hKept : IsKept m e)
    (hPos : 0 < m)
    {digits : Nat}
    {scale : Int}
    (hHolds :
      (interval m e).Holds (digits * 10 ^ scale))
    (isNegative : Bool) :
    ofDecimal isNegative digits scale =
      .finite isNegative m e := by
  rcases bounds_of_holds hKept hPos hHolds with
    ⟨hTiny, hHuge⟩
  have hDigits := digits_pos_of_holds hKept hPos hHolds
  rcases decimal_bounds hDigits scale with ⟨hLeast, hMost⟩
  have hTen : (1 : ℚ) < 10 := by norm_num
  have hSmall :=
    (zpow_lt_zpow_iff_right₀ hTen).mp
      (hLeast.trans_lt hHuge)
  have hLarge :=
    (zpow_lt_zpow_iff_right₀ hTen).mp
      (hTiny.trans_lt hMost)
  unfold ofDecimal
  dsimp only
  rw [if_neg hDigits.ne', if_neg (by omega),
    if_neg (by omega)]
  split
  · rename_i hSign
    refine ofRatio_of_holds hKept hPos ?_ one_pos ?_ _
    · rw [power_eq]
      positivity
    · rw [power_eq]
      push_cast
      rw [zpow_toNat hSign, div_one]
      exact hHolds
  · rename_i hSign
    refine ofRatio_of_holds hKept hPos hDigits ?_ ?_ _
    · rw [power_eq]
      positivity
    · rw [power_eq]
      push_cast
      rw [zpow_neg_toNat (by omega), div_inv_eq_mul]
      exact hHolds

end Double

end EventFlow
