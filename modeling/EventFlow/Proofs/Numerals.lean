import EventFlow.Proofs.JsonNumbers
import EventFlow.Proofs.ShortestDecimals
import Mathlib.Tactic.IntervalCases

/-
  Written numbers read back.

  A numeral is a whole part, a fraction and an exponent, of
  which the last two may be missing.  Its characters are a
  number of JSON.  Every layout of a decimal is a numeral of
  the same value, so a number that was written by its
  shortest decimal reads back as it was.

  Key definitions include:
    * `Json.Numeral`
    * `Json.Numeral.IsWritten`

  Key theorems include:
    * `Json.Numeral.readNumber_chars`
    * `Double.exists_numeral`
    * `Json.readNumber_int`
    * `Json.readNumber_double`
-/

------------------------------------------------------------
-- Written Digits
------------------------------------------------------------

namespace EventFlow

namespace Json

theorem areDigits_replicate (n : Nat) :
    AreDigits (List.replicate n '0') := by
  intro c hMem
  rw [List.eq_of_mem_replicate hMem]
  rfl

theorem areDigits_toDigits (n : Nat) :
    AreDigits (Nat.toDigits 10 n) := by
  intro c hMem
  exact Nat.isDigit_of_mem_toDigits (by omega) le_rfl hMem

theorem areDigits_paddedDigits (width n : Nat) :
    AreDigits (Double.paddedDigits width n) :=
  (areDigits_replicate _).append (areDigits_toDigits n)

/- The value of digits, in the words of the library. -/
theorem digitsValue_eq (cs : List Char) :
    digitsValue cs = Nat.ofDigitChars 10 cs 0 :=
  Nat.ofDigitChars_eq_foldl.symm

theorem digitsValue_toDigits (n : Nat) :
    digitsValue (Nat.toDigits 10 n) = n := by
  rw [digitsValue_eq, Nat.ofDigitChars_ten_toDigits]

/- Zeros in front do not change a value. -/
theorem digitsValue_zeros_append
    (k : Nat)
    (cs : List Char) :
    digitsValue (List.replicate k '0' ++ cs) =
      digitsValue cs := by
  rw [digitsValue_eq, digitsValue_eq,
    Nat.ofDigitChars_append,
    Nat.ofDigitChars_replicate_zero, Nat.mul_zero]

theorem digitsValue_paddedDigits (width n : Nat) :
    digitsValue (Double.paddedDigits width n) = n := by
  rw [Double.paddedDigits, digitsValue_zeros_append,
    digitsValue_toDigits]

/- Zeros behind digits multiply a value. -/
theorem digitsValue_append_zeros
    (cs : List Char)
    (k : Nat) :
    digitsValue (cs ++ List.replicate k '0') =
      10 ^ k * digitsValue cs := by
  rw [digitsValue_eq, digitsValue_eq,
    Nat.ofDigitChars_append,
    Nat.ofDigitChars_replicate_zero]

/- The digits of a positive number start with no zero. -/
theorem head_toDigits
    (n : Nat)
    (hPos : 0 < n) :
    (Nat.toDigits 10 n).head? ≠ some '0' := by
  induction n using Nat.strongRecOn with
  | ind n ih =>
      by_cases hSmall : n < 10
      · rw [Nat.toDigits_of_lt_base hSmall]
        interval_cases n <;> decide
      · rw [Nat.toDigits_of_base_le (by omega) (by omega),
          List.head?_append_of_ne_nil _ Nat.toDigits_ne_nil]
        exact ih (n / 10) (by omega) (by omega)

theorem isWhole_toDigits (n : Nat) :
    IsWhole (Nat.toDigits 10 n) where
  digits := areDigits_toDigits n
  filled := Nat.toDigits_ne_nil
  first := by
    intro rest hEq
    by_cases hPos : 0 < n
    · exact absurd (by rw [hEq]; rfl) (head_toDigits n hPos)
    · obtain rfl : n = 0 := by omega
      rw [Nat.toDigits_zero] at hEq
      exact (List.cons.inj hEq).2.symm

/- More digits behind a whole part that is not zero. -/
theorem IsWhole.append
    {cs ds : List Char}
    (hWhole : IsWhole cs)
    (hFirst : cs.head? ≠ some '0')
    (hDigits : AreDigits ds) :
    IsWhole (cs ++ ds) where
  digits := hWhole.digits.append hDigits
  filled := List.append_ne_nil_of_left_ne_nil hWhole.filled ds
  first := by
    intro rest hEq
    exfalso
    apply hFirst
    rw [← List.head?_append_of_ne_nil cs hWhole.filled,
      hEq]
    rfl

/- A first part of a whole part that is not zero. -/
theorem IsWhole.take
    {cs : List Char}
    (hWhole : IsWhole cs)
    (hFirst : cs.head? ≠ some '0')
    (k : Nat) :
    IsWhole (cs.take (k + 1)) where
  digits := fun c hMem =>
    hWhole.digits c (List.mem_of_mem_take hMem)
  filled := by
    intro hNil
    rcases List.take_eq_nil_iff.mp hNil with hZero | hNil
    · omega
    · exact hWhole.filled hNil
  first := by
    intro rest hEq
    exfalso
    apply hFirst
    cases cs with
    | nil => cases hEq
    | cons c cs =>
        rw [List.take_succ_cons] at hEq
        rw [(List.cons.inj hEq).1]
        rfl

end Json

end EventFlow

------------------------------------------------------------
-- Numerals
------------------------------------------------------------

namespace EventFlow

namespace Json

/- The parts of a written number behind its sign. -/
structure Numeral where
  whole : List Char
  fraction : List Char
  exponent? : Option Int

/- An integer is the sign and the size that it has. -/
theorem signed_natAbs (n : Int) :
    signed (decide (n < 0)) n.natAbs = n := by
  unfold signed
  split
  · rename_i hSign
    have hNegative := of_decide_eq_true hSign
    omega
  · rename_i hSign
    have hSign := of_decide_eq_false (Bool.not_eq_true _ ▸ hSign)
    omega

namespace Numeral

/- A fraction with its point, unless there is none. -/
def fractionChars (n : Numeral) : List Char :=
  if n.fraction.isEmpty then [] else '.' :: n.fraction

/- An exponent with its letter, unless there is none. -/
def exponentChars (n : Numeral) : List Char :=
  match n.exponent? with
  | none => []
  | some exponent =>
      'e' ::
        Double.exponentText Double.layout.exponentWidth
          exponent

/- The characters of a numeral. -/
def chars (n : Numeral) : List Char :=
  n.whole ++ n.fractionChars ++ n.exponentChars

/- Whether a numeral is written as the reader expects. -/
structure IsWritten (n : Numeral) : Prop where
  whole : IsWhole n.whole
  fraction : AreDigits n.fraction

/- The digits of a numeral as one number. -/
def digits (n : Numeral) : Nat :=
  digitsValue (n.whole ++ n.fraction)

/- The power of ten that the digits are multiplied by. -/
def scale (n : Numeral) : Int :=
  n.exponent?.getD 0 - n.fraction.length

variable {n : Numeral}
variable {rest : List Char}

theorem isFraction_chars
    (hWritten : n.IsWritten) :
    IsFraction n.fractionChars n.fraction := by
  have hDigits := hWritten.fraction
  unfold fractionChars
  cases hFraction : n.fraction with
  | nil => exact .none
  | cons c cs =>
      rw [hFraction] at hDigits
      exact .some (List.cons_ne_nil c cs) hDigits

/- The sign of a written exponent is never missing. -/
theorem isExponent_chars (n : Numeral) :
    IsExponent n.exponentChars n.exponent? := by
  unfold exponentChars
  cases n.exponent? with
  | none => exact .none
  | some exponent =>
      let width := Double.layout.exponentWidth
      have hSign :
          IsExponentSign
            [if exponent < 0 then '-' else '+']
            (decide (exponent < 0)) := by
        by_cases hNegative : exponent < 0
        · rw [if_pos hNegative, decide_eq_true hNegative]
          exact .minus
        · rw [if_neg hNegative, decide_eq_false hNegative]
          exact .plus
      have hFilled :
          Double.paddedDigits width exponent.natAbs ≠ [] :=
        List.append_ne_nil_of_right_ne_nil _
          Nat.toDigits_ne_nil
      have hWritten :=
        IsExponent.some (.inl rfl) hSign hFilled
          (areDigits_paddedDigits width exponent.natAbs)
      rw [digitsValue_paddedDigits, signed_natAbs] at hWritten
      exact hWritten

/- A numeral that is no integer is read as its value. -/
theorem readNumber_chars
    (hWritten : n.IsWritten)
    (hPart : n.fraction ≠ [] ∨ n.exponent? ≠ none)
    (hEnds : EndsNumber rest)
    (isNegative : Bool) :
    readNumber (signChars isNegative ++ (n.chars ++ rest)) =
      .ok
        (.float (Double.ofDecimal isNegative n.digits n.scale),
          rest) := by
  have hRead :=
    readNumber_decimal hWritten.whole
      (isFraction_chars hWritten) (isExponent_chars n) hPart
      hEnds isNegative
  rw [chars, List.append_assoc, List.append_assoc]
  exact hRead

end Numeral

end Json

end EventFlow

------------------------------------------------------------
-- Layouts of Decimals
------------------------------------------------------------

namespace EventFlow

namespace Double

/-
  Whether characters are a numeral, with a fraction or an
  exponent, of a value.
-/
structure IsNumeral
    (n : Json.Numeral)
    (cs : List Char)
    (q : ℚ) : Prop where
  written : n.IsWritten
  part : n.fraction ≠ [] ∨ n.exponent? ≠ none
  chars : n.chars = cs
  value : (n.digits : ℚ) * 10 ^ n.scale = q

variable {digits : Nat}
variable {scale : Int}

/- A decimal without a fraction is written with a zero. -/
theorem isNumeral_integer
    (hPos : 0 < digits)
    (hScale : 0 ≤ scale) :
    IsNumeral
      ⟨Nat.toDigits 10 digits ++
        List.replicate scale.toNat '0', ['0'], none⟩
      (Nat.toDigits 10 digits ++
        List.replicate scale.toNat '0' ++ ['.', '0'])
      (digits * 10 ^ scale) where
  written :=
    { whole :=
        (Json.isWhole_toDigits digits).append
          (Json.head_toDigits digits hPos)
          (Json.areDigits_replicate _)
      fraction := Json.areDigits_replicate 1 }
  part := .inl (List.cons_ne_nil _ _)
  chars := List.append_nil _
  value := by
    have hDigits :
        Json.digitsValue
            (Nat.toDigits 10 digits ++
              List.replicate scale.toNat '0' ++ ['0']) =
          10 ^ (scale.toNat + 1) * digits := by
      rw [List.append_assoc, ← List.replicate_succ',
        Json.digitsValue_append_zeros,
        Json.digitsValue_toDigits]
    have hUnit : (10 : ℚ) ^ (-1 : Int) = 1 / 10 := by
      norm_num
    change
      ((Json.digitsValue
          (Nat.toDigits 10 digits ++
            List.replicate scale.toNat '0' ++ ['0']) : Nat) :
          ℚ) * 10 ^ (-1 : Int) = _
    rw [hDigits, hUnit]
    push_cast
    rw [pow_succ, zpow_toNat hScale]
    ring

/- A decimal with a point between two of its digits. -/
theorem isNumeral_split
    (hPos : 0 < digits)
    {k : Nat}
    (hShort : k < (Nat.toDigits 10 digits).length)
    (hScale : scale + (Nat.toDigits 10 digits).length = k)
    (hFirst : 0 < k) :
    IsNumeral
      ⟨(Nat.toDigits 10 digits).take k,
        (Nat.toDigits 10 digits).drop k, none⟩
      ((Nat.toDigits 10 digits).take k ++
        '.' :: (Nat.toDigits 10 digits).drop k)
      (digits * 10 ^ scale) := by
  have hFilled : (Nat.toDigits 10 digits).drop k ≠ [] := by
    rw [ne_eq, List.drop_eq_nil_iff]
    omega
  obtain ⟨j, rfl⟩ : ∃ j, k = j + 1 := ⟨k - 1, by omega⟩
  constructor
  · refine ⟨(Json.isWhole_toDigits digits).take
      (Json.head_toDigits digits hPos) j, ?_⟩
    intro c hMem
    exact Json.areDigits_toDigits digits c
      (List.mem_of_mem_drop hMem)
  · exact .inl hFilled
  · unfold Json.Numeral.chars Json.Numeral.fractionChars
      Json.Numeral.exponentChars
    dsimp only
    rw [List.append_nil, if_neg (by simpa using hFilled)]
  · have hLength :
        (0 : Int) -
            ((Nat.toDigits 10 digits).drop (j + 1)).length =
          scale := by
      rw [List.length_drop]
      omega
    unfold Json.Numeral.digits Json.Numeral.scale
    dsimp only [Option.getD_none]
    rw [hLength, List.take_append_drop,
      Json.digitsValue_toDigits]

/- A decimal below one. -/
theorem isNumeral_small
    {k : Nat}
    (hScale :
      scale + (Nat.toDigits 10 digits).length + k = 0) :
    IsNumeral
      ⟨['0'], List.replicate k '0' ++
        Nat.toDigits 10 digits, none⟩
      ('0' :: '.' ::
        (List.replicate k '0' ++ Nat.toDigits 10 digits))
      (digits * 10 ^ scale) := by
  have hFilled :
      List.replicate k '0' ++ Nat.toDigits 10 digits ≠ [] :=
    List.append_ne_nil_of_right_ne_nil _ Nat.toDigits_ne_nil
  constructor
  · exact
      { whole := Json.isWhole_zero
        fraction :=
          (Json.areDigits_replicate k).append
            (Json.areDigits_toDigits digits) }
  · exact .inl hFilled
  · unfold Json.Numeral.chars Json.Numeral.fractionChars
      Json.Numeral.exponentChars
    dsimp only
    rw [List.append_nil, if_neg (by simp)]
    rfl
  · have hLength :
        (0 : Int) -
            (List.replicate k '0' ++
              Nat.toDigits 10 digits).length =
          scale := by
      rw [List.length_append, List.length_replicate]
      omega
    have hDigits :
        Json.digitsValue
            (['0'] ++ (List.replicate k '0' ++
              Nat.toDigits 10 digits)) = digits :=
      (Json.digitsValue_zeros_append (k + 1) _).trans
        (Json.digitsValue_toDigits digits)
    unfold Json.Numeral.digits Json.Numeral.scale
    dsimp only [Option.getD_none]
    rw [hLength, hDigits]

/- A decimal with an exponent. -/
theorem isNumeral_exponent
    (hPos : 0 < digits)
    {exponent : Int}
    (hScale :
      scale + (Nat.toDigits 10 digits).length - 1 =
        exponent) :
    IsNumeral
      ⟨(Nat.toDigits 10 digits).take 1,
        (Nat.toDigits 10 digits).drop 1, some exponent⟩
      ((Nat.toDigits 10 digits).take 1 ++
        (if ((Nat.toDigits 10 digits).drop 1).isEmpty then
            []
          else
            '.' :: (Nat.toDigits 10 digits).drop 1) ++
        'e' :: exponentText layout.exponentWidth exponent)
      (digits * 10 ^ scale) := by
  have hSize : 0 < (Nat.toDigits 10 digits).length :=
    Nat.length_toDigits_pos
  constructor
  · refine ⟨(Json.isWhole_toDigits digits).take
      (Json.head_toDigits digits hPos) 0, ?_⟩
    intro c hMem
    exact Json.areDigits_toDigits digits c
      (List.mem_of_mem_drop hMem)
  · exact .inr (Option.some_ne_none _)
  · rfl
  · have hLength :
        exponent - ((Nat.toDigits 10 digits).drop 1).length =
          scale := by
      rw [List.length_drop]
      omega
    unfold Json.Numeral.digits Json.Numeral.scale
    dsimp only [Option.getD_some]
    rw [hLength, List.take_append_drop,
      Json.digitsValue_toDigits]

/- A layout of a positive decimal is a numeral of its value. -/
theorem exists_numeral
    (d : Decimal)
    (hPos : 0 < d.digits) :
    ∃ n,
      IsNumeral n (d.layOut layout)
        (d.digits * 10 ^ d.scale) := by
  have hSize : 0 < (Nat.toDigits 10 d.digits).length :=
    Nat.length_toDigits_pos
  unfold Decimal.layOut
  dsimp only
  generalize hExponent :
    d.scale + (Nat.toDigits 10 d.digits).length - 1 =
      exponent
  split
  · split
    · rename_i hScale
      exact ⟨_, isNumeral_integer hPos hScale⟩
    · split
      · exact ⟨_, isNumeral_split hPos (by omega) (by omega)
          (by omega)⟩
      · exact ⟨_, isNumeral_small (by omega)⟩
  · exact ⟨_, isNumeral_exponent hPos hExponent⟩

/- The shortest decimal of a number is a numeral, too. -/
theorem exists_numeral_shortest
    {m : Nat}
    {e : Int}
    (hKept : IsKept m e)
    (hPos : 0 < m) :
    ∃ n,
      IsNumeral n ((shortest m e).layOut layout)
        ((shortest m e).digits * 10 ^ (shortest m e).scale) :=
  exists_numeral _
    (digits_pos_of_holds hKept hPos
      (holds_shortest hKept hPos))

end Double

end EventFlow

------------------------------------------------------------
-- Numbers That Read Back
------------------------------------------------------------

namespace EventFlow

namespace Json

variable {rest : List Char}

/- The characters of an integer. -/
theorem toList_toString_int (n : Int) :
    (toString n).toList =
      signChars (decide (n < 0)) ++
        Nat.toDigits 10 n.natAbs := by
  have hDigits (k : Nat) :
      (Nat.repr k).toList = Nat.toDigits 10 k := by
    rw [Nat.repr_eq_ofList_toDigits, String.toList_ofList]
  cases n with
  | ofNat k =>
      have hSign : ¬ (Int.ofNat k < 0) :=
        Int.not_lt.mpr (Int.natCast_nonneg k)
      rw [decide_eq_false hSign]
      exact hDigits k
  | negSucc k =>
      have hSign : Int.negSucc k < 0 := by omega
      rw [decide_eq_true hSign]
      change ("-" ++ Nat.repr (k + 1)).toList = _
      rw [String.toList_append, hDigits]
      rfl

/- Whether an integer has no more digits than are read. -/
def IsShort (n : Int) : Prop :=
  (Nat.toDigits 10 n.natAbs).length ≤ maxDigits

/- A written integer reads back. -/
theorem readNumber_int
    {n : Int}
    (hShort : IsShort n)
    (hEnds : EndsNumber rest) :
    readNumber ((toString n).toList ++ rest) =
      .ok (.int n, rest) := by
  have hRead :=
    readNumber_integer (isWhole_toDigits n.natAbs) hShort
      hEnds (decide (n < 0))
  rw [digitsValue_toDigits, signed_natAbs] at hRead
  rw [toList_toString_int, List.append_assoc]
  exact hRead

/- A written number that is not zero reads back. -/
theorem readNumber_nonzero
    {m : Nat}
    {e : Int}
    (hKept : Double.IsKept m e)
    (hPos : 0 < m)
    (isNegative : Bool)
    (hEnds : EndsNumber rest) :
    readNumber ((Double.finite isNegative m e).chars ++ rest) =
      .ok (.float (.finite isNegative m e), rest) := by
  have hHolds := Double.holds_shortest hKept hPos
  rcases Double.exists_numeral_shortest hKept hPos with
    ⟨n, hNumeral⟩
  have hRead :=
    Numeral.readNumber_chars hNumeral.written hNumeral.part
      hEnds isNegative
  rw [← hNumeral.value] at hHolds
  rw [Double.ofDecimal_of_holds hKept hPos hHolds] at hRead
  rw [Double.chars, if_neg hPos.ne', ← hNumeral.chars,
    List.append_assoc]
  exact hRead

/- A written zero reads back. -/
theorem readNumber_zero
    (isNegative : Bool)
    (hEnds : EndsNumber rest) :
    readNumber
        ((Double.signedZero isNegative).chars ++ rest) =
      .ok (.float (Double.signedZero isNegative), rest) := by
  have hWritten :
      Numeral.IsWritten ⟨['0'], ['0'], none⟩ :=
    { whole := isWhole_zero
      fraction := areDigits_replicate 1 }
  have hRead :=
    Numeral.readNumber_chars hWritten
      (.inl (List.cons_ne_nil _ _)) hEnds isNegative
  rw [Double.signedZero, Double.chars, if_pos rfl,
    List.append_assoc]
  exact hRead

/- A written number that is finite reads back. -/
theorem readNumber_double
    {x : Double}
    (hCanonical : x.IsCanonical)
    (hEnds : EndsNumber rest) :
    readNumber (x.chars ++ rest) = .ok (.float x, rest) := by
  cases x with
  | nan => cases hCanonical
  | infinite isNegative => cases hCanonical
  | finite isNegative m e =>
      have hKept : Double.IsKept m e := hCanonical
      by_cases hZero : m = 0
      · subst hZero
        obtain rfl : e = Double.minExponent := by
          rcases hKept.full with hFull | hLeast
          · omega
          · exact hLeast
        exact readNumber_zero isNegative hEnds
      · exact readNumber_nonzero hKept
          (Nat.pos_of_ne_zero hZero) isNegative hEnds

end Json

end EventFlow
