import EventFlow.Json.Parser
import Mathlib.Data.List.TakeDrop
import Mathlib.Data.List.TakeWhile

/-
  What a number is in JSON.

  A number is a sign, a whole part, a fraction and an
  exponent, of which all but the whole part may be missing;
  without fraction and exponent it is an integer.  This is a
  relation between characters and a value, without a reader,
  and it does not bound the digits of an integer.

  The reader of numbers is compared with the relation.  It
  finds the number that stands in front, or tells a fault of
  the grammar; the only obstacle is an integer that is too
  long.

  Key definitions include:
    * `Json.AreDigits`
    * `Json.IsWhole`
    * `Json.Tells`
    * `Json.IsNumber`
    * `Json.EndsNumber`

  Key theorems include:
    * `Json.readNumber_tells`
    * `Json.readNumber_integer`
    * `Json.readNumber_decimal`
    * `Json.readNumber_of_isNumber`
-/

------------------------------------------------------------
-- Runs of Digits
------------------------------------------------------------

namespace EventFlow

namespace Json

/- Whether all characters are digits. -/
def AreDigits (cs : List Char) : Prop :=
  ∀ c ∈ cs, isDigit c = true

/- Whether no digit stands in front. -/
def EndsDigits (rest : List Char) : Prop :=
  ∀ c ∈ rest.head?, isDigit c = false

theorem AreDigits.append
    {cs ds : List Char}
    (hLeft : AreDigits cs)
    (hRight : AreDigits ds) :
    AreDigits (cs ++ ds) := by
  intro c hMem
  rcases List.mem_append.mp hMem with hMem | hMem
  · exact hLeft c hMem
  · exact hRight c hMem

/- A run of digits ends where no digit follows. -/
theorem spanDigits_append
    {cs rest : List Char}
    (hDigits : AreDigits cs)
    (hEnd : EndsDigits rest) :
    spanDigits (cs ++ rest) = (cs, rest) := by
  have hNone :
      rest.takeWhile isDigit = [] ∧
        rest.dropWhile isDigit = rest := by
    cases rest with
    | nil => exact ⟨rfl, rfl⟩
    | cons c rest =>
        have hStop : isDigit c = false := hEnd c rfl
        constructor
        · rw [List.takeWhile_cons, hStop]
          rfl
        · rw [List.dropWhile_cons, hStop]
          rfl
  rw [spanDigits, List.span_eq_takeWhile_dropWhile,
    List.takeWhile_append_of_pos hDigits,
    List.dropWhile_append_of_pos hDigits, hNone.1, hNone.2,
    List.append_nil]

variable {ds : List Char}

/- The digits in front of characters. -/
theorem spanDigits_spec (cs : List Char) :
    ∃ ds rest,
      spanDigits cs = (ds, rest) ∧
        cs = ds ++ rest ∧ AreDigits ds ∧ EndsDigits rest := by
  refine ⟨cs.takeWhile isDigit, cs.dropWhile isDigit, ?_, ?_,
    ?_, ?_⟩
  · rw [spanDigits, List.span_eq_takeWhile_dropWhile]
  · exact List.takeWhile_append_dropWhile.symm
  · intro c hMem
    exact List.mem_takeWhile_imp hMem
  · intro c hHead
    have hStop := List.head?_dropWhile_not isDigit cs
    rwa [Option.mem_def.mp hHead] at hStop

/- A digit in front is taken. -/
theorem spanDigits_filled
    (hFilled : ds ≠ [])
    (hDigits : AreDigits ds)
    (rest : List Char) :
    ∃ c run more,
      spanDigits (ds ++ rest) = (c :: run, more) := by
  rcases spanDigits_spec (ds ++ rest) with
    ⟨run, more, hSpan, hChars, -, hEnd⟩
  cases run with
  | cons c run => exact ⟨c, run, more, hSpan⟩
  | nil =>
      cases ds with
      | nil => exact absurd rfl hFilled
      | cons c ds =>
          rw [List.nil_append] at hChars
          have hNone := hEnd c (hChars ▸ rfl)
          rw [hDigits c List.mem_cons_self] at hNone
          cases hNone

end Json

end EventFlow

------------------------------------------------------------
-- Whole Parts
------------------------------------------------------------

namespace EventFlow

namespace Json

/- Whether digits are a whole part: no zero is in front. -/
structure IsWhole (cs : List Char) : Prop where
  digits : AreDigits cs
  filled : cs ≠ []
  first : ∀ rest, cs = '0' :: rest → rest = []

theorem isWhole_zero : IsWhole ['0'] where
  digits := by
    intro c hMem
    rw [List.mem_singleton.mp hMem]
    rfl
  filled := List.cons_ne_nil _ _
  first := by
    intro rest hEq
    exact (List.cons.inj hEq).2.symm

/- A whole part starts with a digit. -/
theorem IsWhole.head
    {cs : List Char}
    (hWhole : IsWhole cs)
    (rest : List Char) :
    ∃ c ∈ (cs ++ rest).head?, isDigit c = true := by
  cases cs with
  | nil => exact absurd rfl hWhole.filled
  | cons c cs =>
      exact ⟨c, rfl, hWhole.digits c List.mem_cons_self⟩

/- A whole part is read up to its end. -/
theorem readWhole_append
    {cs rest : List Char}
    (hWhole : IsWhole cs)
    (hEnd : EndsDigits rest) :
    readWhole? (cs ++ rest) = some (cs, rest) := by
  cases cs with
  | nil => exact absurd rfl hWhole.filled
  | cons c cs =>
      by_cases hZero : c = '0'
      · subst hZero
        rw [hWhole.first cs rfl]
        rfl
      · have hDigit : isDigit c = true :=
          hWhole.digits c List.mem_cons_self
        rw [List.cons_append, readWhole?, if_pos hDigit,
          ← List.cons_append,
          spanDigits_append hWhole.digits hEnd]
        intro hEq
        exact hZero hEq

variable {cs ds rest : List Char}

/- The whole part in front of characters, if there is one. -/
theorem readWhole_spec
    (hRead : readWhole? cs = some (ds, rest)) :
    cs = ds ++ rest ∧
      IsWhole ds ∧ (1 < ds.length → EndsDigits rest) := by
  unfold readWhole? at hRead
  split at hRead
  · cases hRead
    refine ⟨rfl, isWhole_zero, fun hLong => ?_⟩
    exact absurd hLong (by decide)
  · rename_i c more hZero
    split at hRead
    · rename_i hDigit
      rcases spanDigits_spec (c :: more) with
        ⟨run, behind, hSpan, hChars, hDigits, hEnd⟩
      rw [hSpan] at hRead
      cases hRead
      refine ⟨hChars, ⟨hDigits, ?_, ?_⟩, fun _ => hEnd⟩
      · rintro rfl
        rw [List.nil_append] at hChars
        have hNone := hEnd c (hChars ▸ rfl)
        rw [hDigit] at hNone
        cases hNone
      · rintro others rfl
        cases hChars
        exact absurd rfl hZero
    · cases hRead
  · cases hRead

end Json

end EventFlow

------------------------------------------------------------
-- Told Faults
------------------------------------------------------------

namespace EventFlow

namespace Json

variable {α β : Type}

/-
  Whether a reader tells what is found, or a fault.  A fault
  is one of the grammar, or an obstacle is met.
-/
def Tells
    (found : α → List Char → Prop)
    (isMet : Obstacle → Prop) : Reading α → Prop
| .ok (x, rest) => found x rest
| .error stop => ∀ o ∈ stop.reason.obstacle?, isMet o

/- Whether a reader stops at an obstacle. -/
def StopsAt
    (o : Obstacle)
    (r : Reading α) : Prop :=
  ∃ stop, r = .error stop ∧ stop.reason.obstacle? = some o

variable {found : α → List Char → Prop}
variable {isMet : Obstacle → Prop}
variable {r : Reading α}

/- A fault of grammar tells nothing. -/
theorem tells_fault
    {stop : Stop}
    (hKind : stop.reason.obstacle? = none) :
    Tells found isMet (.error stop) := by
  intro o hStop
  rw [hKind] at hStop
  cases hStop

theorem Tells.mono
    {found' : α → List Char → Prop}
    {isMet' : Obstacle → Prop}
    (hTells : Tells found isMet r)
    (hFound : ∀ x rest, found x rest → found' x rest)
    (hMet : ∀ o, isMet o → isMet' o) :
    Tells found' isMet' r := by
  cases r with
  | ok read => exact hFound _ _ hTells
  | error stop =>
      exact fun o hStop => hMet o (hTells o hStop)

/- What is made of a result is told of it. -/
theorem tells_map
    (f : α → β)
    {found : β → List Char → Prop}
    (hTells :
      Tells (fun x rest => found (f x) rest) isMet r) :
    Tells found isMet
      (r.map fun (x, rest) => (f x, rest)) := by
  cases r with
  | ok read => exact hTells
  | error stop => exact hTells

end Json

end EventFlow

------------------------------------------------------------
-- Numbers
------------------------------------------------------------

namespace EventFlow

namespace Json

/- The sign of a number, if it is written. -/
def signChars (isNegative : Bool) : List Char :=
  if isNegative then ['-'] else []

/- A number with its sign. -/
def signed
    (isNegative : Bool)
    (n : Nat) : Int :=
  if isNegative then -(n : Int) else n

/- A fraction with its point, or nothing. -/
inductive IsFraction : List Char → List Char → Prop where
| none : IsFraction [] []
| some
    {ds : List Char}
    (hFilled : ds ≠ [])
    (hDigits : AreDigits ds) :
    IsFraction ('.' :: ds) ds

/- The sign of an exponent, which may be missing. -/
inductive IsExponentSign : List Char → Bool → Prop where
| none : IsExponentSign [] false
| plus : IsExponentSign ['+'] false
| minus : IsExponentSign ['-'] true

/- An exponent with its letter, or nothing. -/
inductive IsExponent : List Char → Option Int → Prop where
| none : IsExponent [] none
| some
    {letter : Char}
    {sign ds : List Char}
    {isNegative : Bool}
    (hLetter : letter = 'e' ∨ letter = 'E')
    (hSign : IsExponentSign sign isNegative)
    (hFilled : ds ≠ [])
    (hDigits : AreDigits ds) :
    IsExponent (letter :: (sign ++ ds))
      (some (signed isNegative (digitsValue ds)))

/-
  A number without fraction and exponent is an integer, and
  any other is the double closest to it.
-/
inductive IsNumber : List Char → Value → Prop where
| integer
    (isNegative : Bool)
    {ds : List Char}
    (hWhole : IsWhole ds) :
    IsNumber (signChars isNegative ++ ds)
      (.int (signed isNegative (digitsValue ds)))
| decimal
    (isNegative : Bool)
    {ds fs es fraction : List Char}
    {exponent? : Option Int}
    (hWhole : IsWhole ds)
    (hFraction : IsFraction fs fraction)
    (hExponent : IsExponent es exponent?)
    (hPart : fraction ≠ [] ∨ exponent? ≠ none) :
    IsNumber (signChars isNegative ++ (ds ++ (fs ++ es)))
      (.float
        (Double.ofDecimal isNegative
          (digitsValue (ds ++ fraction))
          (exponent?.getD 0 - fraction.length)))

/- Whether nothing in front would continue a number. -/
structure EndsNumber (rest : List Char) : Prop where
  digit : EndsDigits rest
  point : rest.head? ≠ some '.'
  lower : rest.head? ≠ some 'e'
  upper : rest.head? ≠ some 'E'

/- Nothing ends a number. -/
theorem endsNumber_nil : EndsNumber [] where
  digit := by simp [EndsDigits]
  point := by simp
  lower := by simp
  upper := by simp

/-
  Whether nothing in front would continue an integer: no
  digit, no fraction and no exponent.
-/
structure EndsInteger (rest : List Char) : Prop where
  digit : EndsDigits rest
  fraction :
    ∀ fs fraction more,
      IsFraction fs fraction →
        rest = fs ++ more → fraction = []
  exponent :
    ∀ es exponent? more,
      IsExponent es exponent? →
        rest = es ++ more → exponent? = none

/- Whether an integer ends here that has too many digits. -/
structure IsOverlong
    (ds rest : List Char) : Prop where
  whole : IsWhole ds
  long : maxDigits < ds.length
  ends : EndsInteger rest

end Json

end EventFlow

------------------------------------------------------------
-- The Parts of a Number
------------------------------------------------------------

namespace EventFlow

namespace Json

variable {cs ds rest : List Char}

/- The fraction in front of characters, if there is one. -/
theorem readFraction_spec (cs : List Char) :
    ∃ fs fraction rest,
      readFraction cs = (fraction, rest) ∧
        cs = fs ++ rest ∧ IsFraction fs fraction := by
  unfold readFraction
  split
  · rename_i more
    rcases spanDigits_spec more with
      ⟨run, behind, hSpan, hChars, hDigits, -⟩
    rw [hSpan]
    cases run with
    | nil => exact ⟨[], [], _, rfl, rfl, .none⟩
    | cons c run =>
        refine ⟨_, _, behind, rfl, ?_,
          .some (List.cons_ne_nil _ _) hDigits⟩
        rw [hChars]
        rfl
  · exact ⟨[], [], _, rfl, rfl, .none⟩

/- The sign behind the letter of an exponent. -/
theorem exists_exponentSign (cs : List Char) :
    ∃ sign isNegative digits,
      cs = sign ++ digits ∧
        IsExponentSign sign isNegative ∧
          (sign = [] →
            ∀ c ∈ digits.head?, c ≠ '-' ∧ c ≠ '+') := by
  cases cs with
  | nil => exact ⟨[], false, [], rfl, .none, nofun⟩
  | cons c cs =>
      by_cases hMinus : c = '-'
      · subst hMinus
        exact ⟨['-'], true, cs, rfl, .minus, nofun⟩
      · by_cases hPlus : c = '+'
        · subst hPlus
          exact ⟨['+'], false, cs, rfl, .plus, nofun⟩
        · refine ⟨[], false, c :: cs, rfl, .none, ?_⟩
          intro _ d hHead
          obtain rfl := Option.some_inj.mp hHead
          exact ⟨hMinus, hPlus⟩

/- The sign in front of characters, and what is behind it. -/
def splitSign : List Char → Bool × List Char
| '-' :: more => (true, more)
| '+' :: more => (false, more)
| more => (false, more)

/- Behind its letter an exponent may have a sign. -/
theorem readExponent_letter
    {letter : Char}
    (hLetter : letter = 'e' ∨ letter = 'E')
    (cs : List Char) :
    readExponent (letter :: cs) =
      match spanDigits (splitSign cs).2 with
      | ([], _) => (none, letter :: cs)
      | (found, more) =>
          (some
            (signed (splitSign cs).1 (digitsValue found)),
            more) := by
  have hHere :
      (decide (letter = 'e') || decide (letter = 'E')) =
        true := by
    rw [Bool.or_eq_true, decide_eq_true_eq, decide_eq_true_eq]
    exact hLetter
  unfold readExponent
  dsimp only
  rw [if_pos hHere]
  rfl

theorem splitSign_append
    {sign digits : List Char}
    {isNegative : Bool}
    (hSign : IsExponentSign sign isNegative)
    (hBare :
      sign = [] → ∀ c ∈ digits.head?, c ≠ '-' ∧ c ≠ '+') :
    splitSign (sign ++ digits) = (isNegative, digits) := by
  cases hSign with
  | minus => rfl
  | plus => rfl
  | none =>
      rw [List.nil_append]
      unfold splitSign
      split
      · exact absurd rfl (hBare rfl '-' rfl).1
      · exact absurd rfl (hBare rfl '+' rfl).2
      · rfl

/- The exponent in front of characters, if there is one. -/
theorem readExponent_spec (cs : List Char) :
    ∃ es exponent? rest,
      readExponent cs = (exponent?, rest) ∧
        cs = es ++ rest ∧ IsExponent es exponent? := by
  have hMissing
      (hNone : readExponent cs = (none, cs)) :
      ∃ es exponent? rest,
        readExponent cs = (exponent?, rest) ∧
          cs = es ++ rest ∧ IsExponent es exponent? :=
    ⟨[], none, cs, hNone, rfl, .none⟩
  cases cs with
  | nil => exact hMissing rfl
  | cons letter cs =>
      by_cases hLetter : letter = 'e' ∨ letter = 'E'
      · rcases exists_exponentSign cs with
          ⟨sign, isNegative, digits, rfl, hSign, hBare⟩
        have hRead := readExponent_letter hLetter
          (sign ++ digits)
        rcases spanDigits_spec digits with
          ⟨run, behind, hSpan, hChars, hDigits, -⟩
        rw [splitSign_append hSign hBare, hSpan] at hRead
        cases run with
        | nil => exact hMissing hRead
        | cons c run =>
            refine ⟨_, _, behind, hRead, ?_,
              .some hLetter hSign (List.cons_ne_nil _ _)
                hDigits⟩
            rw [hChars]
            simp
      · refine hMissing ?_
        unfold readExponent
        dsimp only
        rw [if_neg]
        rwa [Bool.or_eq_true, decide_eq_true_eq,
          decide_eq_true_eq]

/- Digits do not start with a sign. -/
theorem not_sign_of_digits
    (hFilled : ds ≠ [])
    (hDigits : AreDigits ds)
    (rest : List Char) :
    ∀ c ∈ (ds ++ rest).head?, c ≠ '-' ∧ c ≠ '+' := by
  intro c hHead
  cases ds with
  | nil => exact absurd rfl hFilled
  | cons d ds =>
      obtain rfl := Option.some_inj.mp hHead
      have hDigit := hDigits d List.mem_cons_self
      constructor
      all_goals
        rintro rfl
        cases hDigit

/- Behind an integer neither of its two parts is read. -/
theorem EndsInteger.reads
    (hEnds : EndsInteger rest) :
    readFraction rest = ([], rest) ∧
      readExponent rest = (none, rest) := by
  constructor
  · rcases readFraction_spec rest with
      ⟨fs, fraction, more, hRead, hChars, hFraction⟩
    have hNone := hEnds.fraction _ _ _ hFraction hChars
    subst hNone
    cases hFraction with
    | none => rw [hRead, hChars, List.nil_append]
    | some hFilled => exact absurd rfl hFilled
  · rcases readExponent_spec rest with
      ⟨es, exponent?, more, hRead, hChars, hExponent⟩
    have hNone := hEnds.exponent _ _ _ hExponent hChars
    subst hNone
    cases hExponent
    rw [hRead, hChars, List.nil_append]

/- Where neither part is read, an integer ends. -/
theorem endsInteger_of_reads
    (hDigit : EndsDigits rest)
    (hFraction : (readFraction rest).1 = [])
    (hExponent : (readExponent rest).1 = none) :
    EndsInteger rest where
  digit := hDigit
  fraction := by
    rintro fs fraction more hPart rfl
    cases hPart with
    | none => rfl
    | some hFilled hDigits =>
        rcases spanDigits_filled hFilled hDigits more with
          ⟨c, run, behind, hSpan⟩
        rw [List.cons_append, readFraction, hSpan] at hFraction
        cases hFraction
  exponent := by
    rintro es exponent? more hPart rfl
    cases hPart with
    | none => rfl
    | some hLetter hSign hFilled hDigits =>
        rcases spanDigits_filled hFilled hDigits more with
          ⟨c, run, behind, hSpan⟩
        rw [List.cons_append, List.append_assoc,
          readExponent_letter hLetter,
          splitSign_append hSign fun _ =>
            not_sign_of_digits hFilled hDigits more, hSpan]
          at hExponent
        cases hExponent

/- A missing exponent is read as missing. -/
theorem readExponent_of_ends
    {rest : List Char}
    (hEnds : EndsNumber rest) :
    readExponent rest = (none, rest) := by
  cases rest with
  | nil => rfl
  | cons c rest =>
      have hLetter :
          ¬ (decide (c = 'e') || decide (c = 'E')) = true := by
        rw [Bool.or_eq_true, decide_eq_true_eq,
          decide_eq_true_eq]
        rintro (rfl | rfl)
        · exact hEnds.lower rfl
        · exact hEnds.upper rfl
      exact if_neg hLetter

/- Where a number ends, an integer ends. -/
theorem EndsNumber.endsInteger
    (hEnds : EndsNumber rest) :
    EndsInteger rest := by
  refine endsInteger_of_reads hEnds.digit ?_ ?_
  · unfold readFraction
    split
    · exact absurd rfl hEnds.point
    · rfl
  · rw [readExponent_of_ends hEnds]

end Json

end EventFlow

------------------------------------------------------------
-- Reading Numbers
------------------------------------------------------------

namespace EventFlow

namespace Json

/- Digits alone are an integer, unless they are too many. -/
theorem readUnsigned_integer
    (hWhole : IsWhole ds)
    (hEnds : EndsInteger rest)
    (start : List Char)
    (isNegative : Bool) :
    readUnsigned start isNegative (ds ++ rest) =
      if maxDigits < ds.length then
        stopAt (.digits ds.length) start
      else
        .ok (.int (signed isNegative (digitsValue ds)),
          rest) := by
  rw [readUnsigned, readWhole_append hWhole hEnds.digit]
  dsimp only
  rw [hEnds.reads.1]
  dsimp only
  rw [hEnds.reads.2]
  rfl

/- What is read behind a sign is a number, or too long. -/
theorem readUnsigned_tells
    (start : List Char)
    (isNegative : Bool)
    (cs : List Char) :
    Tells
      (fun v rest =>
        ∃ ws,
          cs = ws ++ rest ∧
            IsNumber (signChars isNegative ++ ws) v)
      (fun o =>
        o = .size ∧
          ∃ ds rest, cs = ds ++ rest ∧ IsOverlong ds rest)
      (readUnsigned start isNegative cs) := by
  rw [readUnsigned]
  cases hWhole : readWhole? cs with
  | none => exact tells_fault rfl
  | some found =>
      rcases found with ⟨ds, behind⟩
      rcases readWhole_spec hWhole with
        ⟨rfl, hDigits, hEnd⟩
      rcases readFraction_spec behind with
        ⟨fs, fraction, more, hFraction, rfl, hIsFraction⟩
      rcases readExponent_spec more with
        ⟨es, exponent?, rest, hExponent, rfl, hIsExponent⟩
      dsimp only
      rw [hFraction]
      dsimp only
      rw [hExponent]
      dsimp only
      split
      · rename_i hBare
        rw [Bool.and_eq_true, List.isEmpty_iff,
          Option.isNone_iff_eq_none] at hBare
        rcases hBare with ⟨rfl, rfl⟩
        have hNothing : fs = [] ∧ es = [] := by
          cases hIsExponent
          cases hIsFraction with
          | none => exact ⟨rfl, rfl⟩
          | some hFilled => exact absurd rfl hFilled
        rcases hNothing with ⟨rfl, rfl⟩
        split
        · rename_i hLong
          intro o hStop
          refine ⟨(Option.some_inj.mp hStop).symm, ds, rest,
            rfl, hDigits, hLong, ?_⟩
          refine endsInteger_of_reads (hEnd ?_) ?_ ?_
          · exact Nat.lt_trans (by decide) hLong
          · exact congrArg Prod.fst hFraction
          · exact congrArg Prod.fst hExponent
        · exact ⟨ds, rfl, .integer isNegative hDigits⟩
      · rename_i hPart
        rw [Bool.and_eq_true, List.isEmpty_iff,
          Option.isNone_iff_eq_none, not_and_or] at hPart
        refine ⟨ds ++ (fs ++ es), by simp, ?_⟩
        exact .decimal isNegative hDigits hIsFraction
          hIsExponent hPart

/- Whether a value is written in front of characters. -/
def StartsNumber
    (cs : List Char)
    (v : Value)
    (rest : List Char) : Prop :=
  ∃ ws, cs = ws ++ rest ∧ IsNumber ws v

/- Whether an integer in front has too many digits. -/
def StartsOverlong (cs : List Char) : Prop :=
  ∃ isNegative ds rest,
    cs = signChars isNegative ++ (ds ++ rest) ∧
      IsOverlong ds rest

/- What is read as a number is one, or an integer too long. -/
theorem readNumber_tells (cs : List Char) :
    Tells (StartsNumber cs)
      (fun o => o = .size ∧ StartsOverlong cs)
      (readNumber cs) := by
  unfold readNumber
  split
  · rename_i more
    refine (readUnsigned_tells _ true more).mono ?_ ?_
    · rintro v rest ⟨ws, rfl, hNumber⟩
      exact ⟨'-' :: ws, rfl, hNumber⟩
    · rintro o ⟨hSize, ds, rest, rfl, hLong⟩
      exact ⟨hSize, true, ds, rest, rfl, hLong⟩
  · refine (readUnsigned_tells _ false cs).mono ?_ ?_
    · rintro v rest ⟨ws, rfl, hNumber⟩
      exact ⟨ws, rfl, hNumber⟩
    · rintro o ⟨hSize, ds, rest, rfl, hLong⟩
      exact ⟨hSize, false, ds, rest, rfl, hLong⟩

/- A whole part behind a sign is read as a number. -/
theorem readNumber_of_whole
    (hWhole : IsWhole ds)
    (isNegative : Bool)
    (rest : List Char) :
    ∃ start,
      readNumber (signChars isNegative ++ (ds ++ rest)) =
        readUnsigned start isNegative (ds ++ rest) := by
  cases isNegative with
  | true => exact ⟨_, rfl⟩
  | false =>
      refine ⟨ds ++ rest, ?_⟩
      rcases hWhole.head rest with ⟨c, hHead, hDigit⟩
      change readNumber (ds ++ rest) = _
      unfold readNumber
      split
      · rename_i hMinus
        rw [hMinus] at hHead
        cases hHead
        cases hDigit
      · rfl

/- An integer in front of too many digits is not read. -/
theorem stopsAt_readNumber
    (hLong : StartsOverlong cs) :
    StopsAt .size (readNumber cs) := by
  rcases hLong with ⟨isNegative, ds, rest, rfl, hLong⟩
  rcases readNumber_of_whole hLong.whole isNegative rest with
    ⟨start, hRead⟩
  rw [hRead, readUnsigned_integer hLong.whole hLong.ends,
    if_pos hLong.long]
  exact ⟨_, rfl, rfl⟩

/- An integer of few digits is read up to its end. -/
theorem readNumber_integer
    (hWhole : IsWhole ds)
    (hSize : ds.length ≤ maxDigits)
    (hEnds : EndsNumber rest)
    (isNegative : Bool) :
    readNumber (signChars isNegative ++ (ds ++ rest)) =
      .ok (.int (signed isNegative (digitsValue ds)),
        rest) := by
  rcases readNumber_of_whole hWhole isNegative rest with
    ⟨start, hRead⟩
  rw [hRead, readUnsigned_integer hWhole hEnds.endsInteger,
    if_neg (Nat.not_lt.mpr hSize)]

/- What stands behind a whole part and a fraction. -/
theorem ends_of_isExponent
    {es : List Char}
    {exponent? : Option Int}
    (hExponent : IsExponent es exponent?)
    (hEnds : EndsNumber rest) :
    EndsDigits (es ++ rest) ∧ (es ++ rest).head? ≠ some '.' := by
  cases hExponent with
  | none => exact ⟨hEnds.digit, hEnds.point⟩
  | some hLetter =>
      constructor
      · intro c hHead
        obtain rfl := Option.some_inj.mp hHead
        rcases hLetter with rfl | rfl
        · rfl
        · rfl
      · intro hHead
        obtain rfl := Option.some_inj.mp hHead
        rcases hLetter with hLetter | hLetter
        · cases hLetter
        · cases hLetter

/- What stands behind a whole part. -/
theorem ends_of_isFraction
    {fs fraction : List Char}
    (hFraction : IsFraction fs fraction)
    (hDigit : EndsDigits rest) :
    EndsDigits (fs ++ rest) := by
  cases hFraction with
  | none => exact hDigit
  | some =>
      intro c hHead
      obtain rfl := Option.some_inj.mp hHead
      rfl

/- A fraction is read up to its end. -/
theorem readFraction_of_isFraction
    {fs fraction : List Char}
    (hFraction : IsFraction fs fraction)
    (hDigit : EndsDigits rest)
    (hPoint : rest.head? ≠ some '.') :
    readFraction (fs ++ rest) = (fraction, rest) := by
  cases hFraction with
  | none =>
      rw [List.nil_append]
      unfold readFraction
      split
      · exact absurd rfl hPoint
      · rfl
  | some hFilled hDigits =>
      rw [List.cons_append, readFraction,
        spanDigits_append hDigits hDigit]
      cases fraction with
      | nil => exact absurd rfl hFilled
      | cons c ds => rfl

/- An exponent is read up to its end. -/
theorem readExponent_of_isExponent
    {es : List Char}
    {exponent? : Option Int}
    (hExponent : IsExponent es exponent?)
    (hEnds : EndsNumber rest) :
    readExponent (es ++ rest) = (exponent?, rest) := by
  cases hExponent with
  | none => exact readExponent_of_ends hEnds
  | @some letter sign ds isNegative hLetter hSign hFilled
      hDigits =>
      rw [List.cons_append, List.append_assoc,
        readExponent_letter hLetter,
        splitSign_append hSign fun _ =>
          not_sign_of_digits hFilled hDigits rest,
        spanDigits_append hDigits hEnds.digit]
      cases ds with
      | nil => exact absurd rfl hFilled
      | cons d ds => rfl

/- A number with fraction or exponent is a decimal. -/
theorem readNumber_decimal
    {fs es fraction : List Char}
    {exponent? : Option Int}
    (hWhole : IsWhole ds)
    (hFraction : IsFraction fs fraction)
    (hExponent : IsExponent es exponent?)
    (hPart : fraction ≠ [] ∨ exponent? ≠ none)
    (hEnds : EndsNumber rest)
    (isNegative : Bool) :
    readNumber
        (signChars isNegative ++
          (ds ++ (fs ++ (es ++ rest)))) =
      .ok
        (.float
          (Double.ofDecimal isNegative
            (digitsValue (ds ++ fraction))
            (exponent?.getD 0 - fraction.length)),
          rest) := by
  rcases ends_of_isExponent hExponent hEnds with
    ⟨hDigit, hPoint⟩
  rcases readNumber_of_whole hWhole isNegative
      (fs ++ (es ++ rest)) with ⟨start, hRead⟩
  rw [hRead, readUnsigned, readWhole_append hWhole
    (ends_of_isFraction hFraction hDigit)]
  dsimp only
  rw [readFraction_of_isFraction hFraction hDigit hPoint]
  dsimp only
  rw [readExponent_of_isExponent hExponent hEnds]
  refine if_neg ?_
  rw [Bool.and_eq_true, List.isEmpty_iff,
    Option.isNone_iff_eq_none, not_and_or]
  exact hPart

/- A number is read up to its end, unless it is too long. -/
theorem readNumber_of_isNumber
    {ws : List Char}
    {v : Value}
    (hNumber : IsNumber ws v)
    (hEnds : EndsNumber rest) :
    readNumber (ws ++ rest) = .ok (v, rest) ∨
      StopsAt .size (readNumber (ws ++ rest)) := by
  cases hNumber with
  | @integer isNegative ds hWhole =>
      rw [List.append_assoc]
      by_cases hLong : maxDigits < ds.length
      · refine .inr (stopsAt_readNumber ?_)
        exact ⟨isNegative, ds, rest, rfl, hWhole, hLong,
          hEnds.endsInteger⟩
      · exact .inl (readNumber_integer hWhole
          (Nat.le_of_not_lt hLong) hEnds isNegative)
  | decimal isNegative hWhole hFraction hExponent hPart =>
      left
      simp only [List.append_assoc]
      exact readNumber_decimal hWhole hFraction hExponent
        hPart hEnds isNegative

end Json

end EventFlow
