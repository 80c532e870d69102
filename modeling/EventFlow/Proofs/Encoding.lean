import EventFlow.Files.Text

/-
  Texts survive being stored as bytes.

  What a text is encoded as is decoded to the same text,
  character by character: the first byte of a character
  tells how many bytes follow it, and these bytes carry its
  number.  Bytes that are decoded at all are what the text
  is encoded as, so that no text has two forms.  Only line
  ends are unified when a file is read.

  Key definitions include:
    * `Utf8.IsRead`

  Key theorems include:
    * `Utf8.readChar_encode`
    * `Utf8.decode_encode`
    * `Files.decode_encode`
    * `Utf8.isRead_of_readChar`
    * `Utf8.decode_eq_ok_iff`
-/

------------------------------------------------------------
-- Bytes
------------------------------------------------------------

namespace EventFlow

namespace Utf8

/- The bytes of an array, from an index on. -/
theorem toList_loop
    (bytes : ByteArray)
    (i : Nat)
    (read : List UInt8) :
    ByteArray.toList.loop bytes i read =
      read.reverse ++ bytes.data.toList.drop i := by
  generalize hLeft : bytes.size - i = left
  induction left generalizing i read with
  | zero =>
      have hEnd : bytes.data.toList.drop i = [] := by
        apply List.drop_eq_nil_of_le
        rw [Array.length_toList]
        exact Nat.le_of_sub_eq_zero hLeft
      rw [ByteArray.toList.loop, if_neg (by omega), hEnd,
        List.append_nil]
  | succ left ih =>
      have hMore : i < bytes.size := by omega
      have hByte : i < bytes.data.toList.length := hMore
      have hGet : bytes.get! i = bytes.data.toList[i] := by
        change bytes.data[i]! = _
        rw [getElem!_pos bytes.data i hMore]
        rfl
      rw [ByteArray.toList.loop, if_pos hMore,
        ih (i + 1) _ (by omega), List.reverse_cons,
        List.append_assoc, hGet,
        List.drop_eq_getElem_cons hByte]
      rfl

/- A text is encoded character by character. -/
theorem encode_eq (s : String) :
    encode s = s.toList.flatMap String.utf8EncodeChar := by
  have hBytes :
      s.toUTF8 =
        (s.toList.flatMap
          String.utf8EncodeChar).toByteArray :=
    String.utf8Encode_toList.symm
  rw [encode, ByteArray.toList, toList_loop, hBytes,
    List.toList_data_toByteArray]
  rfl

end Utf8

end EventFlow

------------------------------------------------------------
-- Characters
------------------------------------------------------------

namespace EventFlow

namespace Utf8

/- A number below 256 is kept by a byte. -/
theorem toNat_byte
    {n : Nat}
    (hByte : n < 256) :
    (UInt8.ofNat n).toNat = n :=
  UInt8.toNat_ofNat_of_lt hByte

/- When a byte continues a character. -/
theorem isContinuation_iff (b : UInt8) :
    isContinuation b = true ↔
      128 ≤ b.toNat ∧ b.toNat < 192 := by
  simp [isContinuation, UInt8.le_iff_toNat_le,
    UInt8.lt_iff_toNat_lt]

/- When a second byte may follow a first one. -/
theorem mayFollow_iff (first second : UInt8) :
    mayFollow first second = true ↔
      (128 ≤ second.toNat ∧ second.toNat < 192) ∧
      (first.toNat = 224 → 160 ≤ second.toNat) ∧
      (first.toNat = 237 → second.toNat < 160) ∧
      (first.toNat = 240 → 144 ≤ second.toNat) ∧
      (first.toNat = 244 → second.toNat < 144) := by
  rw [mayFollow, Bool.and_eq_true, isContinuation_iff]
  refine and_congr_right fun hSecond => ?_
  simp only [beq_iff_eq, ← UInt8.toNat_inj,
    UInt8.reduceToNat]
  split
  · simp [UInt8.le_iff_toNat_le, *]
  · split
    · simp [UInt8.lt_iff_toNat_lt, *]
    · split
      · simp [UInt8.le_iff_toNat_le, *]
      · split
        · simp [UInt8.lt_iff_toNat_lt, *]
        · simp [*]

/- How many bytes a character has is told by the first one. -/
theorem readChar_eq
    (first : UInt8)
    (rest : List UInt8) :
    readChar first rest =
      if first.toNat < 128 then
        .char (Char.ofNat first.toNat) 1
      else if first.toNat < 194 then
        .broken 1 .invalidStart
      else if first.toNat < 224 then
        readTwo first rest
      else if first.toNat < 240 then
        readThree first rest
      else if first.toNat < 245 then
        readFour first rest
      else
        .broken 1 .invalidStart := by
  simp only [readChar, UInt8.lt_iff_toNat_lt,
    UInt8.reduceToNat]

section Characters

variable {c : Char}
variable {n : Nat}
variable (hNumber : c.val.toNat = n)

include hNumber

/- The character of a number. -/
theorem ofNat_eq : Char.ofNat n = c := by
  rw [← hNumber]
  exact Char.ofNat_toNat c

/- A character of one byte is read back. -/
theorem readChar_one
    (hSize : n ≤ 127)
    (rest : List UInt8) :
    readChar (UInt8.ofNat n) rest = .char c 1 := by
  have hFirst := toNat_byte (n := n) (by omega)
  rw [readChar_eq, hFirst, if_pos (by omega),
    ofNat_eq hNumber]

/- A character of two bytes is read back. -/
theorem readChar_two
    (hLow : 127 < n)
    (hHigh : n ≤ 2047)
    (rest : List UInt8) :
    readChar (UInt8.ofNat (n / 64 % 32 + 192))
        (UInt8.ofNat (n % 64 + 128) :: rest) =
      .char c 2 := by
  have hFirst :=
    toNat_byte (n := n / 64 % 32 + 192) (by omega)
  have hSecond := toNat_byte (n := n % 64 + 128) (by omega)
  generalize UInt8.ofNat (n / 64 % 32 + 192) = first
    at hFirst ⊢
  generalize UInt8.ofNat (n % 64 + 128) = second
    at hSecond ⊢
  have hFollows : mayFollow first second := by
    rw [mayFollow_iff]
    omega
  have hSum :
      first.toNat % 32 * 64 + payload second = n := by
    unfold payload
    omega
  rw [readChar_eq, if_neg (by omega), if_neg (by omega),
    if_pos (by omega), readTwo, if_pos hFollows, hSum,
    ofNat_eq hNumber]

/- A character of three bytes is read back. -/
theorem readChar_three
    (hLow : 2047 < n)
    (hHigh : n ≤ 65535)
    (rest : List UInt8) :
    readChar (UInt8.ofNat (n / 4096 % 16 + 224))
        (UInt8.ofNat (n / 64 % 64 + 128) ::
          UInt8.ofNat (n % 64 + 128) :: rest) =
      .char c 3 := by
  have hFirst :=
    toNat_byte (n := n / 4096 % 16 + 224) (by omega)
  have hSecond :=
    toNat_byte (n := n / 64 % 64 + 128) (by omega)
  have hThird := toNat_byte (n := n % 64 + 128) (by omega)
  generalize UInt8.ofNat (n / 4096 % 16 + 224) = first
    at hFirst ⊢
  generalize UInt8.ofNat (n / 64 % 64 + 128) = second
    at hSecond ⊢
  generalize UInt8.ofNat (n % 64 + 128) = third
    at hThird ⊢
  -- No character has the number of a surrogate.
  have hValid : n < 55296 ∨ 57343 < n := by
    rcases c.valid with hBelow | hAbove
    · left
      omega
    · right
      omega
  have hFollows : mayFollow first second := by
    rw [mayFollow_iff]
    omega
  have hEnds : isContinuation third := by
    rw [isContinuation_iff]
    omega
  have hSum :
      first.toNat % 16 * 4096 + payload second * 64 +
        payload third = n := by
    unfold payload
    omega
  rw [readChar_eq, if_neg (by omega), if_neg (by omega),
    if_neg (by omega), if_pos (by omega), readThree,
    if_pos hFollows, if_pos hEnds, hSum, ofNat_eq hNumber]

/- A character of four bytes is read back. -/
theorem readChar_four
    (hLow : 65535 < n)
    (rest : List UInt8) :
    readChar (UInt8.ofNat (n / 262144 % 8 + 240))
        (UInt8.ofNat (n / 4096 % 64 + 128) ::
          UInt8.ofNat (n / 64 % 64 + 128) ::
            UInt8.ofNat (n % 64 + 128) :: rest) =
      .char c 4 := by
  have hFirst :=
    toNat_byte (n := n / 262144 % 8 + 240) (by omega)
  have hSecond :=
    toNat_byte (n := n / 4096 % 64 + 128) (by omega)
  have hThird :=
    toNat_byte (n := n / 64 % 64 + 128) (by omega)
  have hFourth := toNat_byte (n := n % 64 + 128) (by omega)
  generalize UInt8.ofNat (n / 262144 % 8 + 240) = first
    at hFirst ⊢
  generalize UInt8.ofNat (n / 4096 % 64 + 128) = second
    at hSecond ⊢
  generalize UInt8.ofNat (n / 64 % 64 + 128) = third
    at hThird ⊢
  generalize UInt8.ofNat (n % 64 + 128) = fourth
    at hFourth ⊢
  have hHigh : n < 1114112 := by
    rcases c.valid with hBelow | hAbove
    · omega
    · omega
  have hFollows : mayFollow first second := by
    rw [mayFollow_iff]
    omega
  have hGoesOn : isContinuation third := by
    rw [isContinuation_iff]
    omega
  have hEnds : isContinuation fourth := by
    rw [isContinuation_iff]
    omega
  have hSum :
      first.toNat % 8 * 262144 + payload second * 4096 +
        payload third * 64 + payload fourth = n := by
    unfold payload
    omega
  rw [readChar_eq, if_neg (by omega), if_neg (by omega),
    if_neg (by omega), if_neg (by omega), if_pos (by omega),
    readFour, if_pos hFollows, if_pos hGoesOn,
    if_pos hEnds, hSum, ofNat_eq hNumber]

end Characters

/- The bytes of a character, by its number. -/
theorem encodeChar_eq
    {c : Char}
    {n : Nat}
    (hNumber : c.val.toNat = n) :
    String.utf8EncodeChar c =
      if n ≤ 127 then
        [UInt8.ofNat n]
      else if n ≤ 2047 then
        [ UInt8.ofNat (n / 64 % 32 + 192),
          UInt8.ofNat (n % 64 + 128) ]
      else if n ≤ 65535 then
        [ UInt8.ofNat (n / 4096 % 16 + 224),
          UInt8.ofNat (n / 64 % 64 + 128),
          UInt8.ofNat (n % 64 + 128) ]
      else
        [ UInt8.ofNat (n / 262144 % 8 + 240),
          UInt8.ofNat (n / 4096 % 64 + 128),
          UInt8.ofNat (n / 64 % 64 + 128),
          UInt8.ofNat (n % 64 + 128) ] := by
  subst hNumber
  rfl

/-
  The bytes of a character are read back, whatever follows
  them.
-/
theorem readChar_encode (c : Char) :
    ∃ first behind,
      String.utf8EncodeChar c = first :: behind ∧
        ∀ rest,
          readChar first (behind ++ rest) =
            .char c (behind.length + 1) := by
  generalize hNumber : c.val.toNat = n
  rw [encodeChar_eq hNumber]
  by_cases hOne : n ≤ 127
  · rw [if_pos hOne]
    exact ⟨_, _, rfl, readChar_one hNumber hOne⟩
  · rw [if_neg hOne]
    by_cases hTwo : n ≤ 2047
    · rw [if_pos hTwo]
      exact ⟨_, _, rfl,
        readChar_two hNumber (by omega) hTwo⟩
    · rw [if_neg hTwo]
      by_cases hThree : n ≤ 65535
      · rw [if_pos hThree]
        exact ⟨_, _, rfl,
          readChar_three hNumber (by omega) hThree⟩
      · rw [if_neg hThree]
        exact ⟨_, _, rfl,
          readChar_four hNumber (by omega)⟩

end Utf8

end EventFlow

------------------------------------------------------------
-- Texts
------------------------------------------------------------

namespace EventFlow

namespace Utf8

/- Bytes that belong to a character are passed over. -/
theorem decodeFrom_skip
    (passed rest : List UInt8)
    (position : Nat) :
    decodeFrom position passed.length (passed ++ rest) =
      decodeFrom (position + passed.length) 0 rest := by
  induction passed generalizing position with
  | nil => rfl
  | cons byte passed ih =>
      rw [List.cons_append, List.length_cons, decodeFrom, ih,
        Nat.add_assoc, Nat.add_comm 1]

/- The bytes of characters are read back. -/
theorem decodeFrom_encode
    (cs : List Char)
    (position : Nat) :
    decodeFrom position 0
        (cs.flatMap String.utf8EncodeChar) = .ok cs := by
  induction cs generalizing position with
  | nil => rfl
  | cons c cs ih =>
      rcases readChar_encode c with
        ⟨first, behind, hBytes, hRead⟩
      rw [List.flatMap_cons, hBytes, List.cons_append,
        decodeFrom, hRead]
      dsimp only
      rw [Nat.add_sub_cancel, decodeFrom_skip, ih]
      rfl

/- A text is decoded from what it is encoded as. -/
theorem decode_encode (s : String) :
    decode (encode s) = .ok s := by
  rw [decode, encode_eq, decodeFrom_encode]
  exact congrArg Except.ok String.ofList_toList

end Utf8

namespace Files

/- A file keeps a text, apart from its line ends. -/
theorem decode_encode (s : String) :
    decode (Utf8.encode s) =
      .ok (String.ofList (Text.unifyLines s.toList)) := by
  rw [decode, Utf8.decode_encode]

end Files

end EventFlow

------------------------------------------------------------
-- Decoded Bytes
------------------------------------------------------------

namespace EventFlow

namespace Utf8

/- The number of a character that is made of one. -/
theorem toNat_ofNat
    {n : Nat}
    (hValid : n.isValidChar) :
    (Char.ofNat n).val.toNat = n := by
  unfold Char.ofNat
  rw [dif_pos hValid]
  rfl

/- A byte is the one of its number. -/
theorem byte_eq
    (byte : UInt8)
    {n : Nat}
    (hNumber : n = byte.toNat) :
    UInt8.ofNat n = byte := by
  rw [hNumber, UInt8.ofNat_toNat]

/-
  Whether a character was read from a byte and the bytes
  behind it.
-/
def IsRead
    (first : UInt8)
    (rest : List UInt8)
    (c : Char)
    (width : Nat) : Prop :=
  ∃ behind more,
    rest = behind ++ more ∧
      width = behind.length + 1 ∧
        String.utf8EncodeChar c = first :: behind

variable {first : UInt8}
variable {rest : List UInt8}
variable {c : Char}
variable {width : Nat}

theorem isRead_of_readTwo
    (hLow : 194 ≤ first.toNat)
    (hHigh : first.toNat < 224)
    (hRead : readTwo first rest = .char c width) :
    IsRead first rest c width := by
  unfold readTwo at hRead
  split at hRead
  · cases hRead
  · rename_i second more
    split at hRead
    · rename_i hFollows
      rw [mayFollow_iff] at hFollows
      cases hRead
      refine ⟨[second], more, rfl, rfl, ?_⟩
      have hNumber :
          (Char.ofNat
            (first.toNat % 32 * 64 +
              payload second)).val.toNat =
            first.toNat % 32 * 64 + payload second := by
        refine toNat_ofNat (.inl ?_)
        unfold payload
        omega
      rw [encodeChar_eq hNumber]
      unfold payload
      rw [if_neg (by omega), if_pos (by omega),
        byte_eq first (by omega),
        byte_eq second (by omega)]
    · cases hRead

theorem isRead_of_readThree
    (hLow : 224 ≤ first.toNat)
    (hHigh : first.toNat < 240)
    (hRead : readThree first rest = .char c width) :
    IsRead first rest c width := by
  unfold readThree at hRead
  split at hRead
  · cases hRead
  rename_i second more
  split at hRead
  · rename_i hFollows
    rw [mayFollow_iff] at hFollows
    split at hRead
    · cases hRead
    rename_i third more
    split at hRead
    · rename_i hThird
      rw [isContinuation_iff] at hThird
      cases hRead
      refine ⟨[second, third], more, rfl, rfl, ?_⟩
      have hNumber := toNat_ofNat
        (n := first.toNat % 16 * 4096 +
          payload second * 64 + payload third)
        (by
          unfold Nat.isValidChar payload
          omega)
      rw [encodeChar_eq hNumber]
      unfold payload
      rw [if_neg (by omega), if_neg (by omega),
        if_pos (by omega),
        byte_eq first (by omega),
        byte_eq second (by omega),
        byte_eq third (by omega)]
    · cases hRead
  · cases hRead

theorem isRead_of_readFour
    (hLow : 240 ≤ first.toNat)
    (hHigh : first.toNat < 245)
    (hRead : readFour first rest = .char c width) :
    IsRead first rest c width := by
  unfold readFour at hRead
  split at hRead
  · cases hRead
  rename_i second more
  split at hRead
  · rename_i hFollows
    rw [mayFollow_iff] at hFollows
    split at hRead
    · cases hRead
    rename_i third more
    split at hRead
    · rename_i hThird
      rw [isContinuation_iff] at hThird
      split at hRead
      · cases hRead
      rename_i fourth more
      split at hRead
      · rename_i hFourth
        rw [isContinuation_iff] at hFourth
        cases hRead
        refine ⟨[second, third, fourth], more, rfl, rfl, ?_⟩
        have hNumber := toNat_ofNat
          (n := first.toNat % 8 * 262144 +
            payload second * 4096 + payload third * 64 +
              payload fourth)
          (by
            unfold Nat.isValidChar payload
            omega)
        rw [encodeChar_eq hNumber]
        unfold payload
        rw [if_neg (by omega), if_neg (by omega),
          if_neg (by omega), byte_eq first (by omega),
          byte_eq second (by omega),
          byte_eq third (by omega),
          byte_eq fourth (by omega)]
      · cases hRead
    · cases hRead
  · cases hRead

/- A character that is read has the bytes it is read from. -/
theorem isRead_of_readChar
    (hRead : readChar first rest = .char c width) :
    IsRead first rest c width := by
  rw [readChar_eq] at hRead
  split at hRead
  · rename_i hOne
    cases hRead
    refine ⟨[], rest, rfl, rfl, ?_⟩
    have hNumber := toNat_ofNat (n := first.toNat)
      (.inl (by omega))
    rw [encodeChar_eq hNumber, if_pos (by omega),
      byte_eq first rfl]
  split at hRead
  · cases hRead
  split at hRead
  · exact isRead_of_readTwo (by omega) ‹_› hRead
  split at hRead
  · exact isRead_of_readThree (by omega) ‹_› hRead
  split at hRead
  · exact isRead_of_readFour (by omega) ‹_› hRead
  · cases hRead

/- Characters that are read have the bytes they are read from. -/
theorem encode_of_decodeFrom
    {bytes : List UInt8}
    {cs : List Char}
    {position : Nat}
    (hRead : decodeFrom position 0 bytes = .ok cs) :
    cs.flatMap String.utf8EncodeChar = bytes := by
  generalize hLength : bytes.length = n
  induction n using Nat.strongRecOn generalizing bytes cs
    position with
  | ind n ih =>
      cases bytes with
      | nil =>
          cases hRead
          rfl
      | cons first rest =>
          rw [decodeFrom] at hRead
          cases hChar : readChar first rest with
          | broken width reason =>
              rw [hChar] at hRead
              cases hRead
          | char c width =>
              rw [hChar] at hRead
              rcases isRead_of_readChar hChar with
                ⟨behind, more, rfl, rfl, hBytes⟩
              dsimp only at hRead
              rw [Nat.add_sub_cancel, decodeFrom_skip] at hRead
              cases hMore :
                  decodeFrom (position + 1 + behind.length) 0
                    more with
              | error fault =>
                  rw [hMore] at hRead
                  cases hRead
              | ok ds =>
                  rw [hMore] at hRead
                  cases hRead
                  rw [List.flatMap_cons, hBytes,
                    ih more.length ?_ hMore rfl]
                  · rfl
                  · rw [← hLength, List.length_cons,
                      List.length_append]
                    omega

/- A text that is decoded has the bytes it is decoded from. -/
theorem encode_of_decode
    {bytes : List UInt8}
    {s : String}
    (hRead : decode bytes = .ok s) :
    encode s = bytes := by
  unfold decode at hRead
  cases hChars : decodeFrom 0 0 bytes with
  | error fault =>
      rw [hChars] at hRead
      cases hRead
  | ok cs =>
      rw [hChars] at hRead
      cases hRead
      rw [encode_eq, String.toList_ofList]
      exact encode_of_decodeFrom hChars

/- Bytes are decoded exactly to the text they encode. -/
theorem decode_eq_ok_iff
    {bytes : List UInt8}
    {s : String} :
    decode bytes = .ok s ↔ encode s = bytes := by
  constructor
  · exact encode_of_decode
  · rintro rfl
    exact decode_encode s

end Utf8

end EventFlow
