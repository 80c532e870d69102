import EventFlow.Definition.Store
import EventFlow.Proofs.Encoding
import EventFlow.Proofs.LineEnds

/-
  How tolerantly a file of definitions is read.

  Every file of text is read: the items of a JSON array are
  its entries, and any other text has none.  Two kinds of
  files are not read at all, because they stop the reader
  before it knows whether the text is JSON: bytes that are
  no text, and text that is too large.  Of a text in which
  half of a surrogate pair stands alone nothing is told.

  Key definitions include:
    * `DefinitionStore.Lists`
    * `DefinitionStore.IsListing`

  Key theorems include:
    * `DefinitionStore.isListing_of_isJson`
    * `DefinitionStore.entriesOfText_clear`
    * `DefinitionStore.file_is_read_tolerantly`
-/

------------------------------------------------------------
-- What a Text Lists
------------------------------------------------------------

namespace EventFlow

namespace DefinitionStore

/- What characters list, as entries of a file. -/
inductive Lists (cs : List Char) : Listing → Prop where
| entries
    {vs : List Value}
    (hJson : Json.IsJson cs (.list vs)) :
    Lists cs (.of vs)
| null
    (hJson : Json.IsJson cs .null) :
    Lists cs (.of [])
| other
    {v : Value}
    (hJson : Json.IsJson cs v)
    (hNull : v ≠ .null)
    (hList : ∀ vs, v ≠ .list vs) :
    Lists cs (.empty .notList)
| broken
    (hNone : ∀ v, ¬ Json.IsJson cs v) :
    Lists cs (.empty .notJson)

variable {depth : Nat}
variable {cs : List Char}
variable {listing : Listing}

/- Line ends do not matter to what is listed. -/
theorem lists_unifyLines_iff
    (hSmall : ¬ Json.IsTooLarge depth cs) :
    Lists (Text.unifyLines cs) listing ↔ Lists cs listing := by
  have hSame := Json.isJson_unifyLines_iff hSmall
  constructor
  · intro hLists
    cases hLists with
    | entries hJson => exact .entries ((hSame _).mp hJson)
    | null hJson => exact .null ((hSame _).mp hJson)
    | other hJson hNull hList =>
        exact .other ((hSame _).mp hJson) hNull hList
    | broken hNone =>
        exact .broken fun v hJson =>
          hNone v ((hSame v).mpr hJson)
  · intro hLists
    cases hLists with
    | entries hJson => exact .entries ((hSame _).mpr hJson)
    | null hJson => exact .null ((hSame _).mpr hJson)
    | other hJson hNull hList =>
        exact .other ((hSame _).mpr hJson) hNull hList
    | broken hNone =>
        exact .broken fun v hJson =>
          hNone v ((hSame v).mp hJson)

/- What a value lists. -/
def listingOf : Value → Listing
| .null => .of []
| .list vs => .of vs
| _ => .empty .notList

theorem lists_listingOf
    {v : Value}
    (hJson : Json.IsJson cs v) :
    Lists cs (listingOf v) := by
  cases v with
  | null => exact .null hJson
  | list vs => exact .entries hJson
  | _ => exact .other hJson nofun nofun

/- JSON lists what its value does, and nothing else. -/
theorem eq_listingOf
    {v : Value}
    (hSmall : ¬ Json.IsTooLarge depth cs)
    (hJson : Json.IsJson cs v)
    (hLists : Lists cs listing) :
    listing = listingOf v := by
  cases hLists with
  | entries hOther =>
      rw [Json.isJson_unique hSmall hJson hOther]
      rfl
  | null hOther =>
      rw [Json.isJson_unique hSmall hJson hOther]
      rfl
  | @other w hOther hNull hList =>
      rw [Json.isJson_unique hSmall hJson hOther]
      cases w with
      | null => exact absurd rfl hNull
      | list vs => exact absurd rfl (hList vs)
      | _ => rfl
  | broken hNone => exact absurd hJson (hNone v)

/- Whether something is listed, and nothing else. -/
def IsListing
    (cs : List Char)
    (listing : Listing) : Prop :=
  ∀ other, Lists cs other ↔ other = listing

/- JSON has what its value lists as its only listing. -/
theorem isListing_of_isJson
    {v : Value}
    (hSmall : ¬ Json.IsTooLarge depth cs)
    (hJson : Json.IsJson cs v) :
    IsListing cs (listingOf v) := by
  intro other
  constructor
  · exact eq_listingOf hSmall hJson
  · rintro rfl
    exact lists_listingOf hJson

/- What is no JSON has no other listing than that. -/
theorem isListing_notJson
    (hNone : ∀ v, ¬ Json.IsJson cs v) :
    IsListing cs (.empty .notJson) := by
  intro other
  constructor
  · intro hLists
    cases hLists with
    | entries hJson => exact absurd hJson (hNone _)
    | null hJson => exact absurd hJson (hNone _)
    | other hJson => exact absurd hJson (hNone _)
    | broken => rfl
  · rintro rfl
    exact .broken hNone

/- Line ends do not matter to the only listing either. -/
theorem isListing_unifyLines_iff
    (hSmall : ¬ Json.IsTooLarge depth cs) :
    IsListing (Text.unifyLines cs) listing ↔
      IsListing cs listing :=
  forall_congr' fun _ =>
    iff_congr (lists_unifyLines_iff hSmall) Iff.rfl

end DefinitionStore

end EventFlow

------------------------------------------------------------
-- What a File Is Read As
------------------------------------------------------------

namespace EventFlow

namespace DefinitionStore

variable {files : Files}
variable {path : Path}

section

variable [Surroundings]

/- The value of a text that is JSON is listed. -/
theorem entriesOfText_of_parse
    {s : String}
    {v : Value}
    (hParse : Json.parse Surroundings.nesting s = .ok v) :
    entriesOfText s = .ok (listingOf v) := by
  unfold entriesOfText
  rw [hParse]
  cases v <;> rfl

/- What is too large is the failure of the reader. -/
theorem entriesOfText_large
    {s : String}
    (hLarge :
      Json.IsTooLarge Surroundings.nesting s.toList) :
    ∃ fault,
      entriesOfText s = .error (.unreadable fault) ∧
        fault.reason.obstacle? = some .size := by
  rcases Json.parse_cases Surroundings.nesting s with
    ⟨_, -, -, hNone⟩ | ⟨fault, o, hParse, hKind, -, hSize⟩ |
      ⟨_, -, -, -, hNone⟩
  · exact absurd hLarge (hNone .size)
  · rw [hSize hLarge] at hKind
    refine ⟨fault, ?_, hKind⟩
    unfold entriesOfText
    rw [hParse]
    refine if_neg ?_
    rw [Json.Reason.isGrammar, hKind]
    exact Bool.false_ne_true
  · exact absurd hLarge (hNone .size)

/- A text without obstacles is read as its only listing. -/
theorem entriesOfText_clear
    {s : String}
    (hNone :
      ∀ o, ¬ Json.ComesTo o Surroundings.nesting s.toList) :
    ∃ listing,
      entriesOfText s = .ok listing ∧
        IsListing s.toList listing := by
  rcases Json.parse_cases Surroundings.nesting s with
    ⟨v, hParse, hJson, -⟩ | ⟨_, o, -, -, hComes, -⟩ |
      ⟨fault, hParse, hKind, hNothing, -⟩
  · exact ⟨listingOf v, entriesOfText_of_parse hParse,
      isListing_of_isJson (hNone .size) hJson⟩
  · exact absurd hComes (hNone o)
  · refine ⟨.empty .notJson, ?_, isListing_notJson hNothing⟩
    unfold entriesOfText
    rw [hParse]
    refine if_pos ?_
    rw [Json.Reason.isGrammar, hKind]
    rfl

/- The bytes of a text are read as it with unified lines. -/
theorem entries_encode
    {s : String}
    (hRead : files.read? path = .ok (some (Utf8.encode s))) :
    entries files path =
      entriesOfText
        (String.ofList (Text.unifyLines s.toList)) := by
  unfold entries Files.text?
  rw [hRead]
  dsimp only
  rw [Files.decode_encode]
  rfl

/- Bytes of no text are the failure of the decoder. -/
theorem entries_undecodable
    {bytes : List UInt8}
    (hRead : files.read? path = .ok (some bytes))
    (hNoText : ∀ s, Utf8.encode s ≠ bytes) :
    ∃ fault,
      entries files path = .error (.undecodable fault) := by
  unfold entries Files.text? Files.decode
  rw [hRead]
  dsimp only
  cases hDecode : Utf8.decode bytes with
  | error fault => exact ⟨fault, rfl⟩
  | ok s =>
      exact absurd (Utf8.decode_eq_ok_iff.mp hDecode)
        (hNoText s)

/- Where a file of entries is. -/
def entriesPath : Path :=
  { root := "", parts := ["workflows.json"] }

/- A file of given bytes at that place. -/
def holding (bytes : List UInt8) : Files :=
  [(["workflows.json"], .file bytes)]

/- A list of two entries, the second in a line of its own. -/
def twoLines : List Char :=
  ['[', '1', ',', '\r', '\n', '2', ']']

/-
  A missing file lists nothing, and a file of text that is
  not too large, and has no half of a surrogate pair alone,
  is read as the only listing its characters have: the items
  of an array, or nothing, whatever else it holds.  Bytes of
  no text, and text that is too large, are no listing but a
  failure, each of its own kind.
-/
theorem file_is_read_tolerantly
    {contents : Option (List UInt8)}
    (hRead : files.read? path = .ok contents) :
    (contents = none →
      entries files path = .ok (.of [])) ∧
    (∀ bytes,
      contents = some bytes →
        (∀ s, Utf8.encode s ≠ bytes) →
          ∃ fault,
            entries files path =
              .error (.undecodable fault)) ∧
    ∀ s,
      contents = some (Utf8.encode s) →
        (Json.IsTooLarge Surroundings.nesting s.toList →
          ∃ fault,
            entries files path =
                .error (.unreadable fault) ∧
              fault.reason.obstacle? = some .size) ∧
        (¬ Json.IsTooLarge Surroundings.nesting s.toList →
          ¬ Json.IsUnpaired Surroundings.nesting s.toList →
            ∃ listing,
              entries files path = .ok listing ∧
                IsListing s.toList listing) := by
  refine ⟨?_, ?_, ?_⟩
  · rintro rfl
    unfold entries Files.text?
    rw [hRead]
  · rintro bytes rfl hNoText
    exact entries_undecodable hRead hNoText
  · rintro s rfl
    rw [entries_encode hRead]
    constructor
    · intro hLarge
      apply entriesOfText_large
      rwa [String.toList_ofList,
        Json.isTooLarge_unifyLines_iff]
    · intro hSmall hPaired
      have hNone (o : Json.Obstacle) :
          ¬ Json.ComesTo o Surroundings.nesting s.toList := by
        cases o with
        | size => exact hSmall
        | pairing => exact hPaired
      have hUnified := Json.not_comesTo_unifyLines hNone
      rw [← String.toList_ofList (l := Text.unifyLines _)]
        at hUnified
      rcases entriesOfText_clear hUnified with
        ⟨listing, hEntries, hListing⟩
      rw [String.toList_ofList,
        isListing_unifyLines_iff hSmall] at hListing
      exact ⟨listing, hEntries, hListing⟩

end

open scoped Bare in
/- A line end between two entries is none of them. -/
theorem file_is_read_tolerantly_twoLines :
    let files :=
      holding (Utf8.encode (String.ofList twoLines))
    (∃ bytes, files.read? entriesPath = .ok (some bytes)) ∧
      ¬ Json.IsTooLarge Surroundings.nesting twoLines ∧
      ¬ Json.IsUnpaired Surroundings.nesting twoLines ∧
      entries files entriesPath =
        .ok (.of [.int 1, .int 2]) := by
  intro files
  have hRead :
      files.read? entriesPath =
        .ok (some (Utf8.encode (String.ofList twoLines))) :=
    rfl
  have hFuel : 2 * twoLines.length < 30 := by decide
  have hValue :
      Json.readValue 30 Surroundings.nesting
          (Json.skipGap twoLines) =
        .ok (.list [.int 1, .int 2], []) :=
    rfl
  have hNone := Json.not_comesTo_of_ok hFuel hValue
  have hJson :
      Json.IsJson twoLines (.list [.int 1, .int 2]) :=
    Json.isJson_of_readsWhole ⟨[], hValue, rfl⟩
  have hText := (file_is_read_tolerantly hRead).2.2 _ rfl
  rw [String.toList_ofList] at hText
  rcases hText.2 (hNone .size) (hNone .pairing) with
    ⟨listing, hEntries, hListing⟩
  refine ⟨⟨_, hRead⟩, hNone .size, hNone .pairing, ?_⟩
  rw [hEntries, (hListing _).mp (.entries hJson)]

open scoped Bare in
/- A byte of no text stops the reader, instead of no entries. -/
theorem stray_byte_escapes :
    entries (holding [0x5b, 0xff, 0x5d]) entriesPath =
      .error (.undecodable
        { position := 1
          width := 1
          byte := 0xff
          reason := .invalidStart }) :=
  rfl

end DefinitionStore

end EventFlow
