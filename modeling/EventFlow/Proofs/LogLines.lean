import EventFlow.Log.Draft
import EventFlow.Proofs.DefinitionRoundTrip
import EventFlow.Proofs.LineEnds
import EventFlow.Proofs.Registries

/-
  Written records.

  A record is written in a line of its own, whatever its
  message and its fields hold.  The line is JSON for one
  value only: an object with the level, the channel and the
  message of the record, in which every field that is to be
  written has its place, and only there.

  Key definitions include:
    * `Log.Record.topNames`
    * `Log.Record.IsToldBy`

  Key theorems include:
    * `Json.isJson_render_iff`
    * `Json.lineEnd_not_mem_render`
    * `Log.Record.isToldBy_topFields`
    * `Log.Record.render_is_lossless`
    * `Log.Draft.render_of_text`
-/

------------------------------------------------------------
-- What Is Written Stands for One Value
------------------------------------------------------------

namespace EventFlow

namespace Json

variable {l : Layout}
variable {v w : Value}

/- A written portable value is JSON for it. -/
theorem isJson_render
    (hSpaced : l.IsSpaced)
    (hPortable : v.IsPortable) :
    IsJson (renderChars l 0 v) v := by
  have hRead :=
    readsBack hSpaced v hPortable 0 v.depth
      (renderChars l 0 v).length [] le_rfl le_rfl
      endsNumber_nil
  have hTells :=
    (tells_all (renderChars l 0 v).length).1 v.depth
      (renderChars l 0 v ++ [])
  rw [hRead] at hTells
  rcases hTells with ⟨ws, hSplit, hValue⟩
  rw [List.append_nil, List.append_nil] at hSplit
  rw [hSplit]
  exact ⟨[], ws, [], by simp, List.forall_mem_nil _, hValue,
    List.forall_mem_nil _⟩

/-
  It is JSON for no other value.  What would be JSON for
  another is read with the depth of the value, too, and no
  reader finds two.
-/
theorem isJson_render_iff
    (hSpaced : l.IsSpaced)
    (hPortable : v.IsPortable) :
    IsJson (renderChars l 0 v) w ↔ w = v := by
  constructor
  · rintro ⟨before, ws, behind, hSplit, hBefore, hValue,
      hBehind⟩
    have hEnds : EndsNumber behind := by
      refine endsNumber_of_head fun c hHead => .inl ?_
      exact hBehind c (List.mem_of_mem_head? hHead)
    have hRead :=
      readsBack hSpaced v hPortable 0 v.depth
        (2 * (renderChars l 0 v).length + 1) [] le_rfl
        (by omega) endsNumber_nil
    rw [List.append_nil] at hRead
    -- Nothing stands in front of the value.
    have hStart := (isStart_of_readValue hRead).skipGap
    rw [hSplit, skipGap_append hBefore,
      (hValue.isStart.append behind).skipGap, ← hSplit]
      at hStart
    have hSize := congrArg List.length hStart
    rw [List.length_append] at hSize
    have hYields :=
      (reads_all (2 * (renderChars l 0 v).length + 1)).1
        v.depth ws w behind hValue hEnds (by omega)
    rw [hStart, hRead] at hYields
    rcases hYields with hSame | ⟨stop, hStop, -⟩
    · cases hSame
      rfl
    · cases hStop
  · rintro rfl
    exact isJson_render hSpaced hPortable

end Json

end EventFlow

------------------------------------------------------------
-- One Line
------------------------------------------------------------

namespace EventFlow

namespace Json

variable {c : Char}
variable {ws : List Char}
variable {v : Value}

/- A line end is no part of a number. -/
theorem IsNumber.not_mem
    (hNumber : IsNumber ws v)
    (hEnd : c = '\r' ∨ c = '\n') :
    c ∉ ws := by
  have hOther :
      c ≠ '-' ∧ c ≠ '+' ∧ c ≠ '.' ∧ c ≠ 'e' ∧ c ≠ 'E' := by
    rcases hEnd with rfl | rfl
    all_goals decide
  rcases hOther with ⟨hMinus, hPlus, hPoint, hLower, hUpper⟩
  have hSign (isNegative : Bool) :
      c ∉ signChars isNegative := by
    cases isNegative <;> simp [signChars, hMinus]
  cases hNumber with
  | integer isNegative hWhole =>
      rw [List.mem_append, not_or]
      exact ⟨hSign isNegative, hWhole.digits.not_mem hEnd⟩
  | decimal isNegative hWhole hFraction hExponent hPart =>
      simp only [List.mem_append, not_or]
      refine ⟨hSign isNegative, hWhole.digits.not_mem hEnd,
        ?_, ?_⟩
      · cases hFraction with
        | none => exact List.not_mem_nil
        | some hFilled hDigits =>
            simp [hPoint, hDigits.not_mem hEnd]
      · cases hExponent with
        | none => exact List.not_mem_nil
        | some hLetter hSign' hFilled hDigits =>
            simp only [List.mem_cons, List.mem_append, not_or]
            refine ⟨?_, ?_, hDigits.not_mem hEnd⟩
            · rcases hLetter with rfl | rfl
              · exact hLower
              · exact hUpper
            · cases hSign' <;> simp [hMinus, hPlus]

/- A line end is no part of a written number. -/
theorem not_mem_of_readNumber
    (hRead : readNumber (ws ++ []) = .ok (v, []))
    (hEnd : c = '\r' ∨ c = '\n') :
    c ∉ ws := by
  have hTells := readNumber_tells (ws ++ [])
  rw [hRead] at hTells
  rcases hTells with ⟨ws', hSplit, hNumber⟩
  rw [List.append_nil, List.append_nil] at hSplit
  rw [hSplit]
  exact hNumber.not_mem hEnd

theorem not_mem_quoted
    (cs : List Char)
    (hEnd : c = '\r' ∨ c = '\n') :
    c ∉ quotedChars cs := by
  have hMark : c ≠ '"' := by
    rcases hEnd with rfl | rfl
    all_goals decide
  unfold quotedChars
  simp only [List.mem_cons, List.mem_append, List.not_mem_nil,
    or_false, not_or]
  exact ⟨hMark, (isText_quoted cs).not_mem hEnd, hMark⟩

section Layouts

variable {l : Layout}
variable (hComma : c ∉ l.comma)
variable (hGap : ∀ depth, c ∉ l.gap depth)
include hComma hGap

mutual

/-
  A line end that is not part of the layout is no part of
  what is written.
-/
theorem lineEnd_not_mem
    (hEnd : c = '\r' ∨ c = '\n')
    (depth : Nat) :
    (v : Value) → v.IsPortable → c ∉ renderChars l depth v
| .null, _ => by
    change c ∉ "null".toList
    rcases hEnd with rfl | rfl
    all_goals decide
| .bool true, _ => by
    change c ∉ "true".toList
    rcases hEnd with rfl | rfl
    all_goals decide
| .bool false, _ => by
    change c ∉ "false".toList
    rcases hEnd with rfl | rfl
    all_goals decide
| .int n, hShort =>
    not_mem_of_readNumber
      (readNumber_int hShort endsNumber_nil) hEnd
| .float x, hCanonical => by
    have hChars : renderChars l depth (.float x) = x.chars := by
      cases x with
      | nan => cases hCanonical
      | infinite isNegative => cases hCanonical
      | finite isNegative m e => rfl
    rw [hChars]
    exact not_mem_of_readNumber
      (readNumber_double hCanonical endsNumber_nil) hEnd
| .str s, _ => not_mem_quoted s.toList hEnd
| .list [], _ => by
    change c ∉ ['[', ']']
    rcases hEnd with rfl | rfl
    all_goals decide
| .list (v :: vs), ⟨hFirst, hMore⟩ => by
    have hMarks : c ≠ '[' ∧ c ≠ ']' := by
      rcases hEnd with rfl | rfl
      all_goals decide
    rw [renderChars]
    simp [hGap, hMarks,
      lineEnd_not_mem hEnd (depth + 1) v hFirst,
      lineEnd_not_mem_items hEnd (depth + 1) vs hMore]
| .object [], _ => by
    change c ∉ ['\x7b', '\x7d']
    rcases hEnd with rfl | rfl
    all_goals decide
| .object ((key, v) :: fs), ⟨_, hFirst, hMore⟩ => by
    have hMarks :
        c ≠ '\x7b' ∧ c ≠ '\x7d' ∧ c ≠ ':' ∧ c ≠ ' ' := by
      rcases hEnd with rfl | rfl
      all_goals decide
    rw [renderChars]
    simp [hGap, hMarks, not_mem_quoted key.toList hEnd,
      lineEnd_not_mem hEnd (depth + 1) v hFirst,
      lineEnd_not_mem_fields hEnd (depth + 1) fs hMore]

theorem lineEnd_not_mem_items
    (hEnd : c = '\r' ∨ c = '\n')
    (depth : Nat) :
    (vs : List Value) →
      Value.ArePortable vs → c ∉ renderItems l depth vs
| [], _ => List.not_mem_nil
| v :: vs, ⟨hFirst, hMore⟩ => by
    rw [renderItems]
    simp [hComma, hGap, lineEnd_not_mem hEnd depth v hFirst,
      lineEnd_not_mem_items hEnd depth vs hMore]

theorem lineEnd_not_mem_fields
    (hEnd : c = '\r' ∨ c = '\n')
    (depth : Nat) :
    (fs : List (String × Value)) →
      Value.FieldsArePortable fs →
        c ∉ renderFields l depth fs
| [], _ => List.not_mem_nil
| (key, v) :: fs, ⟨hFirst, hMore⟩ => by
    have hMarks : c ≠ ':' ∧ c ≠ ' ' := by
      rcases hEnd with rfl | rfl
      all_goals decide
    rw [renderFields]
    simp [hComma, hGap, hMarks,
      not_mem_quoted key.toList hEnd,
      lineEnd_not_mem hEnd depth v hFirst,
      lineEnd_not_mem_fields hEnd depth fs hMore]

end

end Layouts

/- What is written in a line has no line end. -/
theorem lineEnd_not_mem_render
    (hPortable : v.IsPortable)
    (hEnd : c = '\r' ∨ c = '\n') :
    c ∉ (render v).toList := by
  have hComma : c ∉ inLine.comma := by
    rcases hEnd with rfl | rfl
    all_goals decide
  rw [render, String.toList_ofList]
  exact lineEnd_not_mem hComma (fun _ => List.not_mem_nil)
    hEnd 0 v hPortable

end Json

end EventFlow

------------------------------------------------------------
-- Places of Fields
------------------------------------------------------------

namespace EventFlow

namespace Log

namespace Record

/- The fields of a written record. -/
def topFields
    (r : Record)
    (time : String) : List (String × Value) :=
  match r.toValue time with
  | .object fields => fields
  | _ => []

/- The names that these fields can have. -/
def topNames : List String := [
  "timestamp",
  "level",
  "logger",
  "message",
  "trace",
  "context",
  "extra",
  "exception"
]

/-
  Whether a field of a record is written among the others:
  not if its name is reserved or begins with an underscore,
  and not if it is the context of a record of the trace.
-/
def IsOther
    (r : Record)
    (name : String) : Prop :=
  name ∉ reservedNames ∧
    name.toList.head? ≠ some '_' ∧
      ¬ (r.channel = Channel.trace.name ∧ name = "context")

/-
  Whether fields tell a record that is written at a time,
  and nothing else: each part of it has one place, and every
  field that is to be written stands in its place only.
-/
structure IsToldBy
    (r : Record)
    (time : String)
    (top : List (String × Value)) : Prop where
  nodup : (top.map Prod.fst).Nodup
  names : ∀ entry ∈ top, entry.1 ∈ topNames
  timestamp : top.lookup "timestamp" = some (.str time)
  level : top.lookup "level" = some r.levelName
  logger : top.lookup "logger" = some (.str r.channel)
  message : top.lookup "message" = some (.str r.message)
  trace :
    top.lookup "trace" =
      if r.channel = Channel.trace.name then
        some (.bool true)
      else
        none
  context :
    ∀ v,
      top.lookup "context" = some v ↔
        r.channel = Channel.trace.name ∧
          ("context", v) ∈ r.fields ∧ v ≠ .null
  extra :
    ∃ others,
      top.lookup "extra" =
          (if others = [] then
            none
          else
            some (.object others)) ∧
        (others.map Prod.fst).Nodup ∧
          ∀ name v,
            (name, v) ∈ others ↔
              (name, v) ∈ r.fields ∧ r.IsOther name
  exception :
    top.lookup "exception" = r.exception?.map .str

variable {r : Record}

theorem toValue_eq
    (r : Record)
    (time : String) :
    r.toValue time = .object (r.topFields time) :=
  rfl

theorem isTrace_iff :
    r.isTrace = true ↔ r.channel = Channel.trace.name :=
  beq_iff_eq

theorem isWritten_iff {name : String} :
    isWritten name = true ↔
      name ∉ reservedNames ∧
        name.toList.head? ≠ some '_' := by
  unfold isWritten
  simp

theorem mem_writtenFields_iff
    {name : String}
    {v : Value} :
    (name, v) ∈ r.writtenFields ↔
      (name, v) ∈ r.fields ∧ isWritten name = true :=
  List.mem_filter

/- What stands among the others. -/
theorem mem_otherFields_iff
    {name : String}
    {v : Value} :
    (name, v) ∈ r.otherFields ↔
      (name, v) ∈ r.fields ∧ r.IsOther name := by
  unfold otherFields IsOther
  by_cases hTrace : r.isTrace = true
  · rw [if_pos hTrace, List.mem_filter,
      mem_writtenFields_iff, isWritten_iff]
    simp [isTrace_iff.mp hTrace, and_assoc]
  · rw [if_neg hTrace, mem_writtenFields_iff, isWritten_iff]
    rw [isTrace_iff] at hTrace
    simp [hTrace]

theorem otherFields_sublist :
    List.Sublist r.otherFields r.fields := by
  unfold otherFields writtenFields
  split
  · exact List.filter_sublist.trans List.filter_sublist
  · exact List.filter_sublist

/- The context is the field of that name. -/
theorem context_eq_iff
    (hNames : (r.fields.map Prod.fst).Nodup)
    {v : Value}
    (hSome : v ≠ .null) :
    r.context = v ↔ ("context", v) ∈ r.fields := by
  have hWritten : (r.writtenFields.map Prod.fst).Nodup :=
    List.Nodup.sublist
      (List.filter_sublist.map Prod.fst) hNames
  have hName : isWritten "context" = true := by decide
  unfold context
  rw [Entries.getD_lookup_eq_iff hSome,
    Entries.lookup_eq_some_iff_mem
      (Entries.agree_of_nodup hWritten),
    mem_writtenFields_iff, and_iff_left hName]

/- The context that stands beside the message, if any. -/
def shownContext? (r : Record) : Option Value :=
  if r.isTrace && !r.context.isNull then
    some r.context
  else
    none

theorem shownContext?_eq_some_iff
    (hNames : (r.fields.map Prod.fst).Nodup)
    {v : Value} :
    r.shownContext? = some v ↔
      r.channel = Channel.trace.name ∧
        ("context", v) ∈ r.fields ∧ v ≠ .null := by
  have hShown :
      (r.isTrace && !r.context.isNull) = true ↔
        r.channel = Channel.trace.name ∧
          r.context ≠ .null := by
    rw [Bool.and_eq_true, isTrace_iff, Bool.not_eq_true',
      ← Bool.not_eq_true, Value.isNull_iff]
  unfold shownContext?
  constructor
  · intro hSame
    split at hSame
    · rename_i hBoth
      rw [hShown] at hBoth
      cases hSame
      exact ⟨hBoth.1,
        (context_eq_iff hNames hBoth.2).mp rfl, hBoth.2⟩
    · cases hSame
  · rintro ⟨hTrace, hMem, hSome⟩
    have hContext := (context_eq_iff hNames hSome).mpr hMem
    rw [hContext] at hShown ⊢
    exact if_pos (hShown.mpr ⟨hTrace, hSome⟩)

/- The parts of a written record, one behind the other. -/
theorem topFields_eq
    (r : Record)
    (time : String) :
    r.topFields time =
      [ ("timestamp", .str time),
        ("level", r.levelName),
        ("logger", .str r.channel),
        ("message", .str r.message) ] ++
        ((if r.isTrace then
          [("trace", .bool true)]
        else
          []) ++
        (r.shownContext?.map (("context", ·))).toList) ++
        (if r.otherFields.isEmpty then
          []
        else
          [("extra", .object r.otherFields)]) ++
        (r.exception?.map (("exception", .str ·))).toList := by
  unfold topFields toValue traceFields shownContext?
  cases r.isTrace <;> cases r.context.isNull <;>
    cases r.exception? <;> rfl

/- Every part has one name, and is found under it. -/
theorem parts_topFields
    (r : Record)
    (time : String) :
    ((r.topFields time).map Prod.fst).Nodup ∧
      (∀ entry ∈ r.topFields time, entry.1 ∈ topNames) ∧
      (r.topFields time).lookup "trace" =
          (if r.isTrace then some (.bool true) else none) ∧
        (r.topFields time).lookup "context" =
            r.shownContext? ∧
          (r.topFields time).lookup "extra" =
              (if r.otherFields = [] then
                none
              else
                some (.object r.otherFields)) ∧
            (r.topFields time).lookup "exception" =
              r.exception?.map .str := by
  rw [topFields_eq]
  cases r.isTrace <;> cases r.shownContext? <;>
    cases r.otherFields <;> cases r.exception? <;>
      exact ⟨by simp, by simp [topNames], rfl, rfl, rfl, rfl⟩

/- The fields of a written record tell the record. -/
theorem isToldBy_topFields
    (hNames : (r.fields.map Prod.fst).Nodup)
    (time : String) :
    r.IsToldBy time (r.topFields time) := by
  have hOthers : (r.otherFields.map Prod.fst).Nodup :=
    List.Nodup.sublist
      (otherFields_sublist.map Prod.fst) hNames
  rcases parts_topFields r time with
    ⟨hNodup, hTop, hTrace, hContext, hExtra, hException⟩
  exact
    { nodup := hNodup
      names := hTop
      timestamp := rfl
      level := rfl
      logger := rfl
      message := rfl
      trace := by
        rw [hTrace]
        simp only [isTrace_iff]
      context := by
        intro v
        rw [hContext]
        exact shownContext?_eq_some_iff hNames
      extra := by
        refine ⟨r.otherFields, hExtra, hOthers, ?_⟩
        exact fun name v => mem_otherFields_iff
      exception := hException }

end Record

end Log

end EventFlow

------------------------------------------------------------
-- Lines of a Log
------------------------------------------------------------

namespace EventFlow

namespace Log

namespace Record

variable {r : Record}

/- What is written of a portable record is portable. -/
theorem isPortable_toValue
    (hNames : (r.fields.map Prod.fst).Nodup)
    (hFields : ∀ field ∈ r.fields, field.2.IsPortable)
    (hLevel : r.levelName.IsPortable)
    (time : String) :
    (r.toValue time).IsPortable := by
  have hTold := isToldBy_topFields hNames time
  have hOthers : (Value.object r.otherFields).IsPortable := by
    refine ⟨List.Nodup.sublist
      (otherFields_sublist.map Prod.fst) hNames, ?_⟩
    rw [Value.fieldsArePortable_iff]
    intro field hMem
    exact hFields field (otherFields_sublist.subset hMem)
  have hContext :
      ∀ v, r.shownContext? = some v → v.IsPortable := by
    intro v hShown
    rw [shownContext?_eq_some_iff hNames] at hShown
    exact hFields _ hShown.2.1
  rw [toValue_eq]
  refine ⟨hTold.nodup, ?_⟩
  rw [Value.fieldsArePortable_iff, topFields_eq]
  simp only [List.forall_mem_append, List.forall_mem_cons]
  refine ⟨⟨⟨⟨trivial, hLevel, trivial, trivial,
    List.forall_mem_nil _⟩, ?_, ?_⟩, ?_⟩, ?_⟩
  · cases r.isTrace with
    | true => exact List.forall_mem_singleton.mpr trivial
    | false => exact List.forall_mem_nil _
  · cases hShown : r.shownContext? with
    | none => exact List.forall_mem_nil _
    | some v =>
        exact List.forall_mem_singleton.mpr (hContext v hShown)
  · split
    · exact List.forall_mem_nil _
    · exact List.forall_mem_singleton.mpr hOthers
  · cases r.exception? with
    | none => exact List.forall_mem_nil _
    | some text => exact List.forall_mem_singleton.mpr trivial

/-
  Consider a record with any channel, level and message, and
  with fields of different names whose values are portable.
  Its written form is one line, and JSON for one value only:
  an object that tells the record and nothing else.  To
  whatever depth JSON is read, the line is read as this
  object unless it is deeper.
-/
theorem render_is_lossless
    (r : Record)
    (hNames : (r.fields.map Prod.fst).Nodup)
    (hFields : ∀ field ∈ r.fields, field.2.IsPortable)
    (hLevel : r.levelName.IsPortable)
    (time : String) :
    let line := r.render time
    let top := r.topFields time
    '\n' ∉ line.toList ∧ '\r' ∉ line.toList ∧
      r.IsToldBy time top ∧
      (∀ v, Json.IsJson line.toList v ↔ v = .object top) ∧
      (∀ depth,
        (Value.object top).depth ≤ depth →
          Json.parse depth line = .ok (.object top)) := by
  intro line top
  have hPortable :=
    isPortable_toValue hNames hFields hLevel time
  refine ⟨?_, ?_, ?_, ?_, ?_⟩
  · exact Json.lineEnd_not_mem_render hPortable (.inr rfl)
  · exact Json.lineEnd_not_mem_render hPortable (.inl rfl)
  · exact isToldBy_topFields hNames time
  · intro v
    have hIff :=
      Json.isJson_render_iff (w := v) Json.isSpaced_inLine
        hPortable
    change
      Json.IsJson (Json.render (r.toValue time)).toList v ↔ _
    rw [Json.render, String.toList_ofList]
    exact hIff
  · intro depth hDepth
    have hRead :=
      Json.parse_render Json.isSpaced_inLine hPortable hDepth
        (List.forall_mem_nil _)
    rw [List.append_nil] at hRead
    exact hRead

/- A record of the trace whose message has two lines. -/
def ofTwoLines : Record :=
  { channel := Channel.trace.name
    level := Level.debug
    message := "first\nsecond"
    fields := [
      ("context", .object [("field", .list [.int 1, .null])]),
      ("level", .str "none"),
      ("_hidden", .bool true)
    ] }

/- Its line has no more lines, and hides nothing but that. -/
theorem render_is_lossless_ofTwoLines :
    '\n' ∉ (ofTwoLines.render "now").toList ∧
      Json.parse 4 (ofTwoLines.render "now") =
        .ok (.object [
          ("timestamp", .str "now"),
          ("level", .str "DEBUG"),
          ("logger", .str Channel.trace.name),
          ("message", .str "first\nsecond"),
          ("trace", .bool true),
          ("context",
            .object [("field", .list [.int 1, .null])]),
          ("extra", .object [("level", .str "none")])
        ]) := by
  have hShort : Json.IsShort 1 := by
    change (Nat.toDigits 10 1).length ≤ Json.maxDigits
    decide
  have hNames : (ofTwoLines.fields.map Prod.fst).Nodup := by
    decide
  have hFields :
      ∀ field ∈ ofTwoLines.fields, field.2.IsPortable := by
    simp [ofTwoLines, Value.IsPortable,
      Value.FieldsArePortable, Value.ArePortable, hShort]
  rcases render_is_lossless ofTwoLines hNames hFields trivial
    "now" with ⟨hFeed, -, -, -, hParse⟩
  exact ⟨hFeed, hParse 4 (by decide)⟩

end Record

end Log

end EventFlow

------------------------------------------------------------
-- Lines of Drafts
------------------------------------------------------------

namespace EventFlow

namespace Log

namespace Draft

/- A level that is an integer is called by its name. -/
theorem levelName_of_int
    {d : Draft}
    {level : Level}
    (hLevel : d.level = .int level) :
    d.levelName = .ok (.str level.name) := by
  have hSame (n : Level) :
      (Value.int level).same (.int n) = (level == n) := rfl
  unfold levelName Level.name
  rw [hLevel]
  simp only [hSame]
  rw [Entries.find?_eq_lookup]
  cases Level.names.lookup level <;> rfl

/-
  A draft of a text without arguments becomes the line of a
  record, if its time can be written and no field of it has
  a locked name.
-/
theorem render_of_text
    {d : Draft}
    {channel message written : String}
    {level : Level}
    (hChannel : d.channel = .str channel)
    (hNamed : channel ≠ "")
    (hLevel : d.level = .int level)
    (hTemplate : d.template = .str message)
    (hArguments : d.arguments = [])
    (hFree : ∀ field ∈ d.fields, field.1 ∉ lockedNames)
    (hTime : Timestamp.ofValue d.time = .ok written) :
    ∃ r : Record,
      d.render = .ok (r.render written) ∧
        r.channel = channel ∧
          r.levelName = .str level.name ∧
            r.message = message ∧ r.fields = d.fields := by
  have hName : d.channelName = .ok channel := by
    unfold channelName
    rw [hChannel]
    simp [Value.isTruthy, hNamed]
  have hFields : d.checkFields = .ok () := by
    have hNone :
        (d.fields.find? fun field =>
          lockedNames.contains field.1) = none := by
      rw [List.find?_eq_none]
      intro field hMem
      simpa using hFree field hMem
    unfold checkFields
    rw [hNone]
  have hFilled :
      Template.fill d.template.text d.arguments =
        .ok message := by
    rw [hTemplate, hArguments]
    rfl
  unfold render
  rw [hName, levelName_of_int hLevel, hFields, hTime, hFilled]
  exact ⟨_, rfl, rfl, rfl, rfl, rfl⟩

end Draft

end Log

end EventFlow
