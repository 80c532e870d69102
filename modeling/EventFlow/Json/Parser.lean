import EventFlow.Text.Digit
import EventFlow.Text.Encoding
import EventFlow.Value.Basic

/-
  Reading JSON.

  `Json.parse` reads a text as a value.  Besides the
  standard it knows the numbers `NaN`, `Infinity` and
  `-Infinity`, and it reads a number without fraction and
  exponent as an integer of any size up to 4300 digits.  A
  repeated key of an object keeps its first place and its
  last value.  How deep lists and objects may lie in each
  other is up to the caller.

  A text is made of characters.  A text with half of a
  surrogate pair alone is none here: the reader stops, and
  nothing is told of what such a text would lead to.

  The readers work on the characters that are left, and a
  reader that fails says how many were left where it
  stopped; `Json.parse` turns this into a position, a line
  and a column.

  Key definitions include:
    * `Json.Reason`
    * `Json.Obstacle`
    * `Json.Fault`
    * `Json.readText`
    * `Json.parseWithin`
    * `Json.parse`
-/

------------------------------------------------------------
-- Faults
------------------------------------------------------------

namespace EventFlow

namespace Json

/- Why a text is not JSON. -/
inductive Reason where
| byteOrderMark
| value
| extraData
| comma
| colon
| name
| controlCharacter
| escape
| numberedEscape
| unterminated
| digits (count : Nat)
| nestedList
| nestedObject
| unpaired
deriving DecidableEq, Repr

/-
  What can keep JSON from being read: it is too large, or
  there is half of a surrogate pair alone in it.
-/
inductive Obstacle where
| size
| pairing
deriving DecidableEq, Repr

/- The greatest number of digits of an integer. -/
def maxDigits : Nat := 4300

namespace Reason

/- The wording of a reason. -/
def message : Reason → String
| .byteOrderMark =>
    "Unexpected UTF-8 BOM (decode using utf-8-sig)"
| .value => "Expecting value"
| .extraData => "Extra data"
| .comma => "Expecting ',' delimiter"
| .colon => "Expecting ':' delimiter"
| .name =>
    "Expecting property name enclosed in double quotes"
| .controlCharacter => "Invalid control character at"
| .escape => "Invalid \\escape"
| .numberedEscape => "Invalid \\uXXXX escape"
| .unterminated => "Unterminated string starting at"
| .digits count =>
    "Exceeds the limit (" ++ toString maxDigits ++
      " digits) for integer string conversion: value has " ++
      toString count ++
      " digits; use sys.set_int_max_str_digits() " ++
      "to increase the limit"
| .nestedList =>
    "maximum recursion depth exceeded while decoding a " ++
      "JSON array from a unicode string"
| .nestedObject =>
    "maximum recursion depth exceeded while decoding a " ++
      "JSON object from a unicode string"
| .unpaired => "Unpaired surrogate"

/-
  Whether the text is too deep to be read.
-/
def isNesting : Reason → Bool
| .nestedList => true
| .nestedObject => true
| _ => false

/- Whether an integer has too many digits to be kept. -/
def isCount : Reason → Bool
| .digits _ => true
| _ => false

/-
  What JSON cannot be read for.  An integer of too many
  digits is JSON that cannot be kept, and what is too deep
  is not read to its end.
-/
def obstacle? : Reason → Option Obstacle
| .digits _ => some .size
| .unpaired => some .pairing
| reason => if reason.isNesting then some .size else none

/- Whether the text is no JSON at all. -/
def isGrammar (r : Reason) : Bool :=
  r.obstacle?.isNone

end Reason

/- A fault with its place in the text, all counted. -/
structure Fault where
  reason : Reason
  position : Nat
  line : Nat
  column : Nat
deriving DecidableEq, Repr

namespace Fault

/- The wording of a fault. -/
def message (f : Fault) : String :=
  if f.reason.isGrammar then
    f.reason.message ++ ": line " ++ toString f.line ++
      " column " ++ toString f.column ++
      " (char " ++ toString f.position ++ ")"
  else
    f.reason.message

end Fault

/- Where a reader stopped: the reason and what was left. -/
structure Stop where
  reason : Reason
  left : Nat

/- What a reader yields: a result and what is left. -/
abbrev Reading (α : Type) :=
  Except Stop (α × List Char)

/- Stop in front of the given characters. -/
def stopAt
    {α : Type}
    (reason : Reason)
    (cs : List Char) : Reading α :=
  .error ⟨reason, cs.length⟩

end Json

end EventFlow

------------------------------------------------------------
-- Texts
------------------------------------------------------------

namespace EventFlow

namespace Json

/- The value of four hexadecimal digits. -/
def hexWord? (a b c d : Char) : Option Nat := do
  let a ← Text.hexDigit? a
  let b ← Text.hexDigit? b
  let c ← Text.hexDigit? c
  let d ← Text.hexDigit? d
  return ((a * 16 + b) * 16 + c) * 16 + d

/- The character that a letter after a backslash stands for. -/
def escaped? : Char → Option Char
| '"' => some '"'
| '\\' => some '\\'
| '/' => some '/'
| 'b' => some '\x08'
| 'f' => some '\x0c'
| 'n' => some '\n'
| 'r' => some '\r'
| 't' => some '\t'
| _ => none

/- Put what is spelled in front of what was read. -/
def consSpelled
    (c? : Option Char)
    (r : Reading (List (Option Char))) :
    Reading (List (Option Char)) :=
  r.map fun (cs, rest) => (c? :: cs, rest)

/-
  Read what a text spells from behind its opening quote,
  where half of a surrogate pair alone spells nothing.
  `opening` is what was left in front of the quote.  A
  numbered escape must be followed by at least one more
  character.
-/
def readSpelled
    (opening : Nat) :
    List Char → Reading (List (Option Char))
| [] => .error ⟨.unterminated, opening⟩
| '"' :: rest => .ok ([], rest)
| ['\\'] => .error ⟨.unterminated, opening⟩
| '\\' :: 'u' :: a :: b :: c :: d :: rest =>
    match hexWord? a b c d with
    | none => stopAt .numberedEscape
        ('u' :: a :: b :: c :: d :: rest)
    | some n =>
        match rest with
        | [] => stopAt .numberedEscape ['u', a, b, c, d]
        | '\\' :: 'u' :: w :: x :: y :: z :: next :: more =>
            match hexWord? w x y z with
            | some m =>
                if Text.isHighSurrogate n &&
                    Text.isLowSurrogate m then
                  consSpelled (some (Text.joined n m))
                    (readSpelled opening (next :: more))
                else
                  consSpelled (Text.charOf? n)
                    (readSpelled opening
                      ('\\' :: 'u' :: w :: x :: y :: z ::
                        next :: more))
            | none =>
                consSpelled (Text.charOf? n)
                  (readSpelled opening
                    ('\\' :: 'u' :: w :: x :: y :: z ::
                      next :: more))
        | rest =>
            consSpelled (Text.charOf? n)
              (readSpelled opening rest)
| '\\' :: 'u' :: rest => stopAt .numberedEscape ('u' :: rest)
| '\\' :: c :: rest =>
    match escaped? c with
    | some e => consSpelled (some e) (readSpelled opening rest)
    | none => stopAt .escape ('\\' :: c :: rest)
| c :: rest =>
    if c.toNat ≤ 0x1f then
      stopAt .controlCharacter (c :: rest)
    else
      consSpelled (some c) (readSpelled opening rest)
termination_by structural cs => cs

/- Read a text of characters from behind its opening quote. -/
def readText
    (opening : Nat)
    (cs : List Char) : Reading (List Char) :=
  match readSpelled opening cs with
  | .error stop => .error stop
  | .ok (spelled, rest) =>
      match spelled.mapM id with
      | some cs => .ok (cs, rest)
      | none => stopAt .unpaired rest

end Json

end EventFlow

------------------------------------------------------------
-- Numbers
------------------------------------------------------------

namespace EventFlow

namespace Json

/- Whether a character is an ASCII digit. -/
def isDigit (c : Char) : Bool :=
  '0' ≤ c && c ≤ '9'

/- The value of ASCII digits. -/
def digitsValue (cs : List Char) : Nat :=
  cs.foldl (fun n c => 10 * n + (c.toNat - '0'.toNat)) 0

/- A run of digits and what follows it. -/
def spanDigits (cs : List Char) : List Char × List Char :=
  cs.span isDigit

/-
  The digits of the whole part of a number: a zero alone, or
  a run that starts with another digit.
-/
def readWhole? :
    List Char → Option (List Char × List Char)
| '0' :: rest => some (['0'], rest)
| c :: rest =>
    if isDigit c then
      some (spanDigits (c :: rest))
    else
      none
| [] => none

/- The digits of a fraction, if one follows. -/
def readFraction (cs : List Char) : List Char × List Char :=
  match cs with
  | '.' :: rest =>
      match spanDigits rest with
      | ([], _) => ([], cs)
      | found => found
  | _ => ([], cs)

/- An exponent, if one follows. -/
def readExponent
    (cs : List Char) : Option Int × List Char :=
  match cs with
  | c :: rest =>
      if c = 'e' || c = 'E' then
        let (negative, digits) :=
          match rest with
          | '-' :: more => (true, more)
          | '+' :: more => (false, more)
          | more => (false, more)
        match spanDigits digits with
        | ([], _) => (none, cs)
        | (found, more) =>
            let n : Int := digitsValue found
            (some (if negative then -n else n), more)
      else
        (none, cs)
  | [] => (none, cs)

/- Read a number behind its sign. -/
def readUnsigned
    (start : List Char)
    (negative : Bool)
    (cs : List Char) : Reading Value :=
  match readWhole? cs with
  | none => stopAt .value start
  | some (whole, rest) =>
      let (fraction, rest) := readFraction rest
      let (exponent?, rest) := readExponent rest
      if fraction.isEmpty && exponent?.isNone then
        if maxDigits < whole.length then
          stopAt (.digits whole.length) start
        else
          let n : Int := digitsValue whole
          .ok (.int (if negative then -n else n), rest)
      else
        let scale := exponent?.getD 0 - fraction.length
        .ok
          (.float
            (Double.ofDecimal negative
              (digitsValue (whole ++ fraction)) scale),
            rest)

/- Read a number. -/
def readNumber (cs : List Char) : Reading Value :=
  match cs with
  | '-' :: rest => readUnsigned cs true rest
  | _ => readUnsigned cs false cs

end Json

end EventFlow

------------------------------------------------------------
-- Values
------------------------------------------------------------

namespace EventFlow

namespace Json

/- White space between the parts of a value. -/
def isGap (c : Char) : Bool :=
  c = ' ' || c = '\t' || c = '\n' || c = '\r'

/- What is left behind white space. -/
def skipGap (cs : List Char) : List Char :=
  cs.dropWhile isGap

/- What is left behind a word, if the word comes first. -/
def afterWord? :
    List Char → List Char → Option (List Char)
| [], rest => some rest
| c :: word, d :: rest =>
    if c = d then afterWord? word rest else none
| _ :: _, [] => none

/- The words that stand for a value. -/
def words : List (String × Value) := [
  ("null", .null),
  ("true", .bool true),
  ("false", .bool false),
  ("NaN", .float .nan),
  ("Infinity", .float (.infinite false)),
  ("-Infinity", .float (.infinite true))
]

/- Read a word that stands for a value, if one comes first. -/
def readWord?
    (cs : List Char) : Option (Value × List Char) :=
  words.findSome? fun (word, v) =>
    (afterWord? word.toList cs).map fun rest => (v, rest)

mutual

/-
  Read a value.  The first argument bounds the steps of the
  reader, and the second one the depth of the value.
-/
def readValue :
    Nat → Nat → List Char → Reading Value
| 0, _, cs => stopAt .value cs
| fuel + 1, depth, cs =>
    match cs, depth with
    | '"' :: rest, _ =>
        (readText cs.length rest).map fun (s, rest) =>
          (.str (String.ofList s), rest)
    | '[' :: _, 0 => stopAt .nestedList cs
    | '\x7b' :: _, 0 => stopAt .nestedObject cs
    | '[' :: rest, depth + 1 =>
        match skipGap rest with
        | ']' :: rest => .ok (.list [], rest)
        | rest =>
            (readItems fuel depth [] rest).map
              fun (vs, rest) => (.list vs, rest)
    | '\x7b' :: rest, depth + 1 =>
        match skipGap rest with
        | '\x7d' :: rest => .ok (.object [], rest)
        | rest =>
            (readFields fuel depth [] rest).map
              fun (fs, rest) =>
                (.object (Entries.ofPairs fs), rest)
    | _, _ =>
        match readWord? cs with
        | some found => .ok found
        | none => readNumber cs

/- Read the items of a list up to its closing bracket. -/
def readItems :
    Nat → Nat → List Value → List Char →
      Reading (List Value)
| 0, _, _, cs => stopAt .value cs
| fuel + 1, depth, read, cs =>
    match readValue fuel depth cs with
    | .error stop => .error stop
    | .ok (v, rest) =>
        match skipGap rest with
        | ']' :: rest => .ok ((v :: read).reverse, rest)
        | ',' :: rest =>
            readItems fuel depth (v :: read) (skipGap rest)
        | rest => stopAt .comma rest

/- Read the fields of an object up to its closing bracket. -/
def readFields :
    Nat → Nat → List (String × Value) → List Char →
      Reading (List (String × Value))
| 0, _, _, cs => stopAt .name cs
| fuel + 1, depth, read, cs =>
    match cs with
    | '"' :: rest =>
        match readText cs.length rest with
        | .error stop => .error stop
        | .ok (key, rest) =>
            match skipGap rest with
            | ':' :: rest =>
                match readValue fuel depth (skipGap rest) with
                | .error stop => .error stop
                | .ok (v, rest) =>
                    let read := (String.ofList key, v) :: read
                    match skipGap rest with
                    | '\x7d' :: rest => .ok (read.reverse, rest)
                    | ',' :: rest =>
                        readFields fuel depth read
                          (skipGap rest)
                    | rest => stopAt .comma rest
            | rest => stopAt .colon rest
    | _ => stopAt .name cs

end

/- The line and the column of a position, both from one. -/
def placeOf
    (cs : List Char)
    (position : Nat) : Nat × Nat :=
  let before := cs.take position
  let line := before.count '\n' + 1
  let column :=
    (before.reverse.takeWhile (· != '\n')).length + 1
  (line, column)

/- A fault at the place where a reader stopped. -/
def Stop.toFault
    (cs : List Char)
    (s : Stop) : Fault :=
  let position := cs.length - s.left
  let (line, column) := placeOf cs position
  { reason := s.reason
    position := position
    line := line
    column := column }

/-
  Read characters as a value of at most a depth, with
  nothing behind it.
-/
def readAll
    (depth : Nat)
    (cs : List Char) : Except Stop Value := do
  let (v, rest) ←
    readValue (2 * cs.length + 2) depth (skipGap cs)
  match skipGap rest with
  | [] => return v
  | rest => .error ⟨.extraData, rest.length⟩

/- Read characters as a value of at most a depth. -/
def parseWithin
    (depth : Nat)
    (cs : List Char) : Except Fault Value :=
  (readAll depth cs).mapError (Stop.toFault cs)

/-
  Read a text as a value of at most a depth.  A byte order
  mark belongs to the bytes of a text and not to the text
  itself.
-/
def parse
    (depth : Nat)
    (s : String) : Except Fault Value :=
  let cs := s.toList
  if cs.head? = some Text.byteOrderMark then
    .error (Stop.toFault cs ⟨.byteOrderMark, cs.length⟩)
  else
    parseWithin depth cs

end Json

end EventFlow
