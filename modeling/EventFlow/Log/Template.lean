import EventFlow.Number.Rounded
import EventFlow.Value.Text

/-
  Message templates.

  A template is a text with conversions in it: a percent
  sign, perhaps a key in round brackets, flags, a width, a
  precision, and a letter that says how an argument is
  written.  The arguments are a list, used up in order, or
  one object whose fields the keys name.

  Key definitions include:
    * `Template.Fault`
    * `Template.Supply`
    * `Template.Conversion`
    * `Template.fill`
-/

------------------------------------------------------------
-- Faults
------------------------------------------------------------

namespace EventFlow

namespace Template

/- What can go wrong when a template is filled. -/
inductive Fault where
| incomplete
| incompleteKey
| needsObject
| keyUnknown (key : String)
| tooFew
| tooMany
| starNotInteger
| widthTooBig
| precisionTooBig
| starWidthTooLarge
| starPrecisionTooLarge
| needsNumber (letter : Char) (kind : String)
| needsInteger (letter : Char) (kind : String)
| needsReal (kind : String)
| needsCharacter
| characterOutOfRange
| undefinedInteger
| infiniteInteger
| integerTooLarge
| precisionTooLarge
| letterUnknown (letter : Char) (index : Nat)
| noRoom
deriving DecidableEq, Repr

namespace Fault

/- A letter as it stands in a message. -/
def letterText (c : Char) : String :=
  let n := c.toNat
  String.singleton (if 31 ≤ n && n ≤ 126 then c else '?')

/- The hexadecimal digits of a letter. -/
def letterCode (c : Char) : String :=
  String.ofList (Nat.toDigits 16 c.toNat)

/- The wording of a fault. -/
def message : Fault → String
| .incomplete => "incomplete format"
| .incompleteKey => "incomplete format key"
| .needsObject => "format requires a mapping"
| .keyUnknown key => Text.quoted key
| .tooFew => "not enough arguments for format string"
| .tooMany =>
    "not all arguments converted during string formatting"
| .starNotInteger => "* wants int"
| .widthTooBig => "width too big"
| .precisionTooBig => "precision too big"
| .starWidthTooLarge =>
    "Python int too large to convert to C ssize_t"
| .starPrecisionTooLarge =>
    "Python int too large to convert to C int"
| .needsNumber letter kind =>
    "%" ++ letterText letter ++
      " format: a real number is required, not " ++ kind
| .needsInteger letter kind =>
    "%" ++ letterText letter ++
      " format: an integer is required, not " ++ kind
| .needsReal kind =>
    "must be real number, not " ++ kind
| .needsCharacter => "%c requires int or char"
| .characterOutOfRange =>
    "%c arg not in range(0x110000)"
| .undefinedInteger => "cannot convert float NaN to integer"
| .infiniteInteger =>
    "cannot convert float infinity to integer"
| .integerTooLarge => "int too large to convert to float"
| .precisionTooLarge => "precision too large"
| .letterUnknown letter index =>
    "unsupported format character '" ++ letterText letter ++
      "' (0x" ++ letterCode letter ++ ") at index " ++
      toString index
| .noRoom => ""

end Fault

end Template

end EventFlow

------------------------------------------------------------
-- Arguments
------------------------------------------------------------

namespace EventFlow

namespace Template

/-
  The arguments that are left: the rest of a list, or an
  object and the value that the next conversion uses.
-/
inductive Supply where
| list (rest : List Value)
| object
    (fields : List (String × Value))
    (pending : Option Value)

namespace Supply

/-
  Arguments for a template.  A single object that is not
  empty is used by its keys.
-/
def ofArguments : List Value → Supply
| [.object (field :: fields)] =>
    .object (field :: fields)
      (some (.object (field :: fields)))
| args => .list args

/- The next argument, and what is left. -/
def next : Supply → Except Fault (Value × Supply)
| .list (v :: rest) => .ok (v, .list rest)
| .list [] => .error .tooFew
| .object fields (some v) => .ok (v, .object fields none)
| .object _ none => .error .tooFew

/- Make the field of a key the next argument. -/
def select
    (key : String) : Supply → Except Fault Supply
| .list _ => .error .needsObject
| .object fields _ =>
    match fields.lookup key with
    | some v => .ok (.object fields (some v))
    | none => .error (.keyUnknown key)

/- Whether a conversion left the field it named unused. -/
def isPending : Supply → Bool
| .object _ (some _) => true
| _ => false

/- Whether arguments of a list are left over. -/
def isLeftOver : Supply → Bool
| .list (_ :: _) => true
| _ => false

end Supply

end Template

end EventFlow

------------------------------------------------------------
-- Conversions
------------------------------------------------------------

namespace EventFlow

namespace Template

/- The flags of a conversion. -/
structure Flags where
  toLeft : Bool := false
  sign : Bool := false
  blank : Bool := false
  alternate : Bool := false
  zeros : Bool := false
deriving DecidableEq, Repr

/- How an argument is to be written. -/
structure Conversion where
  flags : Flags := {}
  width : Nat := 0
  precision : Option Nat := none
  letter : Char
deriving DecidableEq, Repr

/- A flag, if a character is one. -/
def Flags.add?
    (f : Flags) : Char → Option Flags
| '-' => some { f with toLeft := true }
| '+' => some { f with sign := true }
| ' ' => some { f with blank := true }
| '#' => some { f with alternate := true }
| '0' => some { f with zeros := true }
| _ => none

/- What a reader yields: a result and the characters left. -/
abbrev Reading (α : Type) :=
  Except Fault (α × List Char)

/- Read flags. -/
def readFlags (f : Flags) : List Char → Flags × List Char
| c :: cs =>
    match f.add? c with
    | some f => readFlags f cs
    | none => (f, c :: cs)
| [] => (f, [])

/- The greatest width that can be written. -/
def widthLimit : Nat := power 2 63 - 1

/- The greatest precision that can be written. -/
def precisionLimit : Nat := power 2 31 - 1

/-
  Whether an integer lies in the range of a word, which has
  one more number below zero than a limit above it.
-/
def isWithin
    (limit : Nat)
    (n : Int) : Bool :=
  -(limit : Int) - 1 ≤ n && n ≤ limit

/- Whether a character is a decimal digit. -/
def isDigit (c : Char) : Bool :=
  '0' ≤ c && c ≤ '9'

/- Read a number of digits up to a limit. -/
def readNumber
    (limit : Nat)
    (fault : Fault)
    (n : Nat) : List Char → Reading Nat
| c :: cs =>
    if isDigit c then
      let n := 10 * n + (c.toNat - '0'.toNat)
      if limit < n then
        .error fault
      else
        readNumber limit fault n cs
    else
      .ok (n, c :: cs)
| [] => .ok (n, [])

/- An argument that is an integer. -/
def starArgument
    (supply : Supply) : Except Fault (Int × Supply) :=
  match supply.next with
  | .error fault => .error fault
  | .ok (.int n, supply) => .ok (n, supply)
  | .ok (.bool b, supply) => .ok (if b then 1 else 0, supply)
  | .ok _ => .error .starNotInteger

/-
  The width that an integer gives.  The least integer of its
  range has no counterpart above zero and gives no width.
-/
def widthOf (n : Int) : Nat :=
  if widthLimit < n.natAbs then 0 else n.natAbs

/- Read a width, which an argument may give. -/
def readWidth
    (f : Flags)
    (supply : Supply)
    (cs : List Char) :
    Reading (Flags × Nat × Supply) :=
  match cs with
  | '*' :: cs =>
      match starArgument supply with
      | .error fault => .error fault
      | .ok (n, supply) =>
          if isWithin widthLimit n then
            let f := { f with toLeft := f.toLeft || n < 0 }
            .ok ((f, widthOf n, supply), cs)
          else
            .error .starWidthTooLarge
  | cs =>
      (readNumber widthLimit .widthTooBig 0 cs).map
        fun (width, cs) => ((f, width, supply), cs)

/- Read a precision, which an argument may give. -/
def readPrecision
    (supply : Supply)
    (cs : List Char) : Reading (Option Nat × Supply) :=
  match cs with
  | '.' :: '*' :: cs =>
      match starArgument supply with
      | .error fault => .error fault
      | .ok (n, supply) =>
          if isWithin precisionLimit n then
            .ok ((some n.toNat, supply), cs)
          else
            .error .starPrecisionTooLarge
  | '.' :: cs =>
      (readNumber precisionLimit .precisionTooBig 0 cs).map
        fun (precision, cs) => ((some precision, supply), cs)
  | cs => .ok ((none, supply), cs)

/- Characters without a size letter in front. -/
def skipSize : List Char → List Char
| 'h' :: cs => cs
| 'l' :: cs => cs
| 'L' :: cs => cs
| cs => cs

/-
  The key whose opening bracket stands before the
  characters.  Brackets within a key come in pairs.
-/
def readKey
    (depth : Nat) : List Char → Reading (List Char)
| [] => .error .incompleteKey
| c :: cs =>
    if c = ')' && depth = 0 then
      .ok ([], cs)
    else
      let depth :=
        if c = '(' then depth + 1
        else if c = ')' then depth - 1
        else depth
      (readKey depth cs).map fun (key, cs) => (c :: key, cs)

/- Use the key in front of a conversion, if there is one. -/
def readSelection
    (supply : Supply)
    (cs : List Char) : Reading Supply :=
  match cs, supply with
  | '(' :: _, .list _ => .error .needsObject
  | '(' :: cs, supply =>
      match readKey 0 cs with
      | .error fault => .error fault
      | .ok (key, cs) =>
          (supply.select (String.ofList key)).map
            fun supply => (supply, cs)
  | cs, supply => .ok (supply, cs)

/- Read a conversion behind its percent sign. -/
def readConversion
    (supply : Supply)
    (cs : List Char) : Reading (Conversion × Supply) :=
  match readSelection supply cs with
  | .error fault => .error fault
  | .ok (supply, cs) =>
      let (flags, cs) := readFlags {} cs
      match readWidth flags supply cs with
      | .error fault => .error fault
      | .ok ((flags, width, supply), cs) =>
          match readPrecision supply cs with
          | .error fault => .error fault
          | .ok ((precision, supply), cs) =>
              match skipSize cs with
              | [] => .error .incomplete
              | letter :: cs =>
                  let conversion :=
                    { flags := flags
                      width := width
                      precision := precision
                      letter := letter }
                  .ok ((conversion, supply), cs)

end Template

end EventFlow

------------------------------------------------------------
-- Written Arguments
------------------------------------------------------------

namespace EventFlow

namespace Template

/-
  A written argument: a sign, a mark of the base, and the
  rest.  Only numbers have a sign, and only they are filled
  up with zeros.
-/
structure Written where
  isNumber : Bool := false
  isNegative : Bool := false
  mark : List Char := []
  body : List Char

/- The sign of a written number. -/
def Written.signChars
    (w : Written)
    (f : Flags) : List Char :=
  if !w.isNumber then []
  else if w.isNegative then ['-']
  else if f.sign then ['+']
  else if f.blank then [' ']
  else []

/- A written argument, filled up to the width. -/
def Written.layOut
    (w : Written)
    (c : Conversion) : List Char :=
  let front := w.signChars c.flags ++ w.mark
  let missing :=
    c.width - (front.length + w.body.length)
  if c.flags.toLeft then
    front ++ w.body ++ List.replicate missing ' '
  else if c.flags.zeros && w.isNumber then
    front ++ List.replicate missing '0' ++ w.body
  else
    List.replicate missing ' ' ++ front ++ w.body

/- A text, cut to the precision. -/
def writeText
    (c : Conversion)
    (s : String) : Written :=
  { body :=
      match c.precision with
      | some n => s.toList.take n
      | none => s.toList }

/- The integer that a value stands for, by truncation. -/
def truncated
    (letter : Char)
    (v : Value) : Except Fault Int :=
  match v with
  | .int n => .ok n
  | .bool b => .ok (if b then 1 else 0)
  | .float x =>
      match x.truncate?, x with
      | some n, _ => .ok n
      | none, .nan => .error .undefinedInteger
      | none, _ => .error .infiniteInteger
  | v => .error (.needsNumber letter v.kind)

/- The integer that a value is. -/
def exact
    (letter : Char)
    (v : Value) : Except Fault Int :=
  match v with
  | .int n => .ok n
  | .bool b => .ok (if b then 1 else 0)
  | v => .error (.needsInteger letter v.kind)

/- The greatest number of digits that can be asked for. -/
def digitsLimit : Nat := precisionLimit - 3

/- An integer in a base, with at least the digits asked for. -/
def writeInteger
    (c : Conversion)
    (base : Nat)
    (mark : List Char)
    (n : Int) : Except Fault Written :=
  if digitsLimit < c.precision.getD 0 then
    .error .precisionTooLarge
  else
    let digits := Nat.toDigits base n.natAbs
    let zeros := c.precision.getD 0 - digits.length
    let isUpper := c.letter == 'X'
    let body := List.replicate zeros '0' ++ digits
    .ok
      { isNumber := true
        isNegative := n < 0
        mark := if c.flags.alternate then mark else []
        body :=
          if isUpper then body.map Char.toUpper else body }

/- The floating-point number that a value stands for. -/
def real (v : Value) : Except Fault Double :=
  let ofInt (n : Int) : Except Fault Double :=
    match Double.ofInt? n with
    | some x => .ok x
    | none => .error .integerTooLarge
  match v with
  | .float x => .ok x
  | .int n => ofInt n
  | .bool b => ofInt (if b then 1 else 0)
  | v => .error (.needsReal v.kind)

/- A floating-point number. -/
def writeReal
    (c : Conversion)
    (form : Double.Notation → Nat → Double → List Char)
    (x : Double) : Written :=
  let style : Double.Notation :=
    { keepsPoint := c.flags.alternate
      isUpper := c.letter.isUpper }
  match form style (c.precision.getD 6) x with
  | '-' :: body =>
      { isNumber := true, isNegative := true, body := body }
  | body => { isNumber := true, body := body }

/-
  A number with an exponent.  The greatest precision leaves
  no room for the digit in front of the point and counts as
  none.
-/
def scientific
    (n : Double.Notation)
    (places : Nat)
    (x : Double) : List Char :=
  if places = precisionLimit then
    x.scientific n 0
  else
    x.scientific n places

/- A single character. -/
def writeCharacter (v : Value) : Except Fault Written :=
  let ofInt (n : Int) : Except Fault Written :=
    if n < 0 || 0x10ffff < n then
      .error .characterOutOfRange
    else
      .ok { body := [Char.ofNat n.toNat] }
  match v with
  | .str s =>
      match s.toList with
      | [c] => .ok { body := [c] }
      | _ => .error .needsCharacter
  | .int n => ofInt n
  | .bool b => ofInt (if b then 1 else 0)
  | _ => .error .needsCharacter

/- An argument as a conversion writes it. -/
def write
    (c : Conversion)
    (index : Nat)
    (v : Value) : Except Fault Written :=
  let decimal : Except Fault Written :=
    (truncated c.letter v).bind (writeInteger c 10 [])
  let inBase (base : Nat) (mark : List Char) :
      Except Fault Written :=
    (exact c.letter v).bind (writeInteger c base mark)
  let realBy
      (form :
        Double.Notation → Nat → Double → List Char) :
      Except Fault Written :=
    (real v).map (writeReal c form)
  match c.letter with
  | 's' => .ok (writeText c v.text)
  | 'r' => .ok (writeText c v.shown)
  | 'a' => .ok (writeText c v.shownAscii)
  | 'd' => decimal
  | 'i' => decimal
  | 'u' => decimal
  | 'o' => inBase 8 ['0', 'o']
  | 'x' => inBase 16 ['0', 'x']
  | 'X' => inBase 16 ['0', 'X']
  | 'e' => realBy scientific
  | 'E' => realBy scientific
  | 'f' => realBy Double.fixed
  | 'F' => realBy Double.fixed
  | 'g' => realBy Double.general
  | 'G' => realBy Double.general
  | 'c' => writeCharacter v
  | letter => .error (.letterUnknown letter index)

end Template

end EventFlow

------------------------------------------------------------
-- Filling
------------------------------------------------------------

namespace EventFlow

namespace Template

/- The greatest width that there is room for. -/
def capacity : Nat := power 2 36

/-
  Write the conversion behind a percent sign.  The total is
  the number of characters of the whole template.
-/
def convert
    (total : Nat)
    (supply : Supply)
    (cs : List Char) :
    Except Fault (List Char × Supply × List Char) :=
  match readConversion supply cs with
  | .error fault => .error fault
  | .ok ((c, supply), cs) =>
      match supply.next with
      | .error fault => .error fault
      | .ok (v, supply) =>
          match write c (total - cs.length - 1) v with
          | .error fault => .error fault
          | .ok written =>
              if capacity < c.width then
                .error .noRoom
              else
                .ok (written.layOut c, supply, cs)

/- Fill a template of at most a number of characters. -/
def fillFrom
    (total : Nat) :
    Nat → Supply → List Char → Except Fault (List Char)
| 0, _, _ => .ok []
| _, supply, [] =>
    if supply.isLeftOver then .error .tooMany else .ok []
| left + 1, supply, '%' :: '%' :: cs =>
    (fillFrom total left supply cs).map ('%' :: ·)
| left + 1, supply, '%' :: cs =>
    match convert total supply cs with
    | .error fault => .error fault
    | .ok (written, supply, cs) =>
        if supply.isPending then
          .error .tooMany
        else
          (fillFrom total left supply cs).map (written ++ ·)
| left + 1, supply, c :: cs =>
    (fillFrom total left supply cs).map (c :: ·)

/- Fill a template; without arguments it stays as it is. -/
def fill
    (template : String)
    (args : List Value) : Except Fault String :=
  if args.isEmpty then
    .ok template
  else
    let cs := template.toList
    (fillFrom cs.length (cs.length + 1)
      (Supply.ofArguments args) cs).map String.ofList

end Template

end EventFlow
