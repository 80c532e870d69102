import EventFlow.Number.Shortest
import EventFlow.Text.Quoted
import EventFlow.Value.Basic

/-
  Values written as text.

  `Value.shown` writes a value so that its kind can be seen:
  texts stand in quotes, lists in square brackets and
  objects in curly brackets.  `Value.text` writes a text as
  it is and any other value as shown.

  An integer is written however many digits it has.  Those
  of more digits than can be written do not come up: no
  value that was read has one.

  Key definitions include:
    * `Value.shown`
    * `Value.text`
-/

------------------------------------------------------------
-- Written Values
------------------------------------------------------------

namespace EventFlow

namespace Value

mutual

/- A value, written so that its kind can be seen. -/
def shownBy (quote : String → String) : Value → String
| .null => "None"
| .bool b => if b then "True" else "False"
| .int n => toString n
| .float x => x.text
| .str s => quote s
| .list items =>
    "[" ++ ", ".intercalate (shownItems quote items) ++ "]"
| .object fields =>
    "\x7b" ++
      ", ".intercalate (shownFields quote fields) ++
      "\x7d"
termination_by structural v => v

/- The items of a list, each as shown. -/
def shownItems
    (quote : String → String) :
    List Value → List String
| [] => []
| x :: xs => shownBy quote x :: shownItems quote xs
termination_by structural xs => xs

/- The fields of an object, each as shown. -/
def shownFields
    (quote : String → String) :
    List (String × Value) → List String
| [] => []
| (k, x) :: fs =>
    (quote k ++ ": " ++ shownBy quote x) ::
      shownFields quote fs
termination_by structural fs => fs

end

/- A value, written so that its kind can be seen. -/
def shown (v : Value) : String :=
  v.shownBy Text.quoted

/- A value, shown with ASCII characters only. -/
def shownAscii (v : Value) : String :=
  v.shownBy Text.quotedAscii

/- A text as it is, and any other value as shown. -/
def text : Value → String
| .str s => s
| v => v.shown

end Value

end EventFlow
