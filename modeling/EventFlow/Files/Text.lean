import EventFlow.Failure
import EventFlow.Text.Line

/-
  Files as texts.

  A file of text is encoded in UTF-8, and any kind of line
  end in it is read as a line feed.

  Key definitions include:
    * `Files.decode`
    * `Files.text?`
-/

------------------------------------------------------------
-- Texts of Files
------------------------------------------------------------

namespace EventFlow

namespace Files

/- The text that the bytes of a file stand for. -/
def decode (bytes : List UInt8) : Except Failure String :=
  match Utf8.decode bytes with
  | .error fault => .error (.undecodable fault)
  | .ok s => .ok (String.ofList (Text.unifyLines s.toList))

/- The text of the file at a path, if there is anything. -/
def text?
    (fs : Files)
    (p : Path) : Except Failure (Option String) :=
  match fs.read? p with
  | .error fault => .error (.unusable fault)
  | .ok none => .ok none
  | .ok (some bytes) => (decode bytes).map some

end Files

end EventFlow
