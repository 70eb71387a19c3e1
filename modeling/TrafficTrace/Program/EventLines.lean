import TrafficTrace.Event
import TrafficTrace.FileTree
import TrafficTrace.Json.Reader
import TrafficTrace.Program.Report
import TrafficTrace.Text.Utf8

/-! Events in a file, one on each line. Blank lines are skipped but counted; reading ends at the first
line that holds no event. -/
namespace TrafficTrace

/-- Why events could not be read, or not all of them. -/
inductive EventFault where
  | unopened (file : String) (e : FileError)
  | unreadable (e : FileError)
  | invalid (file : String) (line : Nat) (e : Document.DecodeError)
deriving DecidableEq, Repr

def EventFault.report : EventFault → Report
  | unopened file e => (Report.plain e.message).within ("Failed to open events file " ++ file)
  | unreadable e => .plain e.message
  | invalid file line e =>
    ⟨⟨file ++ ":" ++ toString line ++ ": invalid event", none⟩,
      [⟨e.message, some (.document e.message)⟩]⟩

namespace EventLines

/-- The bytes between line ends; a carriage return before a line end belongs to it. -/
def split (line : List UInt8) : List UInt8 → List (List UInt8)
  | [] => if line.isEmpty then [] else [line.reverse]
  | b :: bs =>
    if b = 10 then (if line.head? = some 13 then line.tail else line).reverse :: split [] bs
    else split (b :: line) bs

/-- The lines of a file; none for one whose bytes are no text. -/
def lines (content : List UInt8) : List (Option String) := (split [] content).map Text.ofUtf8?

/-- The events on lines that are counted from `number` on, and what ended the reading early. -/
def read (file : String) (number : Nat) : List (Option String) → List Event × Option EventFault
  | [] => ([], none)
  | none :: _ => ([], some (.unreadable .notText))
  | some line :: rest =>
    if Text.isAllBlank line then read file (number + 1) rest
    else match Json.decodeText Event.decoder line with
      | .ok e =>
        let (es, fault) := read file (number + 1) rest
        (e :: es, fault)
      | .error e => ([], some (.invalid file number e))

/-- The events of a file that could or could not be opened. A directory can be opened but not read. -/
def ofFile (file : String) (content : Except FileError ByteArray) : List Event × Option EventFault :=
  match content with
  | .ok bytes => read file 1 (lines bytes.toList)
  | .error .isDirectory => ([], some (.unreadable .isDirectory))
  | .error e => ([], some (.unopened file e))

end EventLines

end TrafficTrace
