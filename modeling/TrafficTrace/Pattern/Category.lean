import TrafficTrace.Text.Age
import TrafficTrace.Text.Alphabetic
import TrafficTrace.Text.Fold

/-! The characters that patterns know are those of version 16.0. Sets of a later version are cut to
them; one letter changed its category since. -/
namespace TrafficTrace.Pattern

open Text

/-- Characters that are not assigned yet for patterns. -/
def unknown : CharSet := newIn ⟨17, 0⟩

/-- A letter that counted as a small one. -/
def glottal : CharSet := CharSet.ofLines ["295"]

def known (s : CharSet) : CharSet := s.diff unknown

/-- The characters of a category, or of a group of categories. -/
def ofCategory (code : String) : CharSet :=
  match code with
  | "Ll" => (known (ofCategories ["Ll"])).union glottal
  | "Lo" => (known (ofCategories ["Lo"])).diff glottal
  | "LC" => (known (ofCategories ["Lu", "Ll", "Lt"])).union glottal
  | "Cn" => (ofCategories ["Cn"]).union unknown
  | "C" => (ofCategories ["Cc", "Cf", "Co", "Cn"]).union unknown
  | _ => known (ofCategories [code])

/-- The categories and their long names. There are no characters in `Cs`, so it has no row. -/
def categoryNames : List (String × List String) := [
  ("L", ["letter"]), ("LC", ["casedletter"]), ("Lu", ["uppercaseletter"]),
  ("Ll", ["lowercaseletter"]), ("Lt", ["titlecaseletter"]), ("Lm", ["modifierletter"]),
  ("Lo", ["otherletter"]), ("M", ["mark", "combiningmark"]), ("Mn", ["nonspacingmark"]),
  ("Mc", ["spacingmark"]), ("Me", ["enclosingmark"]), ("N", ["number"]),
  ("Nd", ["decimalnumber", "digit"]), ("Nl", ["letternumber"]), ("No", ["othernumber"]),
  ("P", ["punctuation", "punct"]), ("Pc", ["connectorpunctuation"]), ("Pd", ["dashpunctuation"]),
  ("Ps", ["openpunctuation"]), ("Pe", ["closepunctuation"]), ("Pi", ["initialpunctuation"]),
  ("Pf", ["finalpunctuation"]), ("Po", ["otherpunctuation"]), ("S", ["symbol"]),
  ("Sm", ["mathsymbol"]), ("Sc", ["currencysymbol"]), ("Sk", ["modifiersymbol"]),
  ("So", ["othersymbol"]), ("Z", ["separator"]), ("Zs", ["spaceseparator"]),
  ("Zl", ["lineseparator"]), ("Zp", ["paragraphseparator"]), ("C", ["other"]),
  ("Cc", ["control", "cntrl"]), ("Cf", ["format"]), ("Cn", ["unassigned"]), ("Co", ["privateuse"])]

def asciiLower (s : String) : String := String.ofList (s.toList.map Char.toLower)

/-- The category of a name in normal form. -/
def category? (name : String) : Option CharSet :=
  match name with
  | "any" => some CharSet.all
  | "ascii" => some ⟨[(0, 0x7F)]⟩
  | "assigned" => some (ofCategory "Cn").complement
  | _ =>
    (categoryNames.find? fun row => asciiLower row.1 == name || row.2.contains name).map fun row =>
      ofCategory row.1

end TrafficTrace.Pattern
