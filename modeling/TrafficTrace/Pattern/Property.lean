import TrafficTrace.Pattern.Segment

/-! Properties of characters by name, as patterns write them: alone, or as a kind of property and a
value of it. -/
namespace TrafficTrace.Pattern

open Text

/-- Whether a name begins with `is`, which does not count. -/
def beginsWithIs : List Char → Bool
  | 'i' :: 's' :: _ | 'I' :: 's' :: _ | 'i' :: 'S' :: _ | 'I' :: 'S' :: _ => true
  | _ => false

/-- The normal form of a name: without `is` in front, blanks, hyphens, underscores and everything
outside ASCII, in lower case. The name `isc` is one of its own and not `c`. -/
def normalName (name : List Char) : String :=
  let rest := if beginsWithIs name then name.drop 2 else name
  let kept := rest.filter fun c => c.toNat < 0x80 && c ≠ ' ' && c ≠ '_' && c ≠ '-'
  let normal := kept.map Char.toLower
  String.ofList (if beginsWithIs name && normal == ['c'] then ['i', 's', 'c'] else normal)

/-- The code of a script that is given by its code or its name. -/
def scriptCode? (name : String) : Option String :=
  match scriptCodes.find? fun row => asciiLower row.1 == name with
  | some row => some row.2
  | none =>
    (scriptNames.find? fun row =>
      asciiLower row.1 == name || normalName row.2.toList == name).map (·.1)

/-- The version of a name such as `6.1` or `v61`. -/
def version? (name : String) : Option Version :=
  let minors : List (Nat × Nat) :=
    [(2, 1), (3, 2), (4, 1), (5, 2), (6, 3), (7, 0), (8, 0), (9, 0), (10, 0), (11, 0), (12, 1),
      (13, 0), (14, 0), (15, 1), (16, 0)]
  let versions : List Version :=
    ⟨1, 1⟩ :: minors.flatMap fun (major, last) => (List.range (last + 1)).map (⟨major, ·⟩)
  versions.find? fun v =>
    name == toString v.major ++ "." ++ toString v.minor ||
      name == "v" ++ toString v.major ++ toString v.minor

/-- The characters with a property that is given by its name alone. -/
def property? (name : List Char) : Option CharSet :=
  let name := normalName name
  match trait? name with
  | some s => some s
  | none =>
    match category? name with
    | some s => some s
    | none => (scriptCode? name).map ofScript

/-- The characters for which a kind of property has the given value; for ages, or an earlier one. -/
def propertyValue? (name value : List Char) : Option CharSet :=
  let value := normalName value
  match normalName name with
  | "gc" | "generalcategory" => category? value
  | "sc" | "script" => (scriptCode? value).map ofScript
  | "scx" | "scriptextensions" => (scriptCode? value).map usedInScript
  | "age" => (version? value).map assignedIn
  | "gcb" | "graphemeclusterbreak" => graphemeClass? value
  | "wb" | "wordbreak" => wordClass? value
  | "sb" | "sentencebreak" => sentenceClass? value
  | _ => none

end TrafficTrace.Pattern
