import TrafficTrace.Assoc
import TrafficTrace.Text.Blank

/-! Files and directories. A path is the list of names that lead from the top of the tree to an
entry; the top itself is a directory. -/
namespace TrafficTrace

abbrev FilePath := List String

namespace FilePath

/-- Whether the first path leads to or through an entry that contains the second. -/
def isWithin (p directory : FilePath) : Bool := directory.isPrefixOf p

/-- The path itself and the paths of the directories around it, the nearest first. -/
def ancestors (p : FilePath) : List FilePath :=
  (List.range (p.length + 1)).reverse.map fun n => p.take n

/-- Follows a text from a directory: names between slashes, where one dot stays and two dots go up.
A text that begins with a slash starts at the top. -/
def follow (directory : FilePath) (text : String) : FilePath :=
  let start := if text.toList.head? = some '/' then [] else directory
  ((Text.pieces (· = '/') text.toList).map String.ofList).foldl (fun p name =>
    if name = "" || name = "." then p else if name = ".." then p.dropLast else p ++ [name]) start

example : follow ["a"] "../b/./c//d" = ["b", "c", "d"] ∧ follow ["a"] "/b" = ["b"] := by
  decide +kernel

/-- What follows the last dot of a name, unless that dot begins the name. -/
def extension? (name : String) : Option String :=
  let after := name.toList.reverse.takeWhile (· ≠ '.')
  if name = ".." || name.length ≤ after.length + 1 then none else some (String.ofList after.reverse)

end FilePath

inductive FileEntry where
  | file (content : ByteArray)
  | directory

inductive FileError where
  | notFound
  | notDirectory
  | isDirectory
  | notText
deriving DecidableEq, Repr

namespace FileError

def message : FileError → String
  | notFound => "No such file or directory (os error 2)"
  | notDirectory => "Not a directory (os error 20)"
  | isDirectory => "Is a directory (os error 21)"
  | notText => "stream did not contain valid UTF-8"

end FileError

/-- The entries of a tree whose top has the given name. -/
structure FileTree where
  name : String
  entries : Assoc FilePath FileEntry

namespace FileTree

def empty (name : String) : FileTree := ⟨name, .empty⟩

/-- A path as it is shown. -/
def display (t : FileTree) (p : FilePath) : String := p.foldl (fun s name => s ++ "/" ++ name) t.name

def get? (t : FileTree) (p : FilePath) : Option FileEntry :=
  if p = [] then some .directory else t.entries.get? p

def contains (t : FileTree) (p : FilePath) : Bool := (t.get? p).isSome

/-- Why there is nothing at a path: a file stands where a directory should, or a name is missing. -/
def absence (t : FileTree) (p : FilePath) : FileError :=
  let through := p.ancestors.any fun q => match t.get? q with
    | some (.file _) => true
    | _ => false
  if through then .notDirectory else .notFound

def read (t : FileTree) (p : FilePath) : Except FileError ByteArray :=
  match t.get? p with
  | some (.file content) => .ok content
  | some .directory => .error .isDirectory
  | none => .error (t.absence p)

def readText (t : FileTree) (p : FilePath) : Except FileError String := do
  match String.fromUTF8? (← t.read p) with
  | some s => return s
  | none => .error .notText

/-- Writes a file into a directory that is there. -/
def write (t : FileTree) (p : FilePath) (content : ByteArray) : Except FileError FileTree :=
  match t.get? p, t.get? p.dropLast with
  | some .directory, _ => .error .isDirectory
  | _, some .directory => .ok { t with entries := t.entries.put p (.file content) }
  | _, some (.file _) => .error .notDirectory
  | _, none => .error (t.absence p.dropLast)

/-- Makes a directory and those around it. -/
def makeDirectories (t : FileTree) (p : FilePath) : FileTree :=
  { t with
    entries := p.ancestors.foldl (fun es q => if q = [] then es else es.put q .directory) t.entries }

/-- Takes away an entry and all within it. -/
def remove (t : FileTree) (p : FilePath) : FileTree :=
  { t with entries := t.entries.filter fun e => !FilePath.isWithin e.1 p }

/-- Writes a file and makes the directories around it. -/
def place (t : FileTree) (p : FilePath) (content : ByteArray) : FileTree :=
  let t := t.makeDirectories p.dropLast
  { t with entries := t.entries.put p (.file content) }

/-- The files that one tree has and another has not, or has with another content. -/
def filesBeside (t before : FileTree) : List (FilePath × ByteArray) :=
  t.entries.entries.filterMap fun (p, e) =>
    match e, before.get? p with
    | .file content, some (.file old) => if content.data = old.data then none else some (p, content)
    | .file content, _ => some (p, content)
    | .directory, _ => none

@[simp] theorem get?_nil (t : FileTree) : t.get? [] = some .directory := rfl

/-- A write changes the entry at its path and no other. -/
theorem get?_write {t u : FileTree} {p : FilePath} {content : ByteArray}
    (h : t.write p content = .ok u) (q : FilePath) :
    u.get? q = if q = p then some (.file content) else t.get? q := by
  unfold write at h
  split at h <;> try simp at h
  rename_i hp
  obtain rfl := h
  by_cases hq : q = []
  · subst hq
    have : ¬ [] = p := fun e => hp (by rw [← e]; rfl)
    simp [this]
  · simp [get?, hq]

end FileTree

end TrafficTrace
