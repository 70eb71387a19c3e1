import TrafficTrace.Config.Layers
import TrafficTrace.FileTree
import TrafficTrace.Json.Reader
import TrafficTrace.Text.Lowercase
import TrafficTrace.Yaml.Reader

/-! Where configuration files are found, and how they are read and written. -/
namespace TrafficTrace

namespace Config

open Document

/-- The places of a workspace's file, in the order of the search. -/
def workspacePlaces : List FilePath :=
  [[".tracehound.json"], [".tracehound.yaml"], [".tracehound.yml"], [".tracehound", "config.json"]]

/-- The file of one person's workspace, which is not shared. -/
def personalPlace : FilePath := [".tracehound.local.json"]

/-- The global file's directory below the home directory. -/
def globalDirectory : FilePath := [".tracehound"]

/-- The global file below the home directory. -/
def globalPlace : FilePath := globalDirectory ++ ["config.json"]

def fileError (e : FileError) : ConfigError :=
  match e with
  | .notFound => .notFound e.message
  | e => .io e.message

/-- Whether a file of this name is written in YAML; all others are JSON. -/
def isYaml (name : String) : Bool :=
  match FilePath.extension? name with
  | some e => let e := Text.lower e; e = "yaml" || e = "yml"
  | none => false

/-- The steps from a configuration to a text in one of its lists or records: two collections, and an
anchor or a reference before each of them and before the text. -/
def yamlDepth : Nat := 5

def parse (name text : String) : Except ConfigError ConfigFile :=
  if isYaml name then
    (Yaml.decodeText yamlDepth ConfigFile.record.decode text).mapError fun e => .yaml e.message
  else (Json.decodeText ConfigFile.record.decode text).mapError fun e => .json e.message

def load (t : FileTree) (p : FilePath) : Except ConfigError ConfigFile := do
  let text ← (t.readText p).mapError fileError
  parse (p.getLast?.getD "") text

/-- The file if there is one. -/
def loadIfPresent (t : FileTree) (p : FilePath) : Except ConfigError (Option ConfigFile) :=
  if t.contains p then (load t p).map some else .ok none

/-- The place of the workspace's file that comes first in the search. -/
def workspaceFile? (t : FileTree) (directory : FilePath) : Option FilePath :=
  (workspacePlaces.map (directory ++ ·)).find? t.contains

def loadWorkspace (t : FileTree) (directory : FilePath) : Except ConfigError (Option ConfigFile) :=
  match workspaceFile? t directory with
  | some p => (load t p).map some
  | none => .ok none

def loadPersonal (t : FileTree) (directory : FilePath) : Except ConfigError (Option ConfigFile) :=
  loadIfPresent t (directory ++ personalPlace)

/-- The nearest directory around a path that has a workspace's file. -/
def findWorkspace? (t : FileTree) (start : FilePath) : Option FilePath :=
  start.ancestors.find? fun d => (workspaceFile? t d).isSome

/-- Every source of settings for a workspace; `global` is the place of the global file. -/
def loadLayers (t : FileTree) (global : Option FilePath) (directory : FilePath)
    (environment : EnvironmentSettings) (command : CommandOptions) : Except ConfigError Layers := do
  let global ← match global with
    | some p => loadIfPresent t p
    | none => .ok none
  let workspace ← loadWorkspace t directory
  let personal ← loadPersonal t directory
  return { global, workspace, personal, environment, command }

/-- The settings for a workspace, which have to be valid. -/
def loadSettings (t : FileTree) (global : Option FilePath) (directory : FilePath)
    (environment : EnvironmentSettings) (command : CommandOptions) : Except ConfigError Settings := do
  let s := (← loadLayers t global directory environment command).merge
  s.validate
  return s

/-- Writes a file into a directory and gives its place. -/
def save (t : FileTree) (directory place : FilePath) (f : ConfigFile) :
    Except ConfigError (FileTree × FilePath) := do
  let p := directory ++ place
  let u ← (t.write p f.toJson.toIndentedText.toUTF8).mapError fileError
  return (u, p)

/-- Writes the starter file unless the directory has a workspace's file. -/
def create (t : FileTree) (directory : FilePath) : Except ConfigError (FileTree × FilePath) :=
  match workspaceFile? t directory with
  | some p => .error (.invalidValue "config" (t.display p ++ " already exists"))
  | none => save t directory [".tracehound.json"] .starter

end Config

end TrafficTrace
