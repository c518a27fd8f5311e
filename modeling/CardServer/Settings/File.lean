import CardServer.Settings.EnvFile
import CardServer.Settings.Format.Ini
import CardServer.Settings.Format.Json
import CardServer.Settings.Format.Json5
import CardServer.Settings.Format.Ron
import CardServer.Settings.Format.Toml
import CardServer.Settings.Format.Yaml
import CardServer.Settings.Loaded

/-! # Loading settings

Settings come from a working directory and an environment.  First the variables of the nearest `.env`
file are added to the environment; then the settings file of the working directory is read, if there is
one that is text; then the layers are put together.

* `Settings.load`   the whole of it
-/

namespace CardServer.Settings

/-- The formats of settings files. -/
inductive FileFormat where
  | toml
  | json
  | yaml
  | ini
  | ron
  | json5
  deriving DecidableEq, Repr

namespace FileFormat

/-- The names that a settings file may have, with the format that each one means. -/
def fileNames : List (String × FileFormat) :=
  [("configuration.toml", .toml), ("configuration.json", .json), ("configuration.yaml", .yaml),
    ("configuration.yml", .yaml), ("configuration.ini", .ini), ("configuration.ron", .ron),
    ("configuration.json5", .json5)]

/-- Reads a file in a format, or says why it cannot be read. -/
def read (format : FileFormat) (origin : Origin) (text : String) : Except String Value :=
  match format with
  | .json => Format.Json.read origin text
  | .toml => Format.Toml.read origin text
  | .yaml => Format.Yaml.read origin text
  | .ini => Format.Ini.read origin text
  | .ron => Format.Ron.read origin text
  | .json5 => Format.Json5.read origin text

/-- The entries of a file in a format. -/
def entries (format : FileFormat) (file text : String) :
    Except LoadFault (List (String × Value)) :=
  match format.read (.file file) text with
  | .error reason => .error (.unreadable reason file)
  | .ok (.table entries) => .ok entries
  | .ok value =>
    let mismatch : LoadFault := .wrongType value.describe "a map" none (some (.file file))
    .error (.unreadable mismatch.message file)

end FileFormat

/-- The files of a directory tree, each with the parts of its path, and the working directory in
    it. -/
structure Directory where
  files : List (List String × ByteArray)
  current : List String

namespace Directory

/-- The parts of a path; two points go back to the directory above. -/
def parts (path : String) : List String :=
  ((path.splitOn "/").foldl step []).reverse
where
  /-- The parts in reverse, with one more. -/
  step (done : List String) (part : String) : List String :=
    if part = "" ∨ part = "." then done
    else if part = ".." ∧ done.headD ".." ≠ ".." then done.drop 1
    else part :: done

/-- The contents of a file by the parts of its path. -/
def file? (directory : Directory) (path : List String) : Option ByteArray :=
  (directory.files.find? (·.1 = path)).map (·.2)

/-- The directories from one up to the root, as the parts of their paths in reverse.  Nothing is known
    of those above the root. -/
def upward : List String → List (List String)
  | [] => [[]]
  | ".." :: _ => []
  | last :: rest => (last :: rest) :: upward rest

/-- The name of a file of variables. -/
def envFileName : String := ".env"

/-- The file of variables in the working directory or else in the nearest directory above. -/
def envFile? (directory : Directory) : Option ByteArray :=
  (upward directory.current.reverse).findSome? fun place =>
    directory.file? (place.reverse ++ [envFileName])

/-- A file without an ending in the place of the settings file, which hides every other. -/
def bareName : String := "configuration"

/-- The settings file of the working directory, if it is text, with its format and name. -/
def settingsFile? (directory : Directory) : Option (FileFormat × String × String) := do
  if (directory.file? (directory.current ++ [bareName])).isSome then
    none
  let (name, format) ← FileFormat.fileNames.find? fun entry =>
    (directory.file? (directory.current ++ [entry.1])).isSome
  let bytes ← directory.file? (directory.current ++ [name])
  let text ← String.fromUTF8? bytes
  return (format, name, text)

end Directory

/-- The environment with the variables of a file, if there is one. -/
def extended (environment : Environment) (envFile : Option ByteArray) : Environment :=
  match envFile with
  | some bytes => EnvFile.load environment bytes
  | none => environment

/-- The entries of a settings file, if there is one. -/
def fileEntries (file : Option (FileFormat × String × String)) :
    Except LoadFault (List (String × Value)) :=
  match file with
  | some (format, name, text) => format.entries name text
  | none => .ok []

/-- Loads the settings of a working directory and an environment. -/
def load (environment : Environment) (directory : Directory) : Except LoadFault Settings := do
  let environment := extended environment directory.envFile?
  let file ← fileEntries directory.settingsFile?
  ofLayers file environment

end CardServer.Settings
