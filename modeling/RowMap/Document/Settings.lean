import RowMap.Json.Parts
import RowMap.Settings.Basic
import RowMap.Toml.Reader

/-!
# Settings in documents

Settings come from a file and from the environment, which wins. A file that cannot be read is
skipped. What was loaded is written as an object.
-/

namespace RowMap.Settings

/-- Two underscores stand for a point. -/
def pointed : List Char → List Char
  | '_' :: '_' :: rest => '.' :: pointed rest
  | c :: rest => c :: pointed rest
  | [] => []

/-- The path that the name of an environment variable gives to its value. -/
def variablePath? (name : String) : Option String :=
  let name := (Text.lower name).toList
  let start := "shelfmap__".toList
  if start.isPrefixOf name then some (String.ofList (pointed (name.drop start.length))) else none

/-- The settings in an environment. -/
def ofEnvironment (environment : List (String × String)) : List (String × Setting) :=
  environment.filterMap fun (name, value) => (variablePath? name).map fun path => (path, .text value)

/-- The settings in the text of a file; a mark of the byte order before it is dropped. -/
def ofFile? (text : String) : Option (List (String × Setting)) :=
  (Toml.read? (Toml.withoutMark text.toList)).map Setting.entriesOfToml

structure Loaded where
  /-- None if the section does not hold what it should. -/
  settings : Option Settings
  /-- The file could not be read. -/
  skipped : Bool

/-- The settings of a file, if there is one, and an environment. -/
def load (file : Option String) (environment : List (String × String)) : Loaded :=
  let fromFile := match file with
    | some text => ofFile? text
    | none => some []
  let root := (Setting.group []).merge (fromFile.getD [])
  ⟨ofTree? (root.merge (ofEnvironment environment)), fromFile.isNone⟩

def toJson (s : Settings) : Json :=
  .ofMembers [
    ("url", .string s.url),
    ("statement_timeout_ms", .int s.timeout.toNat),
    ("max_page_size", .ofInt64 s.maxPageSize),
    ("default_page_size", .ofInt64 s.defaultPageSize),
    ("timeout_ms", .int s.timeout.toNat)]

/-- What loading settings came to, with the number of warnings. -/
def Loaded.toJson (l : Loaded) : Json :=
  let (name, outcome) := match l.settings with
    | some s => ("ok", s.toJson)
    | none => ("error", .string "config")
  .ofMembers [(name, outcome), ("warnings", .int (if l.skipped then 1 else 0))]

end RowMap.Settings
