import RowMap.Json.Parts
import RowMap.Text.Bytes
import RowMap.Wire.Script

/-!
# Scripted backends as documents

Replies are read and what was seen is written. Bytes are written as their digits in hexadecimal.
-/

namespace RowMap

def ServerReport.ofJson? (j : Json) : Option ServerReport := do
  return {
    code := ← Json.text? (j.memberOrNull "code")
    message := ← Json.text? (j.memberOrNull "message")
    constraint := ← Json.optional? Json.text? (j.memberOrNull "constraint") }

namespace Wire

def bytesText (bytes : Bytes) : Json := .string (String.ofList (Text.hexOfBytes bytes))

def bytesOfText? (j : Json) : Option Bytes := (Json.text? j).bind fun s => Text.bytesOfHex? s.toList

def Reply.ofJson? (j : Json) : Option Reply := do
  let items (name : String) : Option (List Json) := Json.items? (j.memberOrNull name)
  let row (j : Json) : Option (List (Option Bytes)) := do
    (← Json.items? j).mapM (Json.optional? bytesOfText?)
  let standard : Reply := {}
  return {
    description := {
      parameters := ← (← items "params").mapM Json.text?
      columns := ← (← items "columns").mapM (Json.pair? Json.text? Json.text?) }
    answer := {
      rows := ← (← items "rows").mapM row
      tag := ← Json.partOr? Json.text? standard.answer.tag (j.given? "tag") }
    parseError := ← Json.optional? ServerReport.ofJson? (j.memberOrNull "parse_error")
    runError := ← Json.optional? ServerReport.ofJson? (j.memberOrNull "error") }

def Seen.toJson : Seen → Json
  | .prepared sql => .ofMembers [("sql", .string sql)]
  | .run sql parameters =>
    .ofMembers [("sql", .string sql), ("params", .array (parameters.map (Json.ofOption bytesText)))]
  | .simple sql => .ofMembers [("simple", .string sql)]

end Wire

end RowMap
