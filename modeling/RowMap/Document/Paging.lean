import RowMap.Json.Parts
import RowMap.Paging.Filters

/-!
# Filters and pages as documents

Filters are received and pages are sent. Names are written in camel case.
-/

namespace RowMap

open RowMap.Json (partOr? int64? text? ofInt64)

/-- Filters without a list of safe sort values; nobody can send one. -/
def Filters.ofJson? (j : Json) : Option Filters := do
  let (page, pageSize, sort) ← match j with
    | .object members =>
      some (members.lookup "page", members.lookup "pageSize", members.lookup "sort")
    | .array items => if items.length ≤ 3 then some (items[0]?, items[1]?, items[2]?) else none
    | _ => none
  let standard : Filters := {}
  return {
    page := ← partOr? int64? standard.page page
    pageSize := ← partOr? int64? standard.pageSize pageSize
    sort := ← partOr? text? standard.sort sort }

def Metadata.toJson (m : Metadata) : Json :=
  .ofMembers [("currentPage", ofInt64 m.currentPage), ("pageSize", ofInt64 m.pageSize),
    ("firstPage", ofInt64 m.firstPage), ("lastPage", ofInt64 m.lastPage),
    ("totalRecords", ofInt64 m.totalRecords)]

end RowMap
