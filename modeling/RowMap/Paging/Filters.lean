import RowMap.Error
import RowMap.Statement.Select

/-!
# Pages and their order

Filters say which page of a listing is wanted and how it is sorted. A dash before a column sorts
it in descending order. Only sort values of a list that is known to be safe name a column.
-/

namespace RowMap

structure Filters where
  page : Int64 := 1
  pageSize : Int64 := 20
  sort : String := "id"
  /-- The sort values that are allowed. -/
  safelist : List String := []

namespace Filters

/-- The last page that can be asked for. -/
def maxPage : Int := 10000000

def sortError : ValidationErrors := .single "sort" "invalid sort value"

/-- The column that the sort value names. -/
def sortColumn (f : Filters) : Except StoreError String :=
  if f.safelist.contains f.sort then .ok (String.ofList (f.sort.toList.dropWhile (· = '-')))
  else .error (.validation sortError)

def sortDirection (f : Filters) : SortDirection :=
  if f.sort.toList.head? = some '-' then .descending else .ascending

def limit (f : Filters) : Int64 := f.pageSize

/-- The number of rows before the page, as far as 64 bits can count. -/
def offset (f : Filters) : Int64 :=
  Int64.ofIntClamp (max (f.page.toInt - 1) 0 * f.pageSize.toInt)

/-- Adds what is wrong with the filters. -/
def validate (f : Filters) (maxPageSize : Int64) (errors : ValidationErrors) : ValidationErrors :=
  errors
    |>.check (0 < f.page.toInt) "page" "must be greater than zero"
    |>.check (f.page.toInt ≤ maxPage) "page" "must be a maximum of 10 million"
    |>.check (0 < f.pageSize.toInt) "page_size" "must be greater than zero"
    |>.check (f.pageSize.toInt ≤ maxPageSize.toInt) "page_size"
        ("must be a maximum of " ++ toString maxPageSize.toInt)
    |>.check (isPermitted f.sort f.safelist) "sort" "invalid sort value"

end Filters

/-- What a page says about the whole listing. -/
structure Metadata where
  currentPage : Int64 := 0
  pageSize : Int64 := 0
  firstPage : Int64 := 0
  lastPage : Int64 := 0
  totalRecords : Int64 := 0
deriving DecidableEq

namespace Metadata

def isEmpty (m : Metadata) : Bool := m.totalRecords = 0

/-- The last page is the last one with a record on it, as far as 64 bits can count: the sum wraps. -/
def ofTotal (total page pageSize : Int64) : Metadata :=
  if total ≤ 0 ∨ pageSize ≤ 0 then {}
  else
    { currentPage := page
      pageSize := pageSize
      firstPage := 1
      lastPage := (total + pageSize - 1) / pageSize
      totalRecords := total }

end Metadata

end RowMap
