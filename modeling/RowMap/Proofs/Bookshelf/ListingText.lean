import RowMap.Proofs.Bookshelf.Lines
import RowMap.Proofs.Bookshelf.StatementTexts

/-!
# The end of a listing's statement

The listings of books and of plans are templates with the same last lines. What they order by and
where they begin and end is read from the words of the statement, and from the values of the last
two markers.
-/

namespace RowMap

/-- A statement ends with an order, by a column and then by the key, and with two bounds, whose
markers have values. Nothing before that orders or bounds it. -/
def Statement.PagedBy (stmt : Statement) (qualifier column : String) (d : SortDirection)
    (limit offset : Int64) : Prop :=
  ∃ (front : List (List Char)) (k : Nat),
    Text.words stmt.sql.toList = front ++
      (["ORDER", "BY", qualifier ++ "." ++ column, d.keyword ++ ",", qualifier ++ ".id", "ASC",
          "LIMIT"].map String.toList ++ [marker (k + 1), "OFFSET".toList, marker (k + 2)]) ∧
    (∀ word ∈ ["ORDER", "LIMIT", "OFFSET"], word.toList ∉ front) ∧
    stmt.values[k]? = some (ScalarType.int64.bind limit) ∧
    stmt.values[k + 1]? = some (ScalarType.int64.bind offset)

/-- A sort value names a column, and the descending order with a dash before the column. -/
def Filters.Names (sort column : String) (d : SortDirection) : Prop :=
  d = .ascending ∧ sort = column ∨ d = .descending ∧ sort = "-" ++ column

instance (sort column : String) (d : SortDirection) : Decidable (Filters.Names sort column d) :=
  inferInstanceAs (Decidable (_ ∨ _))

namespace Bookshelf

open RowMap.Template

/-! ## The statement of a listing -/

/-- What the listings of a service have in common: the alias of their table, its shape, the sort
values, and the lines of the statement before its order. -/
structure Listing where
  qualifier : String
  shape : Shape
  safelist : List String
  front : List String

def bookListing : Listing where
  qualifier := "b"
  shape := Mapped.shape Book
  safelist := Books.safelist
  front := [
    "SELECT",
    "    count(*) OVER(),",
    "    " ++ Books.columns,
    "FROM books b",
    "LEFT JOIN users u ON u.id = b.user_id",
    "WHERE",
    "    (to_tsvector('simple', b.title) @@ plainto_tsquery('simple', :title) OR :title = '')",
    "    AND (to_tsvector('simple', b.author) @@ plainto_tsquery('simple', :author) OR :author = '')",
    "    AND b.deleted = false",
    "    AND b.user_id = :userID"]

def planListing : Listing where
  qualifier := "r"
  shape := Mapped.shape ReadingPlan
  safelist := Plans.safelist
  front := [
    "SELECT",
    "    count(*) OVER(),",
    "    " ++ Plans.columns,
    "FROM reading_plans r",
    "LEFT JOIN users u ON u.id = r.user_id",
    "LEFT JOIN books b ON b.id = r.book_id",
    "WHERE",
    "    (:status::int IS NULL OR r.status = :status)",
    "    AND (:startDate::timestamptz IS NULL OR r.start_date >= :startDate::timestamptz)",
    "    AND (:targetDate::timestamptz IS NULL OR r.target_date <= :targetDate::timestamptz)",
    "    AND b.deleted = false",
    "    AND r.deleted = false",
    "    AND r.user_id = :userID",
    "    AND r.book_id = :bookID"]

namespace Listing

variable (l : Listing)

def orderLines (column : String) (d : SortDirection) : List String :=
  ["ORDER BY", "    " ++ l.qualifier ++ "." ++ column ++ " " ++ d.keyword ++ ",",
    "    " ++ l.qualifier ++ ".id ASC", "LIMIT :limit", "OFFSET :offset"]

def template (column : String) (d : SortDirection) : String :=
  Bookshelf.template 8 (l.front ++ l.orderLines column d)

end Listing

theorem template_bookListing : bookListing.template = Books.listTemplate := rfl

theorem template_planListing : planListing.template = Plans.listTemplate := rfl

/-- What there is to know of the lines of a listing. The names before the order are given. -/
structure Listing.Sound (l : Listing) (before : List String) : Prop where
  front : lineNames l.front = before ∧
    ∀ word ∈ ["ORDER", "LIMIT", "OFFSET"], word.toList ∉ lineWords 1 l.front
  sorts : ∀ sort ∈ l.safelist,
    Filters.Names sort (sortedColumn sort) (sortedDirection sort) ∧
      sortedColumn sort ∈ l.shape.columns.map Prod.snd
  order : ∀ sort ∈ l.safelist,
    let lines := l.orderLines (sortedColumn sort) (sortedDirection sort)
    lineNames lines = ["limit", "offset"] ∧ lineWords (1 + before.length) lines =
      ["ORDER", "BY", l.qualifier ++ "." ++ sortedColumn sort,
          (sortedDirection sort).keyword ++ ",", l.qualifier ++ ".id", "ASC",
          "LIMIT"].map String.toList ++
        [marker (before.length + 1), "OFFSET".toList, marker (before.length + 2)]

theorem bookListing_sound : bookListing.Sound ["title", "title", "author", "author", "userID"] where
  front := by decide +kernel
  sorts := by decide +kernel
  order := by decide +kernel

theorem planListing_sound : planListing.Sound ["status", "status", "startDate", "startDate",
    "targetDate", "targetDate", "userID", "bookID"] where
  front := by decide +kernel
  sorts := by decide +kernel
  order := by decide +kernel

section
variable {l : Listing} {before : List String} {sort : String}

theorem Listing.Sound.pagedBy (h : l.Sound before) (hsort : sort ∈ l.safelist) {p : Parameters}
    (hbefore : ∀ name ∈ before, (p.get? name).isSome) (limit offset : Int64)
    (hlimit : p.get? "limit" = some (ScalarType.int64.bind limit))
    (hoffset : p.get? "offset" = some (ScalarType.int64.bind offset)) :
    ∃ stmt, p.statement (sortedBy l.template sort) = .ok stmt ∧
      stmt.PagedBy l.qualifier (sortedColumn sort) (sortedDirection sort) limit offset := by
  let lines := l.front ++ l.orderLines (sortedColumn sort) (sortedDirection sort)
  obtain ⟨hbounds, horder⟩ := h.order sort hsort
  obtain ⟨hnames, hquiet⟩ := h.front
  have hall : lineNames lines = before ++ ["limit", "offset"] := by
    rw [lineNames_append, hnames, hbounds]
  have hbound : ∀ name ∈ lineNames lines, (p.get? name).isSome := by
    rw [hall]
    refine List.forall_mem_append.mpr ⟨hbefore, ?_⟩
    simp [hlimit, hoffset]
  obtain ⟨values, hstmt, hvalues⟩ := statement_of_lines 8 hbound
  -- The two bounds come last, so their places are counted by the names before.
  have hvalue (k : Nat) : values[k]?.map some = (lineNames lines)[k]?.map p.get? := by
    rw [← List.getElem?_map, hvalues, List.getElem?_map]
  have hlimit' := hvalue before.length
  have hoffset' := hvalue (before.length + 1)
  rw [hall] at hlimit' hoffset'
  refine ⟨_, hstmt, lineWords 1 l.front, before.length, ?_, hquiet, ?_, ?_⟩
  · rw [words_numbered, lineWords_append, hnames, horder]
  · simpa [hlimit] using hlimit'
  · simpa [hoffset] using hoffset'

end

end Bookshelf

end RowMap
