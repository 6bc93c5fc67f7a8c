import Mathlib.Algebra.Order.Floor.Div
import Mathlib.Data.List.Forall2
import RowMap.Paging.Query
import RowMap.Proofs.Record.Rescan
import RowMap.Proofs.Session.Run

/-!
# Walking through the pages of a listing

A page is a window on the rows of a listing. The windows of the pages up to the last one are next to
each other and cover the rows, so who reads one page after the other reads every row once.
-/

namespace RowMap

/-! ## Windows -/

namespace Filters

/-- The same filters for another page. -/
def onPage (f : Filters) (page : Int64) : Filters := { f with page }

/-- What a statement with the limit and the offset of the filters returns of the rows. -/
def window {α : Type} (f : Filters) (rows : List α) : List α :=
  (rows.drop f.offset.toInt.toNat).take f.limit.toInt.toNat

/-- The number of rows on a page. -/
def size (f : Filters) : Nat := f.pageSize.toInt.toNat

theorem size_pos (f : Filters) (hsize : 1 ≤ f.pageSize.toInt) : 0 < f.size := by
  unfold size
  omega

/-- The number of rows before the page. -/
def skipped (f : Filters) : Nat := (f.page.toInt - 1).toNat * f.size

theorem toInt_offset {f : Filters} (hsize : 1 ≤ f.pageSize.toInt) :
    f.offset.toInt = min (f.skipped : ℤ) (2 ^ 63 - 1) := by
  have hskipped : max (f.page.toInt - 1) 0 * f.pageSize.toInt = f.skipped := by
    rw [skipped, size, Nat.cast_mul, Int.toNat_of_nonneg (by omega : 0 ≤ f.pageSize.toInt),
      Int.toNat_eq_max]
  have hmin : Int64.minValue.toInt ≤ f.skipped := by
    have hneg : Int64.minValue.toInt ≤ 0 := by decide
    omega
  rw [offset, hskipped]
  by_cases hmax : (f.skipped : ℤ) ≤ Int64.maxValue.toInt
  · rw [Int64.toInt_ofIntClamp hmin hmax, min_eq_left]
    rwa [Int64.toInt_maxValue] at hmax
  · have hclamp : Int64.ofIntClamp f.skipped = Int64.maxValue := by
      rw [Int64.ofIntClamp, dif_pos hmin, dif_neg hmax]
    rw [hclamp, Int64.toInt_maxValue, min_eq_right]
    rw [Int64.toInt_maxValue] at hmax
    omega

/-- An offset that 64 bits cannot count is behind all rows. -/
theorem window_eq {α : Type} {f : Filters} {rows : List α} (hsize : 1 ≤ f.pageSize.toInt)
    (hrows : rows.length < 2 ^ 63) : f.window rows = (rows.drop f.skipped).take f.size := by
  have hoffset := toInt_offset hsize
  have hdrop : rows.drop f.offset.toInt.toNat = rows.drop f.skipped := by
    by_cases hmax : f.skipped < 2 ^ 63
    · rw [hoffset, min_eq_left (by omega), Int.toNat_natCast]
    · rw [List.drop_of_length_le (by omega), List.drop_of_length_le (by omega)]
  rw [window, hdrop]
  rfl

end Filters

/-! ## The last page -/

/-- What the metadata of a page say when there are so many rows. -/
structure Metadata.Describes (m : Metadata) (f : Filters) (total : Nat) : Prop where
  currentPage : m.currentPage = f.page
  pageSize : m.pageSize = f.pageSize
  firstPage : m.firstPage = 1
  lastPage : m.lastPage.toInt = total ⌈/⌉ f.size
  totalRecords : m.totalRecords.toInt = total

section
variable (total : Nat) {size : Nat} (hsize : 0 < size)
include hsize

theorem lt_lastPage_iff (page : Nat) : page < total ⌈/⌉ size ↔ page * size < total := by
  rw [← not_le, ceilDiv_le_iff_le_mul hsize, not_le, Nat.mul_comm]

theorem le_lastPage_mul : total ≤ total ⌈/⌉ size * size := by
  rw [Nat.mul_comm]
  exact (ceilDiv_le_iff_le_mul hsize).mp le_rfl

theorem lastPage_le : total ⌈/⌉ size ≤ total :=
  (ceilDiv_le_iff_le_mul hsize).mpr (Nat.le_mul_of_pos_left total hsize)

theorem isLeast_lastPage :
    IsLeast {page : ℤ | (total : ℤ) ≤ page * size} (total ⌈/⌉ size : ℕ) := by
  refine ⟨?_, fun page hpage => ?_⟩
  · show (total : ℤ) ≤ (total ⌈/⌉ size : ℕ) * size
    exact_mod_cast le_lastPage_mul total hsize
  · have htotal : (total : ℤ) ≤ page * size := hpage
    -- The product with a negative page is negative.
    have hnonneg : 0 ≤ page := by
      by_contra hneg
      have hproduct : page * size < 0 := Int.mul_neg_of_neg_of_pos (by omega) (by omega)
      omega
    obtain ⟨page, rfl⟩ := Int.eq_ofNat_of_zero_le hnonneg
    have hnot : ¬page * size < total := by
      rw [not_lt]
      exact_mod_cast htotal
    exact_mod_cast not_lt.mp fun hlt => hnot ((lt_lastPage_iff total hsize page).mp hlt)

theorem part_of_list {α : Type} (xs : List α) (before : Nat) :
    let part := (xs.drop (before * size)).take size
    (before < xs.length ⌈/⌉ size → part ≠ [] ∧ part.length ≤ size ∧
        (before + 1 < xs.length ⌈/⌉ size → part.length = size)) ∧
      (xs.length ⌈/⌉ size ≤ before → part = []) := by
  intro part
  have hlength : part.length = min size (xs.length - before * size) := by
    rw [List.length_take, List.length_drop]
  have hsome := lt_lastPage_iff xs.length hsize before
  have hnext := lt_lastPage_iff xs.length hsize (before + 1)
  rw [Nat.succ_mul] at hnext
  refine ⟨fun hbefore => ⟨?_, by omega, fun hlast => ?_⟩, fun hbehind => ?_⟩
  · have hlt := hsome.mp hbefore
    rw [← List.length_pos_iff]
    omega
  · have hlt := hnext.mp hlast
    omega
  · have hge := mt hsome.mpr (by omega)
    rw [← List.length_eq_zero_iff]
    omega

end

/-- What the metadata say of a count, a page and a page size, whatever these are. The last page is
the last one with a record on it, unless the count and the size are too large together: then the sum
has wrapped, and the last page is none that could be asked for. -/
structure Metadata.Summarizes (m : Metadata) (total page pageSize : Int64) : Prop where
  nothing : total.toInt ≤ 0 ∨ pageSize.toInt ≤ 0 → m = ⟨0, 0, 0, 0, 0⟩
  given : 0 < total.toInt → 0 < pageSize.toInt →
    m.currentPage = page ∧ m.pageSize = pageSize ∧ m.firstPage = 1 ∧ m.totalRecords = total
  least : 0 < total.toInt → 0 < pageSize.toInt → total.toInt + pageSize.toInt - 1 < 2 ^ 63 →
    IsLeast {last : ℤ | total.toInt ≤ last * pageSize.toInt} m.lastPage.toInt
  wrapped : 0 < total.toInt → 0 < pageSize.toInt → 2 ^ 63 ≤ total.toInt + pageSize.toInt - 1 →
    m.lastPage.toInt = (total.toInt + pageSize.toInt - 1 - 2 ^ 64).tdiv pageSize.toInt ∧
      m.lastPage.toInt ≤ 0

namespace Metadata

section
variable {total pageSize : Int64} (page : Int64) (htotal : 0 < total.toInt)
  (hsize : 0 < pageSize.toInt)
include htotal hsize

theorem ofTotal_of_pos : ofTotal total page pageSize =
    ⟨page, pageSize, 1, (total + pageSize - 1) / pageSize, total⟩ := by
  refine if_neg ?_
  rw [Int64.le_iff_toInt_le, Int64.le_iff_toInt_le, Int64.toInt_zero]
  omega

theorem toInt_lastPage : (ofTotal total page pageSize).lastPage.toInt =
    ((total.toInt + pageSize.toInt - 1).bmod (2 ^ 64)).tdiv pageSize.toInt := by
  have hne : pageSize ≠ -1 := by
    rintro rfl
    exact absurd hsize (by decide)
  have hone : (1 : Int64).toInt = 1 := rfl
  rw [ofTotal_of_pos page htotal hsize, Int64.toInt_div_of_ne_right _ _ hne, Int64.toInt_sub,
    Int64.toInt_add, hone, Int.bmod_sub_bmod]

theorem lastPage_of_fits (hfits : total.toInt + pageSize.toInt - 1 < 2 ^ 63) :
    (ofTotal total page pageSize).lastPage.toInt =
      (total.toInt.toNat ⌈/⌉ pageSize.toInt.toNat : ℕ) := by
  obtain ⟨t, ht⟩ := Int.eq_ofNat_of_zero_le htotal.le
  obtain ⟨n, hn⟩ := Int.eq_ofNat_of_zero_le hsize.le
  have hpred : (t : ℤ) + n - 1 = (t + n - 1 : ℕ) := by omega
  rw [toInt_lastPage page htotal hsize, Int.bmod_eq_of_le (by omega) (by omega), ht, hn, hpred,
    Int.tdiv_eq_ediv_of_nonneg (Int.natCast_nonneg _)]
  exact (Int.natCast_div ..).symm

theorem lastPage_of_wraps (hwraps : 2 ^ 63 ≤ total.toInt + pageSize.toInt - 1) :
    (ofTotal total page pageSize).lastPage.toInt =
      (total.toInt + pageSize.toInt - 1 - 2 ^ 64).tdiv pageSize.toInt := by
  have htotal' := total.toInt_lt
  have hsize' := pageSize.toInt_lt
  have hmod : (total.toInt + pageSize.toInt - 1).bmod (2 ^ 64) =
      total.toInt + pageSize.toInt - 1 - 2 ^ 64 := by
    rw [← Int.sub_bmod_right]
    exact Int.bmod_eq_of_le (by omega) (by omega)
  rw [toInt_lastPage page htotal hsize, hmod]

end

theorem summarizes_ofTotal (total page pageSize : Int64) :
    (ofTotal total page pageSize).Summarizes total page pageSize where
  nothing h := by
    refine if_pos ?_
    rwa [Int64.le_iff_toInt_le, Int64.le_iff_toInt_le, Int64.toInt_zero]
  given htotal hsize := by
    rw [ofTotal_of_pos page htotal hsize]
    exact ⟨rfl, rfl, rfl, rfl⟩
  least htotal hsize hfits := by
    rw [lastPage_of_fits page htotal hsize hfits]
    have hleast := isLeast_lastPage total.toInt.toNat (by omega : 0 < pageSize.toInt.toNat)
    rwa [Int.toNat_of_nonneg htotal.le, Int.toNat_of_nonneg hsize.le] at hleast
  wrapped htotal hsize hwraps := by
    have hlast := lastPage_of_wraps page htotal hsize hwraps
    have htotal' := total.toInt_lt
    have hsize' := pageSize.toInt_lt
    refine ⟨hlast, ?_⟩
    rw [hlast, ← neg_neg (total.toInt + pageSize.toInt - 1 - 2 ^ 64), Int.neg_tdiv]
    have hquotient := Int.tdiv_nonneg
      (by omega : 0 ≤ -(total.toInt + pageSize.toInt - 1 - 2 ^ 64)) hsize.le
    omega

example : (ofTotal 2 1 Int64.maxValue).lastPage = -1 := by decide

end Metadata

theorem describes_ofTotal {f : Filters} {total : Nat} (hsize : 1 ≤ f.pageSize.toInt)
    (hbound : total + f.pageSize.toInt - 1 < 2 ^ 63) (htotal : 0 < total) :
    (Metadata.ofTotal (Int64.ofNat total) f.page f.pageSize).Describes f total := by
  have hcount : (Int64.ofNat total).toInt = total := Int64.toInt_ofNat_of_lt (by omega)
  have hpos : 0 < (Int64.ofNat total).toInt := by omega
  have hlast := Metadata.lastPage_of_fits f.page hpos hsize (by rwa [hcount])
  rw [hcount, Int.toNat_natCast] at hlast
  obtain ⟨hpage, hpageSize, hfirst, hrecords⟩ :=
    (Metadata.summarizes_ofTotal (Int64.ofNat total) f.page f.pageSize).given hpos hsize
  exact ⟨hpage, hpageSize, hfirst, hlast, by rw [hrecords, hcount]⟩

/-! ## Rows of a listing -/

variable {σ μ α : Type}

/-- A row of a listing: the number of all rows, and then a record. -/
structure Listed [Mapped α] (fresh : α) (total : Int64) (row : Row) (a : α) : Prop where
  count : row.get? 0 = some (ScalarType.int64.bind total)
  record : Cursor.scan ⟨row, 1⟩ fresh = .ok a

section
variable [Mapped α] {fresh : α} {total : Int64} {rows : List Row} {records : List α}

omit [Mapped α] in
theorem nextAs_of_count {row : Row} (h : row.get? 0 = some (ScalarType.int64.bind total)) :
    row.cursor.nextAs .int64 = (.ok total, ⟨row, 1⟩) := by
  simp only [Cursor.nextAs, Cursor.next, Row.cursor, h]
  rfl

theorem Listed.counted {row : Row} {a : α} (h : Listed fresh total row a) :
    row.counted fresh = .ok (total, a) := by
  simp only [Row.counted, nextAs_of_count h.count, h.record]
  rfl

/-- The own row of a record behind the count is a row of a listing. -/
theorem listed_of_rowValues (hkeyed : (Mapped.shape α).fields.Keyed)
    (r : Record (Mapped.shape α)) (halike : Tree.Alike _ r (Mapped.toRecord fresh))
    (names : List String) :
    ∃ values g, r.rowValues? = some values ∧
      Listed fresh total ⟨names, ScalarType.int64.bind total :: values⟩ (Mapped.ofRecord g) ∧
      Tree.AgreeOn InColumn _ r g := by
  obtain ⟨vs, ws, g, hvs, hws, htakes, hagree, -⟩ :=
    Tree.rescans (Mapped.shape α).typeName hkeyed halike fun _ => Tree.rescansInner _ hkeyed
  refine ⟨vs ++ ws, g, ?_, ⟨rfl, ?_⟩, hagree⟩
  · simp only [Record.rowValues?, hvs, hws]
    rfl
  · have hscan : (Mapped.toRecord fresh).scan
        ⟨⟨names, ScalarType.int64.bind total :: (vs ++ ws)⟩, 1⟩ = _ :=
      htakes ⟨⟨names, ScalarType.int64.bind total :: (vs ++ ws)⟩, 1⟩ [] (by simp)
    simp only [Cursor.scan, hscan]

theorem readRows_eq (h : List.Forall₂ (Listed fresh total) rows records) (start : Int64) :
    readRows fresh start rows = .ok (if rows = [] then start else total, records) := by
  induction h generalizing start with
  | nil => rfl
  | cons hrow hrest ih =>
    rw [readRows, hrow.counted]
    dsimp only
    rw [ih total, if_neg (List.cons_ne_nil _ _)]
    simp only [ite_self]
    rfl

end

/-! ## Reading a page -/

namespace Action

variable [Server σ]

/-- Reads so many pages, one after the other. -/
def pages [Mapped α] (statement : Filters → Statement) (f : Filters) (fresh : α) :
    Nat → Nat → Action σ μ (List α)
  | 0, _ => return []
  | count + 1, first => do
    let f' := f.onPage (Int64.ofNat first)
    let (records, _) ← page (statement f') f' fresh
    return records ++ (← pages statement f fresh count (first + 1))

theorem page_apply [Mapped α] {stmt : Statement} {f : Filters} {fresh : α} {s : Session σ μ}
    {server : σ} {rows : List Row} {total : Int64} {records : List α}
    (hquery : Server.query stmt s.server = (.ok rows, server))
    (hread : readRows fresh 0 rows = .ok (total, records)) :
    page stmt f fresh s = (.ok (records, .ofTotal total f.page f.pageSize),
      (s.logged (.ofStatement stmt)).asked stmt server) := by
  have hasked := query_apply stmt (s.logged (.ofStatement stmt))
  rw [Session.logged_server, hquery] at hasked
  refine (bind_of_ok (emit_apply _ s) _).trans ((bind_of_ok hasked _).trans ?_)
  rw [hread]
  rfl

end Action

/-- A server that is ready answers with the window of the page, and is ready again. -/
def ServesPages [Server σ] (statement : Filters → Statement) (f : Filters) (rows : List Row)
    (Ready : σ → Prop) : Prop :=
  ∀ (page : Int64) server, 1 ≤ page.toInt → Ready server → ∃ server',
    Server.query (statement (f.onPage page)) server =
        (.ok ((f.onPage page).window rows), server') ∧
      Ready server'

section
variable [Server σ] [Mapped α] {statement : Filters → Statement} {f : Filters} {rows : List Row}
  {Ready : σ → Prop} {fresh : α} {records : List α}
  (hserves : ServesPages statement f rows Ready)
  (hlisted : List.Forall₂ (Listed fresh (Int64.ofNat rows.length)) rows records)
  (hsize : 1 ≤ f.pageSize.toInt) (hbound : rows.length + f.pageSize.toInt - 1 < 2 ^ 63)
include hserves hlisted hsize hbound

theorem page_of_listing (page : Int64) (s : Session σ μ) (hpage : 1 ≤ page.toInt)
    (hready : Ready s.server) :
    ∃ total s', Action.page (statement (f.onPage page)) (f.onPage page) fresh s =
        (.ok ((records.drop (f.onPage page).skipped).take f.size,
          .ofTotal total page f.pageSize), s') ∧
      Ready s'.server ∧
      ((f.onPage page).skipped < rows.length → total = Int64.ofNat rows.length) := by
  obtain ⟨server, hquery, hready'⟩ := hserves page s.server hpage hready
  have hwindow : List.Forall₂ (Listed fresh (Int64.ofNat rows.length))
      ((rows.drop (f.onPage page).skipped).take f.size)
      ((records.drop (f.onPage page).skipped).take f.size) :=
    List.forall₂_take _ (List.forall₂_drop _ hlisted)
  rw [Filters.window_eq (f := f.onPage page) hsize (by omega)] at hquery
  refine ⟨_, _, Action.page_apply hquery (readRows_eq hwindow 0), hready', fun hskipped => ?_⟩
  have hpos := f.size_pos hsize
  refine if_neg fun hnil => ?_
  have hlength := congrArg List.length hnil
  rw [List.length_take, List.length_drop, List.length_nil] at hlength
  have hsame : (f.onPage page).size = f.size := rfl
  omega

theorem pages_of_listing (count : Nat) (skipped : Nat) (s : Session σ μ)
    (hpages : skipped + count < 2 ^ 63) (hready : Ready s.server) :
    ∃ s', Action.pages statement f fresh count (skipped + 1) s =
        (.ok ((records.drop (skipped * f.size)).take (count * f.size)), s') ∧
      Ready s'.server := by
  induction count generalizing skipped s with
  | zero =>
    rw [Nat.zero_mul, List.take_zero]
    exact ⟨s, rfl, hready⟩
  | succ count ih =>
    have hpage : (Int64.ofNat (skipped + 1)).toInt = skipped + 1 :=
      Int64.toInt_ofNat_of_lt (by omega)
    obtain ⟨total, s₁, hread, hready₁, -⟩ :=
      page_of_listing hserves hlisted hsize hbound (Int64.ofNat (skipped + 1)) s (by omega) hready
    obtain ⟨s', hrest, hready'⟩ := ih (skipped + 1) s₁ (by omega) hready₁
    have hskipped : (f.onPage (Int64.ofNat (skipped + 1))).skipped = skipped * f.size := by
      rw [Filters.skipped]
      have : (f.onPage (Int64.ofNat (skipped + 1))).page.toInt = skipped + 1 := hpage
      rw [this, Int.add_sub_cancel, Int.toNat_natCast]
      rfl
    rw [hskipped] at hread
    have hnext : (skipped + 1) * f.size = skipped * f.size + f.size := Nat.succ_mul ..
    have hcount : (count + 1) * f.size = f.size + count * f.size := by
      rw [Nat.succ_mul, Nat.add_comm]
    refine ⟨s', ?_, hready'⟩
    refine (Action.bind_of_ok hread _).trans ((Action.bind_of_ok hrest _).trans ?_)
    rw [hcount, List.take_add, List.drop_drop, hnext]
    rfl

end

/-- Who reads the pages up to the last one reads every row once, in order. Every page up to there
has rows, all but the last one as many as fit, and says how many rows and pages there are. The pages
behind are empty. -/
theorem walk_reads_every_row [Server σ] [Mapped α] {statement : Filters → Statement} {f : Filters}
    {rows : List Row} {Ready : σ → Prop} {fresh : α} {records : List α}
    (hserves : ServesPages statement f rows Ready)
    (hlisted : List.Forall₂ (Listed fresh (Int64.ofNat rows.length)) rows records)
    (hsize : 1 ≤ f.pageSize.toInt) (hbound : rows.length + f.pageSize.toInt - 1 < 2 ^ 63) :
    let last := rows.length ⌈/⌉ f.size
    IsLeast {page : ℤ | rows.length ≤ page * f.pageSize.toInt} last ∧
      (∀ s : Session σ μ, Ready s.server → ∃ s',
        Action.pages statement f fresh last 1 s = (.ok records, s') ∧ Ready s'.server) ∧
      ∀ (page : Int64) (s : Session σ μ), 1 ≤ page.toInt → Ready s.server → ∃ found m s',
        Action.page (statement (f.onPage page)) (f.onPage page) fresh s = (.ok (found, m), s') ∧
          Ready s'.server ∧
          (page.toInt ≤ last → m.Describes (f.onPage page) rows.length ∧ found ≠ [] ∧
            found.length ≤ f.size ∧ (page.toInt < last → found.length = f.size)) ∧
          (last < page.toInt → found = []) := by
  have hpos : 0 < f.size := f.size_pos hsize
  have hcast : (f.size : ℤ) = f.pageSize.toInt := Int.toNat_of_nonneg (by omega)
  have hlength : rows.length = records.length := hlisted.length_eq
  refine ⟨hcast ▸ isLeast_lastPage rows.length hpos, fun s hready => ?_,
    fun page s hpage hready => ?_⟩
  · have hle := lastPage_le rows.length hpos
    obtain ⟨s', hpages, hready'⟩ := pages_of_listing hserves hlisted hsize hbound
      (rows.length ⌈/⌉ f.size) 0 s (by omega) hready
    have hcover : records.length ≤ rows.length ⌈/⌉ f.size * f.size :=
      hlength ▸ le_lastPage_mul rows.length hpos
    rw [Nat.zero_mul, List.drop_zero, List.take_of_length_le hcover] at hpages
    exact ⟨s', hpages, hready'⟩
  · obtain ⟨total, s', hread, hready', htotal⟩ :=
      page_of_listing hserves hlisted hsize hbound page s hpage hready
    obtain ⟨hsome, hnone⟩ := part_of_list hpos records (page.toInt - 1).toNat
    rw [← hlength] at hsome hnone
    refine ⟨_, _, s', hread, hready', fun hle => ?_, fun hlt => hnone (by omega)⟩
    obtain ⟨hfound, hfits, hfull⟩ := hsome (by omega)
    have hskipped : (f.onPage page).skipped < rows.length :=
      (lt_lastPage_iff rows.length hpos (page.toInt - 1).toNat).mp (by omega)
    rw [htotal hskipped]
    refine ⟨describes_ofTotal (f := f.onPage page) hsize hbound (by omega), hfound, hfits,
      fun hlast => hfull (by omega)⟩

/-! ## A shelf of readers -/

namespace Bookshelf

/-- A table that is read in parts: the limit and the offset are the values of the statement. -/
structure ReaderTable where
  rows : List Row

instance : Server ReaderTable where
  execute _ table := (.error (.query "the table is only read"), table)
  query stmt table :=
    match stmt.values with
    | [.of (.bigInt limit), .of (.bigInt offset)] =>
      (.ok ((table.rows.drop offset.toInt.toNat).take limit.toInt.toNat), table)
    | _ => (.error (.query "the table is read with a limit and an offset"), table)

def readersStatement (f : Filters) : Statement where
  sql := "SELECT count(*) OVER(), id, name, email FROM users ORDER BY id LIMIT $1 OFFSET $2"
  values := [ScalarType.int64.bind f.limit, ScalarType.int64.bind f.offset]

def readers : List User :=
  [⟨1, "Ada", "ada@example.org"⟩, ⟨2, "Bea", "bea@example.org"⟩, ⟨3, "Cyd", "cyd@example.org"⟩]

def readerRow (total : Int64) (u : User) : Row :=
  .ofValues [ScalarType.int64.bind total, ScalarType.int64.bind u.id, ScalarType.text.bind u.name,
    ScalarType.text.bind u.email]

theorem readerTable_servesPages (f : Filters) :
    ServesPages readersStatement f (readers.map (readerRow 3))
      fun table : ReaderTable => table.rows = readers.map (readerRow 3) := by
  intro page table _ hready
  refine ⟨table, ?_, hready⟩
  rw [← hready]
  rfl

theorem listed_readerRow (total : Int64) (u : User) :
    Listed ({} : User) total (readerRow total u) u := ⟨rfl, rfl⟩

theorem readers_walked :
    let f : Filters := { pageSize := 2 }
    ServesPages readersStatement f (readers.map (readerRow 3))
        (fun table : ReaderTable => table.rows = readers.map (readerRow 3)) ∧
      List.Forall₂ (Listed ({} : User) (Int64.ofNat (readers.map (readerRow 3)).length))
        (readers.map (readerRow 3)) readers ∧
      1 ≤ f.pageSize.toInt ∧ (readers.map (readerRow 3)).length + f.pageSize.toInt - 1 < 2 ^ 63 ∧
      ∃ s', Action.pages readersStatement f ({} : User) 2 1
        (⟨⟨readers.map (readerRow 3)⟩, (), []⟩ : Session ReaderTable Unit) =
          (.ok readers, s') := by
  have hserves := readerTable_servesPages { pageSize := 2 }
  have hlisted : List.Forall₂ (Listed ({} : User) (Int64.ofNat (readers.map (readerRow 3)).length))
      (readers.map (readerRow 3)) readers :=
    .cons (listed_readerRow 3 _) (.cons (listed_readerRow 3 _) (.cons (listed_readerRow 3 _) .nil))
  refine ⟨hserves, hlisted, by decide, by decide, ?_⟩
  obtain ⟨-, hwalk, -⟩ := walk_reads_every_row hserves hlisted (by decide) (by decide)
  let s : Session ReaderTable Unit := ⟨⟨readers.map (readerRow 3)⟩, (), []⟩
  obtain ⟨s', hread, -⟩ := hwalk s rfl
  exact ⟨s', hread⟩

end Bookshelf

end RowMap
