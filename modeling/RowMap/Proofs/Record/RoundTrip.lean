import RowMap.Bookshelf.Exchange
import RowMap.Proofs.Record.Paths

/-!
# Converting there and back

A record converted into a compatible type and back again has kept what could be carried over.
-/

namespace RowMap

open RowMap.Tree (Entry)
open Conversion (fillField fillFound extend)

namespace Tree

/-- What is present in the first record and has counterparts all the way down is the same in the
second, and so is what is absent where the counterpart can be absent too. -/
def Kept (tag : String) : (fs gs : Fields) → Tree fs → Tree fs → Prop
  | .nil, _, _, _ => True
  | .scalar info t rest, gs, (x, more), (y, more') =>
    (∀ g ∈ gs.all, (Field.scalar info t).Counterpart tag g → y = x) ∧ Kept tag rest gs more more'
  | .optional info t rest, gs, (x, more), (y, more') =>
    (∀ g ∈ gs.all, (Field.optional info t).Counterpart tag g →
      x.isSome ∨ g.isOptional → y = x) ∧ Kept tag rest gs more more'
  | .record info name table inner rest, gs, (x, more), (y, more') =>
    (∀ g ∈ gs.all, (Field.record info name table inner).Counterpart tag g →
      ∀ inner', g.inner? = some inner' → Kept tag inner inner' x y) ∧ Kept tag rest gs more more'
  | .reference info name table inner rest, gs, (x, more), (y, more') =>
    (∀ g ∈ gs.all, (Field.reference info name table inner).Counterpart tag g →
      ∀ inner', g.inner? = some inner' →
        (∀ r, x = some r → ∃ r', y = some r' ∧ Kept tag inner inner' r r') ∧
        (x = none → g.isOptional → y = none)) ∧ Kept tag rest gs more more'

variable [Defaults]

/-- Records of the one type keep what they can when they are converted into the other and back. -/
def GoesBack (tag : String) (fs gs : Fields) : Prop :=
  ∀ (name name' table table' path path' : String) (a : Tree fs) (b₀ : Tree gs) (a₀ : Tree fs),
    Fresh gs b₀ → Fresh fs a₀ →
    Kept tag fs gs a (Conversion.fields tag ⟨name', table', gs⟩
      (Conversion.fields tag ⟨name, table, fs⟩ a path gs b₀).value path' fs a₀).value

variable {tag : String} {d : Shape}

theorem kept_of_filled (hd : d.fields.Unambiguous tag) (b : Record d) (path : String) (fs : Fields)
    (htypes : ∀ f ∈ fs.all, ∀ g ∈ d.fields.all, f.Counterpart tag g → f.type? = g.type?)
    (hrecords : ∀ f ∈ fs.all, ∀ g ∈ d.fields.all, f.Counterpart tag g → ∀ inner inner',
      f.inner? = some inner → g.inner? = some inner' → GoesBack tag inner inner')
    (hstart : ∀ f ∈ fs.all, f.StartsFresh) (hstart' : ∀ g ∈ d.fields.all, g.StartsFresh)
    {a old : Tree fs} (hfresh : Fresh fs old)
    (hfilled : ∀ e ∈ entries fs a, ∀ x ∈ entries d.fields b,
      e.field.Counterpart tag x.field → e.Filled tag x) :
    Kept tag fs d.fields a (Conversion.fields tag d b path fs old).value := by
  -- Only the fields to fill become fewer: each of them finds its counterpart in the whole of `b`.
  induction fs with
  | nil => trivial
  | scalar info t rest ih =>
    obtain ⟨v, more⟩ := a
    obtain ⟨v₀, more₀⟩ := old
    obtain ⟨htype, htypes⟩ := List.forall_mem_cons.mp htypes
    obtain ⟨-, hrecords⟩ := List.forall_mem_cons.mp hrecords
    obtain ⟨hcreated, hstart⟩ := List.forall_mem_cons.mp hstart
    obtain ⟨hfill, hfilled⟩ := List.forall_mem_cons.mp hfilled
    rw [Conversion.fields_scalar]
    refine ⟨fun g hg hsame => ?_, ih htypes hrecords hstart hfresh hfilled⟩
    obtain ⟨x, hx, rfl⟩ := exists_entry b hg
    have hview := (hfill x hx hsame).view_scalar rfl (htype _ hg hsame).symm
    rw [hd.fillFound_eq (x := ⟨.scalar info t, v₀⟩) hx hsame.symm, Entry.source, hview]
    simp only [fillField, cast?_self]
    rfl
  | optional info t rest ih =>
    obtain ⟨v, more⟩ := a
    obtain ⟨v₀, more₀⟩ := old
    obtain ⟨rfl, hfresh⟩ : v₀ = none ∧ Fresh rest more₀ := hfresh
    obtain ⟨htype, htypes⟩ := List.forall_mem_cons.mp htypes
    obtain ⟨-, hrecords⟩ := List.forall_mem_cons.mp hrecords
    obtain ⟨hcreated, hstart⟩ := List.forall_mem_cons.mp hstart
    obtain ⟨hfill, hfilled⟩ := List.forall_mem_cons.mp hfilled
    rw [Conversion.fields_optional]
    refine ⟨fun g hg hsame hkept => ?_, ih htypes hrecords hstart hfresh hfilled⟩
    obtain ⟨x, hx, rfl⟩ := exists_entry b hg
    rw [hd.fillFound_eq (x := ⟨.optional info t, none⟩) hx hsame.symm]
    cases v with
    | some v =>
      have hview := (hfill x hx hsame).view_scalar rfl (htype _ hg hsame).symm
      rw [Entry.source, hview]
      simp only [fillField, cast?_self]
      rfl
    | none =>
      have hoptional : x.field.isOptional := by simpa using hkept
      rw [fill_absent ((hfill x hx hsame).view_absent rfl hoptional)]
  | record info name table inner rest _ ih =>
    obtain ⟨v, more⟩ := a
    obtain ⟨v₀, more₀⟩ := old
    obtain ⟨-, htypes⟩ := List.forall_mem_cons.mp htypes
    obtain ⟨hback, hrecords⟩ := List.forall_mem_cons.mp hrecords
    obtain ⟨hcreated, hstart⟩ := List.forall_mem_cons.mp hstart
    obtain ⟨hfill, hfilled⟩ := List.forall_mem_cons.mp hfilled
    rw [Conversion.fields_record]
    refine ⟨fun g hg hsame inner' hinner => ?_, ih htypes hrecords hstart hfresh.2 hfilled⟩
    obtain ⟨x, hx, rfl⟩ := exists_entry b hg
    obtain ⟨p, u, name', table', hu, hview⟩ :=
      (hfill x hx hsame).view_record rfl hinner (hstart' _ hg)
    rw [hd.fillFound_eq (x := ⟨.record info name table inner, v₀⟩) hx hsame.symm, Entry.source,
      hview]
    exact hback _ hg hsame inner inner' rfl hinner name name' table table' p _ v u v₀ hu hfresh.1
  | reference info name table inner rest _ ih =>
    obtain ⟨v, more⟩ := a
    obtain ⟨v₀, more₀⟩ := old
    obtain ⟨rfl, hfresh⟩ : v₀ = none ∧ Fresh rest more₀ := hfresh
    obtain ⟨-, htypes⟩ := List.forall_mem_cons.mp htypes
    obtain ⟨hback, hrecords⟩ := List.forall_mem_cons.mp hrecords
    obtain ⟨hcreated, hstart⟩ := List.forall_mem_cons.mp hstart
    obtain ⟨hfill, hfilled⟩ := List.forall_mem_cons.mp hfilled
    rw [Conversion.fields_reference]
    refine ⟨fun g hg hsame inner' hinner => ?_, ih htypes hrecords hstart hfresh hfilled⟩
    obtain ⟨x, hx, rfl⟩ := exists_entry b hg
    rw [hd.fillFound_eq (x := ⟨.reference info name table inner, none⟩) hx hsame.symm]
    constructor
    · rintro r rfl
      obtain ⟨p, u, name', table', hu, hview⟩ :=
        (hfill x hx hsame).view_record rfl hinner (hstart' _ hg)
      rw [Entry.source, hview]
      exact ⟨_, rfl, hback _ hg hsame inner inner' rfl hinner name name' table table' p _ r u
        (Defaults.record ⟨name, table, inner⟩) hu hcreated⟩
    · rintro rfl hoptional
      rw [fill_absent ((hfill x hx hsame).view_absent rfl hoptional)]

theorem goesBack {fs gs : Fields} (h : Compatible tag fs gs) (hfs : fs.StartsFresh)
    (hgs : gs.StartsFresh) : GoesBack tag fs gs := by
  induction h with
  | @intro fs gs left right types records ih =>
    intro name name' table table' path path' a b₀ a₀ hb₀ ha₀
    obtain ⟨hfields, hinner⟩ := hfs
    obtain ⟨hfields', hinner'⟩ := hgs
    have hrecords : ∀ f ∈ fs.all, ∀ g ∈ gs.all, f.Counterpart tag g → ∀ inner inner',
        f.inner? = some inner → g.inner? = some inner' → GoesBack tag inner inner' := by
      intro f hf g hg hsame inner inner' hto hfrom
      exact ih f hf g hg hsame inner inner' hto hfrom (hinner f hf inner hto)
        (hinner' g hg inner' hfrom)
    exact kept_of_filled (d := ⟨name', table', gs⟩) right _ path' fs types hrecords hfields hfields'
      ha₀ (filled_of_fields (s := ⟨name, table, fs⟩) left a path hb₀)

end Tree

/-- A record is converted into a fresh one of a compatible type, and that into a fresh one of its
own type, and the records that are created inside of them start fresh too. What is present and has
counterparts all the way down has come back, and what is absent has not appeared where its
counterpart can be absent. No issue is about a field that has counterparts all the way down. -/
theorem Record.convert_there_and_back [Defaults] {tag : String} {s d : Shape}
    (h : Compatible tag s.fields d.fields) (a : Record s) {b₀ : Record d} {a₀ : Record s}
    (hb₀ : Tree.Fresh d.fields b₀) (ha₀ : Tree.Fresh s.fields a₀)
    (hd : d.fields.StartsFresh) (hs : s.fields.StartsFresh) :
    let there := a.convertInto tag b₀
    let back := there.value.convertInto tag a₀
    Tree.Kept tag s.fields d.fields a back.value ∧
      (d.fields.Named → ∀ issue ∈ there.report, ∀ names, Met tag d.fields s.fields names →
        issue.path ≠ Conversion.pathTo "" names) ∧
      (s.fields.Named → ∀ issue ∈ back.report, ∀ names, Met tag s.fields d.fields names →
        issue.path ≠ Conversion.pathTo "" names) := by
  intro there back
  refine ⟨?_, ?_, ?_⟩
  · exact Tree.goesBack h hs hd s.typeName d.typeName s.table d.table "" "" a b₀ a₀ hb₀ ha₀
  · intro hnamed issue hissue names hmet
    exact a.path_ne_of_met h.symm hnamed b₀ hissue hmet
  · intro hnamed issue hissue names hmet
    exact there.value.path_ne_of_met h hnamed a₀ hissue hmet

namespace Bookshelf

theorem users_compatible : Compatible exchangeTag User.fields UserDto.fields := by
  have hflat : ∀ f ∈ User.fields.all, f.inner? = none := by decide
  refine .intro ⟨by decide, by decide⟩ ⟨by decide, by decide⟩ (by decide) ?_
  intro f hf _ _ _ inner _ hinner
  rw [hflat f hf] at hinner
  cases hinner

theorem books_compatible : Compatible exchangeTag Book.fields BookDto.fields := by
  have hbook : ∀ f ∈ Book.fields.all, ∀ inner ∈ f.inner?, inner = User.fields := by decide
  have hdto : ∀ f ∈ BookDto.fields.all, ∀ inner ∈ f.inner?, inner = UserDto.fields := by decide
  refine .intro ⟨by decide, by decide⟩ ⟨by decide, by decide⟩ (by decide) ?_
  intro f hf g hg _ inner inner' hinner hinner'
  rw [hbook f hf inner hinner, hdto g hg inner' hinner']
  exact users_compatible

theorem named_of_flat {fs : Fields} (names : ∀ f ∈ fs.all, IsIdentifier f.info.name)
    (distinct : (fs.all.map fun f => f.info.name).Nodup) (hflat : ∀ f ∈ fs.all, f.inner? = none) :
    fs.Named := by
  refine .intro names distinct ?_
  intro f hf inner hinner
  rw [hflat f hf] at hinner
  cases hinner

theorem named_of_inner {fs fs' : Fields} (names : ∀ f ∈ fs.all, IsIdentifier f.info.name)
    (distinct : (fs.all.map fun f => f.info.name).Nodup)
    (hinner : ∀ f ∈ fs.all, ∀ inner ∈ f.inner?, inner = fs') (h : fs'.Named) : fs.Named := by
  refine .intro names distinct ?_
  intro f hf inner hsome
  rw [hinner f hf inner hsome]
  exact h

theorem users_named : User.fields.Named :=
  named_of_flat (by decide) (by decide) (by decide)

theorem userDtos_named : UserDto.fields.Named :=
  named_of_flat (by decide) (by decide) (by decide)

theorem books_named : Book.fields.Named :=
  named_of_inner (by decide) (by decide) (by decide) users_named

theorem bookDtos_named : BookDto.fields.Named :=
  named_of_inner (by decide) (by decide) (by decide) userDtos_named

def ownedBook : Book where
  id := 42
  title := "Dune"
  author := "Frank Herbert"
  pages := 412
  description := "Desert planet"
  version := 5
  user := some { id := 3, name := "Ada", email := "ada@example.org" }

theorem ownedBook_comes_back :
    let there := (Mapped.toRecord ownedBook).convertInto exchangeTag
      (Record.initial (Mapped.shape BookDto))
    let back := there.value.convertInto exchangeTag (Record.initial (Mapped.shape Book))
    Compatible exchangeTag Book.fields BookDto.fields ∧
      Tree.Fresh BookDto.fields (Tree.initial BookDto.fields) ∧
      Tree.Fresh Book.fields (Tree.initial Book.fields) ∧
      BookDto.fields.StartsFresh ∧ Book.fields.StartsFresh ∧
      Tree.Kept exchangeTag Book.fields BookDto.fields ownedBook.toTree back.value ∧
      (∀ issue ∈ there.report, ∀ names, Met exchangeTag BookDto.fields Book.fields names →
        issue.path ≠ Conversion.pathTo "" names) ∧
      ∀ issue ∈ back.report, ∀ names, Met exchangeTag Book.fields BookDto.fields names →
        issue.path ≠ Conversion.pathTo "" names := by
  have hto := Tree.fresh_initial BookDto.fields
  have hback := Tree.fresh_initial Book.fields
  have hd := BookDto.fields.startsFresh_initial
  have hs := Book.fields.startsFresh_initial
  obtain ⟨hkept, hthere, hreturn⟩ := Record.convert_there_and_back (s := Mapped.shape Book)
    (d := Mapped.shape BookDto) books_compatible (Mapped.toRecord ownedBook) hto hback
    hd hs
  exact ⟨books_compatible, hto, hback, hd, hs, hkept, hthere bookDtos_named, hreturn books_named⟩

end Bookshelf

end RowMap
