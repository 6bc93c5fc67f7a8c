import RowMap.Proofs.Record.Matching
import Mathlib.Data.List.Nodup

/-!
# Counterparts

Fields of two record types are counterparts when they go by the same name. Where the names of each
type are unambiguous, a conversion fills a field from its counterpart, and a datum that is present
reaches it unchanged.
-/

namespace RowMap

open RowMap.Tree (Entry)
open Conversion (fillField fillFound extend)

namespace Field

/-- The type of a scalar, also when it is optional. -/
def type? : Field → Option FieldType
  | .scalar _ t | .optional _ t => some t
  | .record .. | .reference .. => none

/-- The fields of a record, also when it is optional. -/
def inner? : Field → Option Fields
  | .scalar .. | .optional .. => none
  | .record _ _ _ inner | .reference _ _ _ inner => some inner

def isOptional : Field → Bool
  | .scalar .. | .record .. => false
  | .optional .. | .reference .. => true

/-- The fields go by the same name under a tag. -/
def Counterpart (tag : String) (f g : Field) : Prop := f.info.resolve tag = g.info.resolve tag

instance (tag : String) (f g : Field) : Decidable (f.Counterpart tag g) :=
  inferInstanceAs (Decidable (_ = _))

end Field

/-- No two fields go by the same name, and none is declared under the name of another. -/
structure Fields.Unambiguous (tag : String) (fs : Fields) : Prop where
  distinct : (fs.all.map fun f => f.info.resolve tag).Nodup
  unclaimed : ∀ f ∈ fs.all, ∀ g ∈ fs.all, f.info.name = g.info.resolve tag → f = g

/-- Both types are unambiguous, counterparts are scalars of the same type or records, and the types
of these records are compatible again. -/
inductive Compatible (tag : String) : Fields → Fields → Prop
  | intro {fs gs : Fields} (left : fs.Unambiguous tag) (right : gs.Unambiguous tag)
      (types : ∀ f ∈ fs.all, ∀ g ∈ gs.all, f.Counterpart tag g → f.type? = g.type?)
      (records : ∀ f ∈ fs.all, ∀ g ∈ gs.all, f.Counterpart tag g → ∀ inner inner',
        f.inner? = some inner → g.inner? = some inner' → Compatible tag inner inner') :
      Compatible tag fs gs

theorem Compatible.symm {tag : String} {fs gs : Fields} (h : Compatible tag fs gs) :
    Compatible tag gs fs := by
  induction h with
  | intro left right types records ih =>
    refine .intro right left (fun g hg f hf h => (types f hf g hg h.symm).symm) ?_
    intro g hg f hf h inner inner' hinner hinner'
    exact ih f hf g hg h.symm inner' inner hinner' hinner

/-! ## Finding the counterpart -/

theorem Tree.exists_entry {fs : Fields} (r : Tree fs) {f : Field} (hf : f ∈ fs.all) :
    ∃ e ∈ Tree.entries fs r, e.field = f := by
  rw [← Tree.map_field_entries fs r, List.mem_map] at hf
  exact hf

theorem Tree.field_mem {fs : Fields} {r : Tree fs} {e : Entry} (he : e ∈ Tree.entries fs r) :
    e.field ∈ fs.all := by
  rw [← Tree.map_field_entries fs r]
  exact List.mem_map_of_mem he

namespace Fields.Unambiguous

variable {tag : String} {s : Shape} {r : Record s} {e x : Entry}

theorem field_eq {fs : Fields} (h : fs.Unambiguous tag) {f g : Field} (hf : f ∈ fs.all)
    (hg : g ∈ fs.all) (hsame : f.Counterpart tag g) : f = g :=
  List.inj_on_of_nodup_map h.distinct hf hg hsame

theorem entry_eq (h : s.fields.Unambiguous tag) (he : e ∈ Tree.entries s.fields r)
    (hx : x ∈ Tree.entries s.fields r) (hsame : e.field.Counterpart tag x.field) : e = x := by
  have hdistinct := h.distinct
  rw [← Tree.map_field_entries s.fields r, List.map_map] at hdistinct
  exact List.inj_on_of_nodup_map hdistinct he hx hsame

theorem find?_eq (h : s.fields.Unambiguous tag) (he : e ∈ Tree.entries s.fields r)
    {wanted : String} (hwanted : e.field.info.resolve tag = wanted) :
    Conversion.find? tag s r wanted = some e.source := by
  rw [Conversion.find?_eq]
  cases hdeclared : (Tree.entries s.fields r).find? (Entry.DeclaredAs wanted ·) with
  | some x =>
    -- The field that is declared under the name is the one that goes by it.
    have hx := List.mem_of_find?_eq_some hdeclared
    have hname : Entry.DeclaredAs wanted x := by simpa using List.find?_some hdeclared
    have hfield : x.field = e.field :=
      h.unclaimed _ (Tree.field_mem hx) _ (Tree.field_mem he) (hname.trans hwanted.symm)
    have hsame : x.field.Counterpart tag e.field := by rw [hfield, Field.Counterpart]
    rw [h.entry_eq hx he hsame]
    rfl
  | none =>
    have hsome : ((Tree.entries s.fields r).find? (Entry.GoesBy tag wanted ·)).isSome := by
      rw [List.find?_isSome]
      exact ⟨e, he, decide_eq_true hwanted⟩
    obtain ⟨x, hfound⟩ := Option.isSome_iff_exists.mp hsome
    have hgoes : Entry.GoesBy tag wanted x := by simpa using List.find?_some hfound
    rw [hfound, h.entry_eq (List.mem_of_find?_eq_some hfound) he (hgoes.trans hwanted.symm)]
    rfl

theorem fillFound_eq [Defaults] (h : s.fields.Unambiguous tag) {path : String}
    (he : e ∈ Tree.entries s.fields r) (hsame : e.field.Counterpart tag x.field) :
    fillFound tag r path x =
      fillField tag (some e.source) (extend path x.field.info.name) x.field x.content := by
  rw [fillFound, h.find?_eq he hsame]

end Fields.Unambiguous

/-! ## Filling from the counterpart -/

namespace Tree

@[simp] theorem cast?_self {t : FieldType} (x : t.Carrier) : cast? t x = some x := dif_pos rfl

/-- Nothing is present that may be absent. -/
def Fresh : (fs : Fields) → Tree fs → Prop
  | .nil, _ => True
  | .scalar _ _ rest, (_, more) => Fresh rest more
  | .optional _ _ rest, (x, more) => x = none ∧ Fresh rest more
  | .record _ _ _ inner rest, (r, more) => Fresh inner r ∧ Fresh rest more
  | .reference _ _ _ _ rest, (r, more) => r = none ∧ Fresh rest more

theorem fresh_initial (fs : Fields) : Fresh fs (initial fs) := by
  induction fs with
  | nil => trivial
  | scalar info t rest ih => exact ih
  | optional info t rest ih => exact ⟨rfl, ih⟩
  | record info name table inner rest ihInner ih => exact ⟨ihInner, ih⟩
  | reference info name table inner rest _ ih => exact ⟨rfl, ih⟩

def Entry.Fresh : Entry → Prop
  | ⟨.scalar .., _⟩ => True
  | ⟨.optional .., x⟩ => x = none
  | ⟨.record _ _ _ inner, r⟩ => Tree.Fresh inner r
  | ⟨.reference .., x⟩ => x = none

theorem Fresh.entry {fs : Fields} {r : Tree fs} (h : Fresh fs r) :
    ∀ e ∈ entries fs r, e.Fresh := by
  induction fs with
  | nil =>
    intro e he
    cases he
  | scalar info t rest ih => exact List.forall_mem_cons.mpr ⟨trivial, ih h⟩
  | optional info t rest ih => exact List.forall_mem_cons.mpr ⟨h.1, ih h.2⟩
  | record info name table inner rest _ ih => exact List.forall_mem_cons.mpr ⟨h.1, ih h.2⟩
  | reference info name table inner rest _ ih => exact List.forall_mem_cons.mpr ⟨h.1, ih h.2⟩

end Tree

/-! ## What is created -/

section
variable [Defaults]

/-- What an absent record starts with has nothing in it that may be absent. -/
def Field.StartsFresh : Field → Prop
  | .reference _ name table inner => Tree.Fresh inner (Defaults.record ⟨name, table, inner⟩)
  | .scalar .. | .optional .. | .record .. => True

/-- So it is for every absent record inside of the fields. -/
inductive Fields.StartsFresh : Fields → Prop
  | intro {fs : Fields} (fields : ∀ f ∈ fs.all, f.StartsFresh)
      (records : ∀ f ∈ fs.all, ∀ inner, f.inner? = some inner → inner.StartsFresh) :
      fs.StartsFresh

theorem Fields.startsFresh_of_mem {fs : Fields} (h : ∀ f ∈ fs.all, f.StartsFresh ∧
    ∀ inner, f.inner? = some inner → inner.StartsFresh) : fs.StartsFresh :=
  ⟨fun f hf => (h f hf).1, fun f hf => (h f hf).2⟩

end

theorem Fields.startsFresh_initial (fs : Fields) : fs.StartsFresh := by
  refine startsFresh_of_mem ?_
  induction fs with
  | nil => exact List.forall_mem_nil _
  | scalar info t rest ih | optional info t rest ih =>
    exact List.forall_mem_cons.mpr ⟨⟨trivial, fun _ h => (nomatch h)⟩, ih⟩
  | record info name table inner rest ihInner ih =>
    refine List.forall_mem_cons.mpr ⟨⟨trivial, ?_⟩, ih⟩
    rintro _ ⟨⟩
    exact startsFresh_of_mem ihInner
  | reference info name table inner rest ihInner ih =>
    refine List.forall_mem_cons.mpr ⟨⟨Tree.fresh_initial inner, ?_⟩, ih⟩
    rintro _ ⟨⟩
    exact startsFresh_of_mem ihInner

namespace Tree

variable [Defaults] {tag : String}

theorem fill_absent {x : Entry} (hx : x.view = .absent) (path : String) (f : Field)
    (old : f.Content) : fillField tag (some x.source) path f old = ⟨old, []⟩ := by
  rw [Entry.source, hx]
  cases f <;> rfl

/-- The second field was fresh and is filled from the first. -/
def Entry.Filled (tag : String) (e x : Entry) : Prop :=
  ∃ path old, Entry.Fresh old ∧
    x = ⟨old.field, (fillField tag (some e.source) path old.field old.content).value⟩

namespace Entry.Filled

variable {e x : Entry}

theorem view_scalar (h : e.Filled tag x) {t : FieldType} {a : t.Carrier}
    (he : e.view = .scalar t a) (hx : x.field.type? = some t) : x.view = .scalar t a := by
  obtain ⟨path, ⟨f, old⟩, -, rfl⟩ := h
  rw [source, he]
  cases f with
  | scalar info u | optional info u =>
    cases hx
    simp only [fillField, cast?_self]
    rfl
  | record info name table inner | reference info name table inner => cases hx

theorem view_absent (h : e.Filled tag x) (he : e.view = .absent) (hx : x.field.isOptional) :
    x.view = .absent := by
  obtain ⟨path, ⟨f, old⟩, hfresh, rfl⟩ := h
  rw [source, he]
  cases f with
  | scalar info t | record info name table inner => cases hx
  | optional info t | reference info name table inner =>
    cases hfresh
    rfl

theorem view_record (h : e.Filled tag x) {s : Shape} {r : Tree s.fields} {inner : Fields}
    (he : e.view = .record s r) (hx : x.field.inner? = some inner)
    (hstart : x.field.StartsFresh) :
    ∃ path old name table, Tree.Fresh inner old ∧
      x.view = .record ⟨name, table, inner⟩
        (Conversion.fields tag s r path inner old).value := by
  obtain ⟨path, ⟨f, old⟩, hfresh, rfl⟩ := h
  rw [source, he]
  cases f with
  | scalar info t | optional info t => cases hx
  | record info name table fs =>
    cases hx
    exact ⟨path, old, name, table, hfresh, rfl⟩
  | reference info name table fs =>
    cases hx
    cases hfresh
    exact ⟨path, Defaults.record ⟨name, table, inner⟩, name, table, hstart, rfl⟩

end Entry.Filled

theorem filled_of_fields {s : Shape} {gs : Fields} (h : s.fields.Unambiguous tag)
    (r : Record s) (path : String) {old : Tree gs} (hfresh : Fresh gs old) :
    ∀ e ∈ entries s.fields r, ∀ x ∈ entries gs (Conversion.fields tag s r path gs old).value,
      e.field.Counterpart tag x.field → e.Filled tag x := by
  intro e he x hx hsame
  rw [Conversion.entries_fields, List.mem_map] at hx
  obtain ⟨y, hy, rfl⟩ := hx
  have hsame : e.field.Counterpart tag y.field := hsame
  refine ⟨extend path y.field.info.name, y, hfresh.entry y hy, ?_⟩
  rw [h.fillFound_eq he hsame]

end Tree

end RowMap
