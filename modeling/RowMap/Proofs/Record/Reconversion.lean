import RowMap.Proofs.Record.Treatment

/-!
# Converting once more

A conversion that is done again changes nothing and reports the same. The first run may create a
record that the second one finds, but it is created as its type starts before it is filled, so both
fill the same. What a conversion assigns and reports follows from the source and the types alone.
-/

namespace RowMap

open RowMap.Tree (Entry)

/-! ## Places in a record -/

/-- What is seen where indices lead, from a record to the one inside it. -/
def Tree.viewAt? : (fs : Fields) → Tree fs → Nat → List Nat → Option View
  | fs, r, i, [] => view? fs r i
  | fs, r, i, j :: inside =>
    match view? fs r i with
    | some (.record s inner) => viewAt? s.fields inner j inside
    | _ => none

/-- The field where indices lead. -/
def Fields.fieldAt? : Fields → Nat → List Nat → Option Field
  | fs, i, [] => fs.all[i]?
  | fs, i, j :: inside =>
    (fs.all[i]?.bind Field.inner?).bind fun inner => inner.fieldAt? j inside

theorem Field.type?_eq_none {f : Field} {inner : Fields} (h : f.inner? = some inner) :
    f.type? = none := by
  cases f with
  | scalar | optional => cases h
  | record | reference => rfl

namespace Conversion

variable {tag : String}

/-- A conversion assigns a datum to the field where indices lead, whatever the destination holds:
each field on the way has a record as its counterpart, and the last one a scalar of its type. -/
inductive Assigns (tag : String) :
    {s : Shape} → Record s → Fields → Nat → List Nat → (t : FieldType) → t.Carrier → Prop
  | here {s : Shape} {r : Record s} {fs : Fields} {i : Nat} {f : Field} {x : Entry} {t : FieldType}
    {a : t.Carrier} (hf : fs.all[i]? = some f) (ht : f.type? = some t)
    (hx : declaredFirst tag (Tree.entries s.fields r) (f.info.resolve tag) = some x)
    (hview : x.view = .scalar t a) : Assigns tag r fs i [] t a
  | inside {s s' : Shape} {r : Record s} {r' : Record s'} {fs inner : Fields} {i j : Nat}
    {path : List Nat} {f : Field} {x : Entry} {t : FieldType} {a : t.Carrier}
    (hf : fs.all[i]? = some f) (hinner : f.inner? = some inner)
    (hx : declaredFirst tag (Tree.entries s.fields r) (f.info.resolve tag) = some x)
    (hview : x.view = .record s' r') (h : Assigns tag r' inner j path t a) :
    Assigns tag r fs i (j :: path) t a

/-! ## The second run -/

/-- Doing it again is the same as doing it once, and what is reported does not depend on what there
was before. -/
structure Settled {α : Type} (convert : α → Converted α) : Prop where
  again : ∀ old, convert (convert old).value = convert old
  report : ∀ old old', (convert old).report = (convert old').report

section
variable {α β : Type} {convert : α → Converted α}

theorem settled_of_keeps {issues : Report} (h : ∀ old, convert old = ⟨old, issues⟩) :
    Settled convert where
  again _ := by simp only [h]
  report _ _ := by simp only [h]

theorem settled_of_const (h : ∀ old old', convert old = convert old') : Settled convert where
  again _ := h _ _
  report _ _ := congrArg Converted.report (h _ _)

theorem Settled.both {convert' : β → Converted β} (h : Settled convert) (h' : Settled convert') :
    Settled fun old : α × β => (⟨((convert old.1).value, (convert' old.2).value),
      (convert old.1).report ++ (convert' old.2).report⟩ : Converted (α × β)) where
  again _ := by simp only [h.again, h'.again]
  report old old' := by rw [h.report old.1 old'.1, h'.report old.2 old'.2]

theorem Settled.of_eq {convert' : α → Converted α} (h : Settled convert')
    (hsame : ∀ old, convert old = convert' old) : Settled convert := by
  rwa [funext hsame]

/-- The second run finds what the first one created. -/
theorem Settled.orCreated (h : Settled convert) (created : α) :
    Settled fun old : Option α => (⟨some (convert (old.getD created)).value,
      (convert (old.getD created)).report⟩ : Converted (Option α)) where
  again _ := by simp only [Option.getD_some, h.again]
  report _ _ := h.report _ _

end

variable [Defaults]

theorem fill_sameType_const {x : Entry} {t : FieldType} {a : t.Carrier} {f : Field} (path : String)
    (hx : x.view = .scalar t a) (hf : f.type? = some t) (old old' : f.Content) :
    fillField tag (some x.source) path f old = fillField tag (some x.source) path f old' := by
  rw [Entry.source, hx]
  cases f with
  | scalar info u | optional info u =>
    cases hf
    simp only [fillField, Tree.cast?_self]
    rfl
  | record info name table inner | reference info name table inner => cases hf

/-- Conversions into the fields are settled, whatever they are filled from. -/
def Settles (tag : String) (fs : Fields) : Prop :=
  ∀ (s : Shape) (r : Record s) (path : String), Settled (fields tag s r path fs)

theorem fillField_cases (tag : String) (c : Option Entry) (path : String) (f : Field) :
    (∃ issues, ∀ old, fillField tag (c.map Entry.source) path f old = ⟨old, issues⟩) ∨
      (∃ x t a, c = some x ∧ x.view = .scalar t a ∧ f.type? = some t) ∨
      ∃ x s r inner, c = some x ∧ x.view = .record s r ∧ f.inner? = some inner := by
  cases c with
  | none => exact .inl ⟨_, fun old => fill_none tag path f old⟩
  | some x =>
    rcases view_cases x with hx | ⟨t, a, hx, -⟩ | ⟨s, r, hx, -, -⟩
    · exact .inl ⟨_, fun old => Tree.fill_absent hx path f old⟩
    · cases hf : f.type? with
      | none => exact .inl ⟨_, fun old => fill_scalarForRecord path old hx hf⟩
      | some u =>
        by_cases hne : t = u
        · subst hne
          exact .inr (.inl ⟨x, t, a, rfl, hx, rfl⟩)
        · exact .inl ⟨_, fun old => fill_otherType path old hx hf hne⟩
    · cases f with
      | scalar info t | optional info t =>
        exact .inl ⟨_, fun old => fill_recordForScalar path old hx rfl⟩
      | record info name table inner | reference info name table inner =>
        exact .inr (.inr ⟨x, s, r, inner, rfl, hx, rfl⟩)

theorem settled_fillField (c : Option Entry) (path : String) (f : Field)
    (hinner : ∀ inner, f.inner? = some inner → Settles tag inner) :
    Settled (fillField tag (c.map Entry.source) path f) := by
  rcases fillField_cases tag c path f with
    ⟨issues, hkeeps⟩ | ⟨x, t, a, rfl, hx, hf⟩ | ⟨x, s, r, inner, rfl, hx, hf⟩
  · exact settled_of_keeps hkeeps
  · exact settled_of_const (fill_sameType_const path hx hf)
  · have hsettled := hinner inner hf s r path
    cases f with
    | scalar | optional => cases hf
    | record info name table =>
      cases hf
      exact hsettled.of_eq fun old => fill_record info name table path hx old
    | reference info name table =>
      cases hf
      exact (hsettled.orCreated (Defaults.record ⟨name, table, inner⟩)).of_eq
        fun old => fill_reference info name table path hx old

theorem settled_fillFound (tag : String) {s : Shape} (r : Record s) (path : String) (f : Field)
    (hinner : ∀ inner, f.inner? = some inner → Settles tag inner) :
    Settled fun old => fillFound tag r path ⟨f, old⟩ := by
  simp only [fillFound, find?_eq]
  exact settled_fillField _ _ f hinner

theorem settles (tag : String) (fs : Fields) : Settles tag fs := by
  -- On the fields, as the conversion goes: filling one field does not touch those behind it.
  induction fs with
  | nil => exact fun s r path => settled_of_keeps fun _ => rfl
  | scalar info t rest ih =>
    intro s r path
    have hfield := settled_fillFound tag r path (.scalar info t) nofun
    exact (hfield.both (ih s r path)).of_eq fun old => fields_scalar tag path r info old.2 t old.1
  | optional info t rest ih =>
    intro s r path
    have hfield := settled_fillFound tag r path (.optional info t) nofun
    exact (hfield.both (ih s r path)).of_eq
      fun old => fields_optional tag path r info old.2 t old.1
  | record info name table inner rest ihInner ih =>
    intro s r path
    have hfield := settled_fillFound tag r path (.record info name table inner)
      fun _ hinner => Option.some.inj hinner ▸ ihInner
    exact (hfield.both (ih s r path)).of_eq
      fun old => fields_record tag path r info old.2 name table inner old.1
  | reference info name table inner rest ihInner ih =>
    intro s r path
    have hfield := settled_fillFound tag r path (.reference info name table inner)
      fun _ hinner => Option.some.inj hinner ▸ ihInner
    exact (hfield.both (ih s r path)).of_eq
      fun old => fields_reference tag path r info old.2 name table inner old.1

/-! ## What is assigned -/

section
variable {s : Shape} {r : Record s} {fs : Fields} {f : Field} {i : Nat}

theorem view?_filled {x : Option Entry} (hf : fs.all[i]? = some f)
    (hx : declaredFirst tag (Tree.entries s.fields r) (f.info.resolve tag) = x) (path : String)
    (old : Tree fs) :
    ∃ c : f.Content, Tree.view? fs old i = some (Entry.view ⟨f, c⟩) ∧
      Tree.view? fs (fields tag s r path fs old).value i = some (Entry.view
        ⟨f, (fillField tag (x.map Entry.source) (extend path f.info.name) f c).value⟩) := by
  rw [← Tree.map_field_entries fs old, List.getElem?_map, Option.map_eq_some_iff] at hf
  obtain ⟨⟨f, c⟩, he, rfl⟩ := hf
  refine ⟨c, ?_, ?_⟩
  · rw [Tree.view?_eq, he]
    rfl
  · rw [Tree.view?_eq, entries_fields, List.getElem?_map, he, Option.map_some, Option.map_some,
      fillFound, find?_eq, ← hx, declaredFirst]

theorem viewAt?_of_assigns {inside : List Nat} {t : FieldType} {a : t.Carrier}
    (h : Assigns tag r fs i inside t a) (path : String) (old : Tree fs) :
    Tree.viewAt? fs (fields tag s r path fs old).value i inside = some (.scalar t a) := by
  induction h generalizing path with
  | here hf ht hx hview =>
    obtain ⟨c, -, hfilled⟩ := view?_filled hf hx path old
    rw [Tree.viewAt?, hfilled, Option.map_some, (fill_sameType _ c tag hview ht).1]
  | @inside s s' r r' fs inner i j inside f x t a hf hinner hx hview h ih =>
    obtain ⟨c, -, hfilled⟩ := view?_filled hf hx path old
    rw [Tree.viewAt?, hfilled, Option.map_some]
    cases f with
    | scalar | optional => cases hinner
    | record info name table =>
      cases hinner
      rw [fill_record info name table _ hview c]
      exact ih _ c
    | reference info name table =>
      cases hinner
      rw [fill_reference info name table _ hview c]
      exact ih _ _

theorem viewAt?_of_not_assigned {inside : List Nat} {v : Tree.View} (path : String) {old : Tree fs}
    (hf : fs.fieldAt? i inside = some f) (hscalar : f.inner? = none)
    (hold : Tree.viewAt? fs old i inside = some v)
    (h : ∀ t a, ¬ Assigns tag r fs i inside t a) :
    Tree.viewAt? fs (fields tag s r path fs old).value i inside = some v := by
  induction inside generalizing s r fs i path with
  | nil =>
    generalize hx : declaredFirst tag (Tree.entries s.fields r) (f.info.resolve tag) = c
    obtain ⟨x, hview, hfilled⟩ := view?_filled hf hx path old
    rw [Tree.viewAt?, hview] at hold
    rw [Tree.viewAt?, hfilled, ← hold]
    rcases fillField_cases tag c (extend path f.info.name) f with
      ⟨issues, hkeeps⟩ | ⟨y, t, a, rfl, hy, ht⟩ | ⟨y, s', r', inner, rfl, hy, hinner⟩
    · rw [hkeeps]
    · exact absurd (.here hf ht hx hy) (h t a)
    · cases hscalar.symm.trans hinner
  | cons j inside ih =>
    obtain ⟨inner, hinner, hf⟩ := Option.bind_eq_some_iff.mp hf
    obtain ⟨g, hg, hinner⟩ := Option.bind_eq_some_iff.mp hinner
    generalize hx : declaredFirst tag (Tree.entries s.fields r) (g.info.resolve tag) = c
    obtain ⟨x, hview, hfilled⟩ := view?_filled hg hx path old
    rw [Tree.viewAt?, hview] at hold
    rw [Tree.viewAt?, hfilled]
    rcases fillField_cases tag c (extend path g.info.name) g with
      ⟨issues, hkeeps⟩ | ⟨y, t, a, rfl, hy, ht⟩ | ⟨y, s', r', -, rfl, hy, -⟩
    · rw [hkeeps]
      exact hold
    · cases (Field.type?_eq_none hinner).symm.trans ht
    · have hrest (t : FieldType) (a : t.Carrier) : ¬ Assigns tag r' inner j inside t a :=
        fun hassigned => h t a (.inside hg hinner hx hy hassigned)
      rw [Option.map_some]
      cases g with
      | scalar | optional => cases hinner
      | record info name table =>
        cases hinner
        rw [fill_record info name table _ hy x]
        exact ih _ hf hold hrest
      | reference info name table =>
        cases hinner
        cases x with
        | none => cases hold
        | some x =>
          rw [fill_reference info name table _ hy]
          exact ih _ hf hold hrest

end

end Conversion

namespace Record

variable {s d : Shape}

/-- What is seen where indices lead. -/
def viewAt? (r : Record s) (i : Nat) (inside : List Nat) : Option Tree.View :=
  Tree.viewAt? s.fields r i inside

/-- A conversion that is done again leaves everything as the first one did, and has the same report,
which is the same for every destination of the type. A scalar that is assigned holds the same
afterwards whatever the destination held, and any other one what it held. -/
theorem convertInto_again [Defaults] (tag : String) (source : Record s) (old : Record d) :
    source.convertInto tag (source.convertInto tag old).value = source.convertInto tag old ∧
      (∀ other : Record d,
        (source.convertInto tag other).report = (source.convertInto tag old).report) ∧
      (∀ (i : Nat) (inside : List Nat) (t : FieldType) (a : t.Carrier),
        Conversion.Assigns tag source d.fields i inside t a →
        (source.convertInto tag old).value.viewAt? i inside = some (.scalar t a)) ∧
      ∀ (i : Nat) (inside : List Nat) (f : Field) (v : Tree.View),
        d.fields.fieldAt? i inside = some f → f.inner? = none → old.viewAt? i inside = some v →
        (∀ t a, ¬ Conversion.Assigns tag source d.fields i inside t a) →
        (source.convertInto tag old).value.viewAt? i inside = some v := by
  have hsettled := Conversion.settles tag d.fields s source ""
  refine ⟨hsettled.again old, fun other => hsettled.report other old, ?_, ?_⟩
  · intro i inside t a h
    exact Conversion.viewAt?_of_assigns h "" old
  · intro i inside f v hf hscalar hold h
    exact Conversion.viewAt?_of_not_assigned "" hf hscalar hold h

end Record

end RowMap
