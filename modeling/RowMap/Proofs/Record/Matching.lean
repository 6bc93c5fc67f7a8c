import RowMap.Proofs.Record.Entries

/-!
# Which source field a field is filled from

A conversion fills the fields of the destination one by one, each from one source field or from
none. A source field declared under the outside name is preferred to one that goes by it.
-/

namespace RowMap.Conversion

open RowMap.Tree (Entry)

/-! ## One field at a time -/

section Filling
variable [Defaults]

/-- A field filled from a source field. -/
def fillField (tag : String) (source : Option Source) (path : String) :
    (f : Field) → f.Content → Converted f.Content
  | .scalar _ t, old =>
    match source with
    | none => keep old path (some .unmatched)
    | some ⟨_, .absent⟩ => keep old path none
    | some ⟨m, .scalar _ x⟩ => assign old path m t.name (Tree.cast? t x)
    | some ⟨m, .record ..⟩ => keep old path (mismatch m .scalar)
  | .optional _ t, old =>
    match source with
    | none => keep old path (some .unmatched)
    | some ⟨_, .absent⟩ => keep old path none
    | some ⟨m, .scalar _ x⟩ => assign old path m (optionalText t.name) ((Tree.cast? t x).map some)
    | some ⟨m, .record ..⟩ => keep old path (mismatch m .optionalScalar)
  | .record _ _ _ inner, old =>
    match source with
    | none => keep old path (some .unmatched)
    | some ⟨_, .absent⟩ => keep old path none
    | some ⟨m, .scalar ..⟩ => keep old path (mismatch m .record)
    | some ⟨_, .record s' r'⟩ => fields tag s' r' path inner old
  | .reference _ name table inner, old =>
    match source with
    | none => keep old path (some .unmatched)
    | some ⟨_, .absent⟩ => keep old path none
    | some ⟨m, .scalar ..⟩ => keep old path (mismatch m .optionalRecord)
    | some ⟨_, .record s' r'⟩ =>
      let target := match old with
        | some record => record
        | none => Defaults.record ⟨name, table, inner⟩
      let converted := fields tag s' r' path inner target
      ⟨some converted.value, converted.report⟩

theorem fill_none (tag path : String) (f : Field) (old : f.Content) :
    fillField tag none path f old = ⟨old, [⟨path, .unmatched⟩]⟩ := by
  cases f <;> rfl

/-- A field of a record at a path, filled from what is found for its outside name. -/
def fillFound (tag : String) {s : Shape} (r : Record s) (path : String) (e : Entry) :
    Converted e.field.Content :=
  fillField tag (find? tag s r (e.field.info.resolve tag)) (extend path e.field.info.name) e.field
    e.content

variable {s : Shape} {fs rest : Fields}

section Equations

variable (tag path : String) (r : Record s) (info : FieldInfo) (more : Tree rest)

theorem fields_scalar (t : FieldType) (x : t.Carrier) :
    fields tag s r path (.scalar info t rest) (x, more) =
      ⟨((fillFound tag r path ⟨.scalar info t, x⟩).value, (fields tag s r path rest more).value),
        (fillFound tag r path ⟨.scalar info t, x⟩).report ++
          (fields tag s r path rest more).report⟩ := rfl

theorem fields_optional (t : FieldType) (x : Option t.Carrier) :
    fields tag s r path (.optional info t rest) (x, more) =
      ⟨((fillFound tag r path ⟨.optional info t, x⟩).value, (fields tag s r path rest more).value),
        (fillFound tag r path ⟨.optional info t, x⟩).report ++
          (fields tag s r path rest more).report⟩ := rfl

theorem fields_record (name table : String) (inner : Fields) (x : Tree inner) :
    fields tag s r path (.record info name table inner rest) (x, more) =
      ⟨((fillFound tag r path ⟨.record info name table inner, x⟩).value,
          (fields tag s r path rest more).value),
        (fillFound tag r path ⟨.record info name table inner, x⟩).report ++
          (fields tag s r path rest more).report⟩ := rfl

theorem fields_reference (name table : String) (inner : Fields) (x : Option (Tree inner)) :
    fields tag s r path (.reference info name table inner rest) (x, more) =
      ⟨((fillFound tag r path ⟨.reference info name table inner, x⟩).value,
          (fields tag s r path rest more).value),
        (fillFound tag r path ⟨.reference info name table inner, x⟩).report ++
          (fields tag s r path rest more).report⟩ := by
  cases x <;> rfl

end Equations

theorem entries_fields (tag : String) (r : Record s) (path : String) (fs : Fields) (old : Tree fs) :
    Tree.entries fs (fields tag s r path fs old).value =
      (Tree.entries fs old).map fun e => ⟨e.field, (fillFound tag r path e).value⟩ := by
  induction fs with
  | nil => rfl
  | scalar info t rest ih =>
    obtain ⟨x, more⟩ := old
    rw [fields_scalar]
    exact congrArg _ (ih more)
  | optional info t rest ih =>
    obtain ⟨x, more⟩ := old
    rw [fields_optional]
    exact congrArg _ (ih more)
  | record info name table inner rest _ ih =>
    obtain ⟨x, more⟩ := old
    rw [fields_record]
    exact congrArg _ (ih more)
  | reference info name table inner rest _ ih =>
    obtain ⟨x, more⟩ := old
    rw [fields_reference]
    exact congrArg _ (ih more)

theorem report_fields (tag : String) (r : Record s) (path : String) (fs : Fields) (old : Tree fs) :
    (fields tag s r path fs old).report =
      (Tree.entries fs old).flatMap fun e => (fillFound tag r path e).report := by
  induction fs with
  | nil => rfl
  | scalar info t rest ih =>
    obtain ⟨x, more⟩ := old
    rw [fields_scalar, ih more]
    rfl
  | optional info t rest ih =>
    obtain ⟨x, more⟩ := old
    rw [fields_optional, ih more]
    rfl
  | record info name table inner rest _ ih =>
    obtain ⟨x, more⟩ := old
    rw [fields_record, ih more]
    rfl
  | reference info name table inner rest _ ih =>
    obtain ⟨x, more⟩ := old
    rw [fields_reference, ih more]
    rfl

end Filling

/-! ## Which field comes first -/

def IsFirst {α : Type} (p : α → Prop) (l : List α) (x : α) : Prop :=
  ∃ before after, l = before ++ x :: after ∧ p x ∧ ∀ y ∈ before, ¬ p y

theorem isFirst_iff {α : Type} {p : α → Prop} [DecidablePred p] {l : List α} {x : α} :
    IsFirst p l x ↔ l.find? (p ·) = some x := by
  simp only [IsFirst, List.find?_eq_some_iff_append, decide_eq_true_eq, Bool.not_eq_true',
    decide_eq_false_iff_not]
  constructor
  · rintro ⟨before, after, h, hx, hbefore⟩
    exact ⟨hx, before, after, h, hbefore⟩
  · rintro ⟨hx, before, after, h, hbefore⟩
    exact ⟨before, after, h, hx, hbefore⟩

/-- A choice among source fields by name: the first field of one sort, and only when there is none
the first field of another. -/
structure Prefers (p q : String → Entry → Prop) (source : List Entry)
    (choice : String → Option Entry) : Prop where
  preferred : ∀ name x, IsFirst (p name) source x → choice name = some x
  otherwise : ∀ name x, (∀ y ∈ source, ¬ p name y) → IsFirst (q name) source x →
    choice name = some x
  nothing : ∀ name, (∀ y ∈ source, ¬ p name y ∧ ¬ q name y) → choice name = none

/-- Each field is filled from the source field that is chosen for its outside name, and the report
has what became of it. -/
def FillsFrom [Defaults] (choice : String → Option Entry) (tag : String) (r : Record s) (path : String)
    (fs : Fields) (old : Tree fs) : Prop :=
  let filled (e : Entry) : Converted e.field.Content :=
    fillField tag ((choice (e.field.info.resolve tag)).map Entry.source)
      (extend path e.field.info.name) e.field e.content
  Tree.entries fs (fields tag s r path fs old).value =
      (Tree.entries fs old).map (fun e => ⟨e.field, (filled e).value⟩) ∧
    (fields tag s r path fs old).report = (Tree.entries fs old).flatMap fun e => (filled e).report

def declaredFirst (tag : String) (source : List Entry) (name : String) : Option Entry :=
  source.find? (Entry.DeclaredAs name ·) <|> source.find? (Entry.GoesBy tag name ·)

theorem find?_eq_none_iff {p : Entry → Prop} [DecidablePred p] {source : List Entry} :
    source.find? (p ·) = none ↔ ∀ y ∈ source, ¬ p y := by
  simp only [List.find?_eq_none, decide_eq_true_eq]

theorem prefers_declaredFirst (tag : String) (source : List Entry) :
    Prefers Entry.DeclaredAs (Entry.GoesBy tag) source (declaredFirst tag source) where
  preferred name x hx := by
    rw [declaredFirst, isFirst_iff.mp hx]
    rfl
  otherwise name x hnone hx := by
    rw [declaredFirst, find?_eq_none_iff.mpr hnone, isFirst_iff.mp hx]
    rfl
  nothing name hnone := by
    rw [declaredFirst, find?_eq_none_iff.mpr fun y hy => (hnone y hy).1,
      find?_eq_none_iff.mpr fun y hy => (hnone y hy).2]
    rfl

theorem fillsFrom_declaredFirst [Defaults] (tag : String) (r : Record s) (path : String) (fs : Fields)
    (old : Tree fs) :
    FillsFrom (declaredFirst tag (Tree.entries s.fields r)) tag r path fs old := by
  have hfound (e : Entry) : fillFound tag r path e =
      fillField tag ((declaredFirst tag (Tree.entries s.fields r) (e.field.info.resolve tag)).map
        Entry.source) (extend path e.field.info.name) e.field e.content := by
    rw [fillFound, find?_eq, declaredFirst]
  exact ⟨by simp only [entries_fields, hfound], by simp only [report_fields, hfound]⟩

/-- A field is filled from the first source field declared under its outside name, without one from
the first that goes by the name, and without either it is unchanged and reported. So of the fields
that go by the name the first is read just when no other one is declared under it. -/
theorem fields_prefer_declared [Defaults] (tag : String) (r : Record s) (path : String) (fs : Fields)
    (old : Tree fs) :
    ∃ choice, Prefers Entry.DeclaredAs (Entry.GoesBy tag) (Tree.entries s.fields r) choice ∧
      FillsFrom choice tag r path fs old ∧
      (∀ path (f : Field) old, fillField tag none path f old = ⟨old, [⟨path, .unmatched⟩]⟩) ∧
      ∀ name y, IsFirst (Entry.GoesBy tag name) (Tree.entries s.fields r) y →
        (choice name = some y ↔
          ∀ x, IsFirst (Entry.DeclaredAs name) (Tree.entries s.fields r) x → x = y) := by
  have hprefers := prefers_declaredFirst tag (Tree.entries s.fields r)
  refine ⟨_, hprefers, fillsFrom_declaredFirst tag r path fs old, fill_none tag, ?_⟩
  intro name y hy
  constructor
  · intro hchoice x hx
    exact Option.some.inj ((hprefers.preferred name x hx).symm.trans hchoice)
  · intro hsame
    cases hfound : (Tree.entries s.fields r).find? (Entry.DeclaredAs name ·) with
    | none => exact hprefers.otherwise name y (find?_eq_none_iff.mp hfound) hy
    | some x =>
      have hx := isFirst_iff.mpr hfound
      rw [← hsame x hx]
      exact hprefers.preferred name x hx

/-! A poster is labelled for the outside with the title of a card, and has a title of its own. -/

def labelled : Field := .scalar { name := "label", tags := [("dto", "title")] } (.scalar .text)
def titled : Field := .scalar { name := "title", tags := [("dto", "heading")] } (.scalar .text)

def posterShape : Shape where
  typeName := "Poster"
  table := "posters"
  fields := .scalar labelled.info (.scalar .text) <| .scalar titled.info (.scalar .text) .nil

def cardFields : Fields := .scalar { name := "title" } (.scalar .text) .nil

def poster : Record posterShape := ("Dune", "Desert planet", ())

theorem card_title_not_by_tag :
    ¬ ∃ choice, Prefers (Entry.GoesBy "dto") Entry.DeclaredAs (Tree.entries _ poster) choice ∧
      FillsFrom choice "dto" poster "" cardFields (Tree.initial cardFields) := by
  rintro ⟨choice, hprefers, hfills, -⟩
  have hfirst : IsFirst (Entry.GoesBy "dto" "title") (Tree.entries _ poster) ⟨labelled, "Dune"⟩ :=
    isFirst_iff.mpr rfl
  have hchoice : choice "title" = some ⟨labelled, "Dune"⟩ := hprefers.preferred _ _ hfirst
  have htitle (title : String) : Tree.entries cardFields (title, ()) =
      [⟨.scalar { name := "title" } (.scalar .text), title⟩] := rfl
  have hruled : (Tree.entries cardFields (Tree.initial cardFields)).map (fun e => (⟨e.field,
      (fillField "dto" ((choice (e.field.info.resolve "dto")).map Entry.source)
        (extend "" e.field.info.name) e.field e.content).value⟩ : Entry)) =
      Tree.entries cardFields ("Dune", ()) := by
    show [(⟨_, (fillField "dto" ((choice "title").map Entry.source) _ _ _).value⟩ : Entry)] = _
    rw [hchoice]
    rfl
  -- The conversion itself takes the field that is declared as `title`.
  have hdone : (fields "dto" posterShape poster "" cardFields (Tree.initial cardFields)).value =
      ("Desert planet", ()) := rfl
  rw [hdone, hruled] at hfills
  have hsame := (htitle "Desert planet").symm.trans (hfills.trans (htitle "Dune"))
  have htitles : "Desert planet" = "Dune" :=
    eq_of_heq (Entry.mk.inj (List.head_eq_of_cons_eq hsame)).2
  exact absurd htitles (by decide)

end RowMap.Conversion
