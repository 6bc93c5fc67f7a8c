import RowMap.Proofs.Record.Paths

/-!
# What becomes of each field

The rules of a conversion, one for each way in which a field can be treated. A field is treated in
exactly one way, and a conversion has the outcome that the rules give, field by field down both
records. So it assigns what the rules assign, leaves everything else alone, and has an issue for
exactly the fields that it could not fill.
-/

namespace RowMap

open RowMap.Tree (Entry)

theorem Tree.entries_inj {fs : Fields} {r r' : Tree fs} (h : entries fs r = entries fs r') :
    r = r' := by
  induction fs with
  | nil => rfl
  | scalar info t rest ih | optional info t rest ih =>
    obtain ⟨x, more⟩ := r
    obtain ⟨x', more'⟩ := r'
    obtain ⟨hhead, htail⟩ := List.cons.inj h
    cases hhead
    rw [ih htail]
  | record info name table inner rest _ ih | reference info name table inner rest _ ih =>
    obtain ⟨x, more⟩ := r
    obtain ⟨x', more'⟩ := r'
    obtain ⟨hhead, htail⟩ := List.cons.inj h
    cases hhead
    rw [ih htail]

namespace Conversion

theorem entry_eq_of_view {e e' : Entry} {t : FieldType} {a : t.Carrier}
    (hfield : e'.field = e.field) (he : e.view = .scalar t a) (he' : e'.view = .scalar t a)
    (htype : e.field.type? = some t) : e' = e := by
  obtain ⟨f, c⟩ := e
  obtain ⟨f', c'⟩ := e'
  obtain rfl : f' = f := hfield
  cases f' with
  | scalar info u =>
    cases htype
    obtain ⟨-, rfl⟩ := Tree.View.scalar.inj (he.trans he'.symm)
    rfl
  | optional info u =>
    cases htype
    cases c with
    | none => cases he
    | some b =>
      cases c' with
      | none => cases he'
      | some b' =>
        obtain ⟨-, rfl⟩ := Tree.View.scalar.inj (he.trans he'.symm)
        rfl
  | record info name table inner | reference info name table inner => cases htype

/-! ## Dotted paths -/

theorem pathTo_of_ne_empty {path : String} (h : path ≠ "") (names : List String) :
    pathTo path names = ".".intercalate (path :: names) := by
  induction names generalizing path with
  | nil => simp [pathTo]
  | cons n names ih =>
    have hextend : extend path n = path ++ "." ++ n := by
      rw [extend, if_neg (by simpa using h)]
    have hne : extend path n ≠ "" := by
      rw [hextend]
      simp
    have hstep : pathTo path (n :: names) = pathTo (extend path n) names := rfl
    rw [hstep, ih hne, hextend, String.intercalate_cons_append, String.intercalate_cons_cons]

theorem pathTo_dotted {names : List String} (h : ∀ n ∈ names, n ≠ "") :
    pathTo "" names = ".".intercalate names := by
  cases names with
  | nil => rfl
  | cons n names =>
    have hstep : pathTo "" (n :: names) = pathTo n names := rfl
    rw [hstep, pathTo_of_ne_empty (h n List.mem_cons_self)]

/-! ## The rules -/

variable [Defaults]

inductive Way
  | missing | absent | sameType | otherType | records | otherShape

mutual

/-- How a field inside the names that lead to it is treated: its counterpart, what it holds before
and after, and the issues about it and what is inside of it. -/
inductive Treats (tag : String) :
    Way → Option Entry → List String → Entry → Entry → List Issue → Prop
  /-- Nothing to fill the field from. -/
  | missing (names : List String) (e : Entry) :
      Treats tag .missing none names e e [⟨pathTo "" names, .unmatched⟩]
  /-- The whole field stays as it is. -/
  | absent {x : Entry} (names : List String) (e : Entry) (hx : x.view = .absent) :
      Treats tag .absent (some x) names e e []
  | sameType {x e e' : Entry} {t : FieldType} {a : t.Carrier} (names : List String)
      (hx : x.view = .scalar t a) (he : e.field.type? = some t) (hfield : e'.field = e.field)
      (hset : e'.view = .scalar t a) :
      Treats tag .sameType (some x) names e e' []
  | otherType {x e : Entry} {t u : FieldType} {a : t.Carrier} (names : List String)
      (hx : x.view = .scalar t a) (he : e.field.type? = some u) (hne : t ≠ u) :
      Treats tag .otherType (some x) names e e
        [⟨pathTo "" names,
          .typeMismatch x.field.description.typeText e.field.description.typeText⟩]
  | record {x : Entry} {s : Shape} {r : Record s} {info : FieldInfo} {name table : String}
      {inner : Fields} {old new : Tree inner} {names : List String} {issues : List Issue}
      (hx : x.view = .record s r)
      (h : Populates tag (Tree.entries s.fields r) names (Tree.entries inner old)
        (Tree.entries inner new) issues) :
      Treats tag .records (some x) names ⟨.record info name table inner, old⟩
        ⟨.record info name table inner, new⟩ issues
  /-- An absent record starts as its type does, a present one keeps its content. -/
  | reference {x : Entry} {s : Shape} {r : Record s} {info : FieldInfo} {name table : String}
      {inner : Fields} {old : Option (Tree inner)} {new : Tree inner} {names : List String}
      {issues : List Issue} (hx : x.view = .record s r)
      (h : Populates tag (Tree.entries s.fields r) names
        (Tree.entries inner (old.getD (Defaults.record ⟨name, table, inner⟩)))
        (Tree.entries inner new) issues) :
      Treats tag .records (some x) names ⟨.reference info name table inner, old⟩
        ⟨.reference info name table inner, some new⟩ issues
  | scalarForRecord {x e : Entry} {t : FieldType} {a : t.Carrier} (names : List String)
      (hx : x.view = .scalar t a) (he : e.field.type? = none) :
      Treats tag .otherShape (some x) names e e
        [⟨pathTo "" names, .shapeMismatch x.field.description.kind e.field.description.kind⟩]
  | recordForScalar {x e : Entry} {s : Shape} {r : Record s} {t : FieldType} (names : List String)
      (hx : x.view = .record s r) (he : e.field.type? = some t) :
      Treats tag .otherShape (some x) names e e
        [⟨pathTo "" names, .shapeMismatch x.field.description.kind e.field.description.kind⟩]

/-- The fields of a record are treated one by one, each with its counterpart in the source. -/
inductive Populates (tag : String) :
    List Entry → List String → List Entry → List Entry → List Issue → Prop
  | nil (source : List Entry) (names : List String) : Populates tag source names [] [] []
  | cons {source : List Entry} {names : List String} {e e' : Entry} {rest rest' : List Entry}
      {issues issues' : List Issue} {w : Way}
      (here : Treats tag w (declaredFirst tag source (e.field.info.resolve tag))
        (names ++ [e.field.info.name]) e e' issues)
      (there : Populates tag source names rest rest' issues') :
      Populates tag source names (e :: rest) (e' :: rest') (issues ++ issues')

end

variable {tag : String}

/-! ## One way for each field -/

/-- The way that a field is treated in depends on its counterpart and on the types alone. -/
def way (counterpart : Option Entry) (f : Field) : Way :=
  match counterpart.map Entry.view, f.type? with
  | none, _ => .missing
  | some .absent, _ => .absent
  | some (.scalar t _), some u => if t = u then .sameType else .otherType
  | some (.scalar ..), none => .otherShape
  | some (.record ..), some _ => .otherShape
  | some (.record ..), none => .records

theorem Treats.way_eq {w : Way} {c : Option Entry} {names : List String} {e e' : Entry}
    {issues : List Issue} (h : Treats tag w c names e e' issues) : w = way c e.field := by
  cases h with
  | missing => rfl
  | absent _ _ hx => simp only [way, Option.map_some, hx]
  | sameType _ hx he => simp only [way, Option.map_some, hx, he, if_true]
  | otherType _ hx he hne => simp only [way, Option.map_some, hx, he, hne, if_false]
  | record hx => simp only [way, Option.map_some, hx, Field.type?]
  | reference hx => simp only [way, Option.map_some, hx, Field.type?]
  | scalarForRecord _ hx he => simp only [way, Option.map_some, hx, he]
  | recordForScalar _ hx he => simp only [way, Option.map_some, hx, he]

/-! ## What filling a field does -/

section Filling
variable {x : Entry} {f : Field} {t u : FieldType} {a : t.Carrier} (path : String) (old : f.Content)

theorem fill_sameType (tag : String) (hx : x.view = .scalar t a) (hf : f.type? = some t) :
    let filled := fillField tag (some x.source) path f old
    Entry.view ⟨f, filled.value⟩ = .scalar t a ∧ filled.report = [] := by
  rw [Entry.source, hx]
  cases f with
  | scalar info t' | optional info t' =>
    cases hf
    simp only [fillField, Tree.cast?_self]
    exact ⟨rfl, rfl⟩
  | record info name table inner | reference info name table inner => cases hf

theorem fill_otherType (hx : x.view = .scalar t a) (hf : f.type? = some u) (hne : t ≠ u) :
    fillField tag (some x.source) path f old =
      ⟨old, [⟨path, .typeMismatch x.field.description.typeText f.description.typeText⟩]⟩ := by
  have hcast : Tree.cast? u a = none := dif_neg hne
  rw [Entry.source, hx]
  cases f with
  | scalar info u' | optional info u' =>
    cases hf
    simp only [fillField, hcast]
    rfl
  | record info name table inner | reference info name table inner => cases hf

theorem fill_scalarForRecord (hx : x.view = .scalar t a) (hf : f.type? = none) :
    fillField tag (some x.source) path f old =
      ⟨old, [⟨path, .shapeMismatch x.field.description.kind f.description.kind⟩]⟩ := by
  rw [Entry.source, hx]
  cases f with
  | scalar info u | optional info u => cases hf
  | record info name table inner | reference info name table inner => rfl

theorem fill_recordForScalar {s : Shape} {r : Record s} (hx : x.view = .record s r)
    (hf : f.type? = some t) :
    fillField tag (some x.source) path f old =
      ⟨old, [⟨path, .shapeMismatch x.field.description.kind f.description.kind⟩]⟩ := by
  rw [Entry.source, hx]
  cases f with
  | scalar info u | optional info u => rfl
  | record info name table inner | reference info name table inner => cases hf

end Filling

section FillingRecords
variable {x : Entry} {s : Shape} {r : Record s} (info : FieldInfo) (name table path : String)
  {inner : Fields}

theorem fill_record (hx : x.view = .record s r) (old : Tree inner) :
    fillField tag (some x.source) path (.record info name table inner) old =
      fields tag s r path inner old := by
  rw [Entry.source, hx]
  rfl

theorem fill_reference (hx : x.view = .record s r) (old : Option (Tree inner)) :
    fillField tag (some x.source) path (.reference info name table inner) old =
      let converted := fields tag s r path inner (old.getD (Defaults.record ⟨name, table, inner⟩))
      ⟨some converted.value, converted.report⟩ := by
  rw [Entry.source, hx]
  cases old <;> rfl

end FillingRecords

/-! ## The outcome of the rules -/

/-- The rules for a list of fields have exactly the outcome of the conversion. -/
def Determined (tag : String) (fs : Fields) : Prop :=
  ∀ (s : Shape) (r : Record s) (names : List String) (old : Tree fs) (news : List Entry)
    (issues : List Issue),
    Populates tag (Tree.entries s.fields r) names (Tree.entries fs old) news issues ↔
      news = Tree.entries fs (fields tag s r (pathTo "" names) fs old).value ∧
        issues = (fields tag s r (pathTo "" names) fs old).report

theorem Determined.iff {inner : Fields} (h : Determined tag inner) (s : Shape) (r : Record s)
    (names : List String) (old new : Tree inner) (issues : List Issue) :
    Populates tag (Tree.entries s.fields r) names (Tree.entries inner old)
        (Tree.entries inner new) issues ↔
      fields tag s r (pathTo "" names) inner old = ⟨new, issues⟩ := by
  rw [h s r names old]
  constructor
  · rintro ⟨hvalue, rfl⟩
    rw [Tree.entries_inj hvalue]
  · intro hconverted
    rw [hconverted]
    exact ⟨rfl, rfl⟩

theorem Treats.outcome {w : Way} {c : Option Entry} {names : List String} {e e' : Entry}
    {issues : List Issue} (hinner : ∀ inner, e.field.inner? = some inner → Determined tag inner)
    (h : Treats tag w c names e e' issues) :
    let filled := fillField tag (c.map Entry.source) (pathTo "" names) e.field e.content
    e' = ⟨e.field, filled.value⟩ ∧ issues = filled.report := by
  cases h with
  | missing =>
    rw [Option.map_none, fill_none]
    exact ⟨rfl, rfl⟩
  | absent _ _ hx =>
    rw [Option.map_some, Tree.fill_absent hx]
    exact ⟨rfl, rfl⟩
  | sameType _ hx he hfield hset =>
    obtain ⟨hview, hreport⟩ := fill_sameType (pathTo "" names) e.content tag hx he
    exact ⟨entry_eq_of_view hfield hview hset he, hreport.symm⟩
  | otherType _ hx he hne =>
    rw [Option.map_some, fill_otherType _ _ hx he hne]
    exact ⟨rfl, rfl⟩
  | record hx hpopulates =>
    have hfields := ((hinner _ rfl).iff _ _ _ _ _ _).mp hpopulates
    rw [Option.map_some, fill_record _ _ _ _ hx, hfields]
    exact ⟨rfl, rfl⟩
  | reference hx hpopulates =>
    have hfields := ((hinner _ rfl).iff _ _ _ _ _ _).mp hpopulates
    rw [Option.map_some, fill_reference _ _ _ _ hx, hfields]
    exact ⟨rfl, rfl⟩
  | scalarForRecord _ hx he =>
    rw [Option.map_some, fill_scalarForRecord _ _ hx he]
    exact ⟨rfl, rfl⟩
  | recordForScalar _ hx he =>
    rw [Option.map_some, fill_recordForScalar _ _ hx he]
    exact ⟨rfl, rfl⟩

theorem treats_filled (c : Option Entry) (names : List String) (f : Field) (old : f.Content)
    (hinner : ∀ inner, f.inner? = some inner → Determined tag inner) :
    ∃ w, Treats tag w c names ⟨f, old⟩
      ⟨f, (fillField tag (c.map Entry.source) (pathTo "" names) f old).value⟩
      (fillField tag (c.map Entry.source) (pathTo "" names) f old).report := by
  cases c with
  | none =>
    rw [Option.map_none, fill_none]
    exact ⟨_, .missing names _⟩
  | some x =>
    rw [Option.map_some]
    rcases view_cases x with hx | ⟨t, a, hx, -⟩ | ⟨s, r, hx, -, -⟩
    · rw [Tree.fill_absent hx]
      exact ⟨_, .absent names _ hx⟩
    · cases hf : f.type? with
      | none =>
        rw [fill_scalarForRecord _ _ hx hf]
        exact ⟨_, .scalarForRecord names hx hf⟩
      | some u =>
        by_cases hne : t = u
        · subst hne
          obtain ⟨hset, hreport⟩ := fill_sameType (pathTo "" names) old tag hx hf
          rw [hreport]
          exact ⟨_, .sameType names hx hf rfl hset⟩
        · rw [fill_otherType _ _ hx hf hne]
          exact ⟨_, .otherType names hx hf hne⟩
    · cases f with
      | scalar info t | optional info t =>
        rw [fill_recordForScalar _ _ hx rfl]
        exact ⟨_, .recordForScalar names hx rfl⟩
      | record info name table inner =>
        rw [fill_record info name table _ hx old]
        exact ⟨_, .record hx (((hinner _ rfl).iff _ _ _ _ _ _).mpr rfl)⟩
      | reference info name table inner =>
        rw [fill_reference info name table _ hx old]
        exact ⟨_, .reference hx (((hinner _ rfl).iff _ _ _ _ _ _).mpr rfl)⟩

theorem exists_treats_iff (c : Option Entry) (names : List String) {e e' : Entry}
    {issues : List Issue} (hinner : ∀ inner, e.field.inner? = some inner → Determined tag inner) :
    (∃ w, Treats tag w c names e e' issues) ↔
      let filled := fillField tag (c.map Entry.source) (pathTo "" names) e.field e.content
      e' = ⟨e.field, filled.value⟩ ∧ issues = filled.report := by
  constructor
  · rintro ⟨w, h⟩
    exact h.outcome hinner
  · rintro ⟨rfl, rfl⟩
    exact treats_filled c names e.field e.content hinner

theorem populates_cons {source : List Entry} {names : List String} {e : Entry}
    {es news : List Entry} {issues : List Issue} :
    Populates tag source names (e :: es) news issues ↔
      ∃ e' here rest there,
        (∃ w, Treats tag w (declaredFirst tag source (e.field.info.resolve tag))
          (names ++ [e.field.info.name]) e e' here) ∧
        Populates tag source names es rest there ∧ news = e' :: rest ∧ issues = here ++ there := by
  constructor
  · intro h
    cases h with
    | cons here there => exact ⟨_, _, _, _, ⟨_, here⟩, there, rfl, rfl⟩
  · rintro ⟨e', here, rest, there, ⟨w, hhere⟩, hthere, rfl, rfl⟩
    exact .cons hhere hthere

theorem fillFound_eq (names : List String) {s : Shape} (r : Record s) (e : Entry) :
    fillFound tag r (pathTo "" names) e =
      fillField tag ((declaredFirst tag (Tree.entries s.fields r) (e.field.info.resolve tag)).map
        Entry.source) (pathTo "" (names ++ [e.field.info.name])) e.field e.content := by
  rw [fillFound, find?_eq, declaredFirst, pathTo_snoc]

theorem populates_iff {s : Shape} (r : Record s) (names : List String) {es : List Entry}
    (hinner : ∀ e ∈ es, ∀ inner, e.field.inner? = some inner → Determined tag inner)
    (news : List Entry) (issues : List Issue) :
    Populates tag (Tree.entries s.fields r) names es news issues ↔
      news = es.map (fun e => ⟨e.field, (fillFound tag r (pathTo "" names) e).value⟩) ∧
        issues = es.flatMap fun e => (fillFound tag r (pathTo "" names) e).report := by
  induction es generalizing news issues with
  | nil =>
    constructor
    · rintro ⟨⟩
      exact ⟨rfl, rfl⟩
    · rintro ⟨rfl, rfl⟩
      exact .nil _ _
  | cons e es ih =>
    obtain ⟨he, hes⟩ := List.forall_mem_cons.mp hinner
    simp only [populates_cons, exists_treats_iff _ _ he, ih hes, ← fillFound_eq, List.map_cons,
      List.flatMap_cons]
    constructor
    · rintro ⟨e', here, rest, there, ⟨rfl, rfl⟩, ⟨rfl, rfl⟩, rfl, rfl⟩
      exact ⟨rfl, rfl⟩
    · rintro ⟨rfl, rfl⟩
      exact ⟨_, _, _, _, ⟨rfl, rfl⟩, ⟨rfl, rfl⟩, rfl, rfl⟩

theorem determined_of_inner {fs : Fields}
    (h : ∀ f ∈ fs.all, ∀ inner, f.inner? = some inner → Determined tag inner) :
    Determined tag fs := by
  intro s r names old news issues
  rw [populates_iff r names fun e he => h e.field (Tree.field_mem he), entries_fields,
    report_fields]

theorem determined_inner (fs : Fields) :
    ∀ f ∈ fs.all, ∀ inner, f.inner? = some inner → Determined tag inner := by
  have hrecord {f : Field} {inner : Fields} (hf : f.inner? = some inner)
      (h : ∀ g ∈ inner.all, ∀ inner', g.inner? = some inner' → Determined tag inner') :
      ∀ inner', f.inner? = some inner' → Determined tag inner' := by
    intro inner' hinner'
    obtain rfl : inner = inner' := Option.some.inj (hf.symm.trans hinner')
    exact determined_of_inner h
  -- Down the type: the records inside it are determined before the fields that hold them.
  induction fs with
  | nil => exact List.forall_mem_nil _
  | scalar info t rest ih | optional info t rest ih =>
    exact List.forall_mem_cons.mpr ⟨fun _ h => (nomatch h), ih⟩
  | record info name table inner rest ihInner ih
  | reference info name table inner rest ihInner ih =>
    exact List.forall_mem_cons.mpr ⟨hrecord rfl ihInner, ih⟩

theorem determined (fs : Fields) : Determined tag fs := determined_of_inner (determined_inner fs)

theorem existsUnique_way (c : Option Entry) (names : List String) (e : Entry) :
    ∃! w, ∃ e' issues, Treats tag w c names e e' issues := by
  obtain ⟨w, h⟩ := treats_filled c names e.field e.content fun inner _ =>
    (determined inner : Determined tag inner)
  refine ⟨w, ⟨_, _, h⟩, ?_⟩
  rintro w' ⟨e', issues, h'⟩
  exact h'.way_eq.trans h.way_eq.symm

end Conversion

/-- A conversion has exactly the outcome that the rules give for every field of the destination, in
the order of the declarations and down every pair of records: there is one way to treat a field,
nothing else changes, and the report has the issues of the rules. The path of an issue is the
declared names that lead to its field, with dots between them. -/
theorem Record.convertInto_follows_rules [Defaults] {s d : Shape} (tag : String) (source : Record s)
    (old : Record d) :
    (∀ (new : Record d) (issues : List Conversion.Issue),
      source.convertInto tag old = ⟨new, issues⟩ ↔
        Conversion.Populates tag (Tree.entries s.fields source) [] (Tree.entries d.fields old)
          (Tree.entries d.fields new) issues) ∧
      (∀ (counterpart : Option Entry) (names : List String) (e : Entry),
        ∃! w, ∃ e' issues, Conversion.Treats tag w counterpart names e e' issues) ∧
      ∀ names : List String, (∀ n ∈ names, n ≠ "") →
        Conversion.pathTo "" names = ".".intercalate names := by
  refine ⟨fun new issues => ?_, Conversion.existsUnique_way, fun names => Conversion.pathTo_dotted⟩
  exact ((Conversion.determined d.fields).iff s source [] old new issues).symm

end RowMap
