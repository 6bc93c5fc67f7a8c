import Mathlib.Data.List.Forall2
import Mathlib.Data.List.Induction
import RowMap.Proofs.Declaration.Marking

/-!
# Accepted declarations

A declaration is accepted exactly when it is well formed. What is then known of the type is what is
written: its fields in their order, each with its tags in theirs, and its table.
-/

namespace RowMap

/-- A path that ends in `Option` with a type as the first argument. -/
def TypeExpr.EndsInOption (t : TypeExpr) : Prop :=
  ∃ before inner more, t = .path (before ++ [("Option", some inner :: more)])

theorem TypeExpr.optional?_isSome_iff (t : TypeExpr) : t.optional?.isSome ↔ t.EndsInOption := by
  constructor
  · intro h
    unfold optional? at h
    split at h
    · split at h
      · next segments inner more hlast =>
        obtain ⟨before, rfl⟩ := List.getLast?_eq_some_iff.mp hlast
        exact ⟨before, inner, more, rfl⟩
      · cases h
    · cases h
  · rintro ⟨before, inner, more, rfl⟩
    simp [optional?]

theorem FieldInfo.column?_eq_some_iff (f : FieldInfo) (column : String) :
    f.column? = some column ↔ f.tag? "db" = some column ∧ column ≠ "" ∧ column ≠ "-" := by
  unfold column?
  cases f.tag? "db" with
  | none => simp
  | some name =>
    simp only [Option.some.injEq, Bool.or_eq_true, String.isEmpty_iff, decide_eq_true_eq]
    split <;> grind

namespace Declaration

theorem guard_eq_ok_iff {ε α : Type} {c : Prop} [Decidable c] {e : ε} {x : Except ε α} {a : α} :
    (if c then throw e else x) = .ok a ↔ ¬ c ∧ x = .ok a := by
  split
  · next h => exact iff_of_false nofun fun hx => hx.1 h
  · next h => exact (and_iff_right h).symm

theorem pure_eq_ok_iff {ε α : Type} {a b : α} : (pure a : Except ε α) = .ok b ↔ b = a :=
  ⟨fun h => by cases h; rfl, fun h => congrArg Except.ok h.symm⟩

/-! ## Fields -/

theorem isRecord_kindOf (nested : Bool) (type : TypeExpr) :
    (kindOf nested type).isRecord = nested := by
  unfold kindOf
  cases nested <;> cases type.optional? <;> rfl

theorem isOptional_kindOf (nested : Bool) (type : TypeExpr) :
    (kindOf nested type).isOptional = type.optional?.isSome := by
  unfold kindOf
  cases nested <;> cases type.optional? <;> rfl

theorem lookup_eq_some_iff_mem {entries : List (String × String)}
    (h : (entries.map Prod.fst).Nodup) {key value : String} :
    entries.lookup key = some value ↔ (key, value) ∈ entries := by
  induction entries with
  | nil => exact iff_of_false nofun List.not_mem_nil
  | cons entry entries ih =>
    obtain ⟨k, v⟩ := entry
    obtain ⟨hnew, hrest⟩ := List.nodup_cons.mp h
    by_cases hk : key = k
    · subst hk
      have hother : (key, value) ∉ entries := fun hmem => hnew (List.mem_map.mpr ⟨_, hmem, rfl⟩)
      simp [hother, eq_comm]
    · have hdiffers : (key == k) = false := beq_false_of_ne hk
      simp [List.lookup_cons, hdiffers, hk, ih hrest]

namespace Field

def items (f : Field) : List Item := itemsOf f.attributes

/-- The field has a flag. -/
def HasFlag (f : Field) (word : String) : Prop := Item.flag word ∈ f.items

def tags (f : Field) : List (String × String) := tagsOf f.items

/-- Attributes that say something, and a key that is no record and has a column. -/
structure WellFormed (f : Field) : Prop where
  whole : ∀ a ∈ f.attributes, a.IsWhole
  items : ∀ item ∈ f.items, item.OfField
  distinct : (f.tags.map Prod.fst).Nodup
  key : f.HasFlag "primary_key" →
    ¬ f.HasFlag "nested" ∧ ∃ column, ("db", column) ∈ f.tags ∧ column ≠ "" ∧ column ≠ "-"

/-- What is known of a field is what is written. -/
structure Describes (f : Field) (m : FieldMeta) : Prop where
  name : m.name = f.name
  tags : m.tags = f.tags
  primaryKey : m.primaryKey = true ↔ f.HasFlag "primary_key"
  generated : m.generated = true ↔ f.HasFlag "generated"
  record : m.kind.isRecord = true ↔ f.HasFlag "nested"
  optional : m.kind.isOptional = true ↔ f.type.EndsInOption
  typeText : m.typeText = f.type.text

/-- The description of a field by all its items. -/
def description (f : Field) : FieldMeta := f.meta (.ofItems f.items)

theorem describes_description (f : Field) : f.Describes f.description where
  name := rfl
  tags := rfl
  primaryKey := decide_eq_true_iff
  generated := decide_eq_true_iff
  record := by
    rw [description, Field.meta, isRecord_kindOf]
    exact decide_eq_true_iff
  optional := by
    rw [description, Field.meta, isOptional_kindOf]
    exact f.type.optional?_isSome_iff
  typeText := rfl

theorem column_isSome_iff {f : Field} (h : (f.tags.map Prod.fst).Nodup) :
    f.description.column.isSome ↔
      ∃ column, ("db", column) ∈ f.tags ∧ column ≠ "" ∧ column ≠ "-" := by
  rw [Option.isSome_iff_exists]
  refine exists_congr fun column => ?_
  refine (f.description.column?_eq_some_iff column).trans (and_congr_left' ?_)
  exact lookup_eq_some_iff_mem h

theorem describe_eq_ok_iff_marks (f : Field) (m : FieldMeta) :
    f.describe = .ok m ↔ ∃ k, marks f.attributes = .ok k ∧
      (k.primaryKey = true → ¬ k.nested = true ∧ (f.meta k).column.isSome = true) ∧
        m = f.meta k := by
  refine bind_eq_ok_iff.trans (exists_congr fun k => and_congr_right fun _ => ?_)
  refine guard_eq_ok_iff.trans ((and_congr_right' guard_eq_ok_iff).trans ?_)
  rw [← and_assoc]
  refine and_congr ?_ pure_eq_ok_iff
  cases k.primaryKey <;> simp [Option.isSome_iff_ne_none]

theorem describe_eq_ok_iff (f : Field) (m : FieldMeta) :
    f.describe = .ok m ↔ f.WellFormed ∧ m = f.description := by
  rw [describe_eq_ok_iff_marks]
  have hprimary : (Marks.ofItems f.items).primaryKey = true ↔ f.HasFlag "primary_key" :=
    decide_eq_true_iff
  have hnested : (Marks.ofItems f.items).nested = true ↔ f.HasFlag "nested" := decide_eq_true_iff
  constructor
  · rintro ⟨k, hmarks, hkey, rfl⟩
    obtain ⟨hwhole, hitems, hdistinct, rfl⟩ := marks_eq_ok_iff.mp hmarks
    refine ⟨⟨hwhole, hitems, hdistinct, fun h => ?_⟩, rfl⟩
    obtain ⟨hrecord, hcolumn⟩ := hkey (hprimary.mpr h)
    exact ⟨mt hnested.mpr hrecord, (column_isSome_iff hdistinct).mp hcolumn⟩
  · rintro ⟨hwell, rfl⟩
    have hmarks := marks_eq_ok_iff.mpr ⟨hwell.whole, hwell.items, hwell.distinct, rfl⟩
    refine ⟨_, hmarks, fun h => ?_, rfl⟩
    obtain ⟨hrecord, hcolumn⟩ := hwell.key (hprimary.mp h)
    exact ⟨mt hnested.mp hrecord, (column_isSome_iff hwell.distinct).mpr hcolumn⟩

end Field

/-! ## Tables -/

theorem tableStep_eq_ok_iff {start t : Option String} {item : Item} :
    tableStep start item = .ok t ↔ ∃ table, item = .setting "table" table ∧ t = some table := by
  obtain ⟨word, argument⟩ := item
  unfold tableStep
  split
  · next hword =>
    cases hword
    cases argument with
    | absent | malformed => simp [Argument.text?, Item.setting]
    | text table closed => cases closed <;> simp [Argument.text?, Item.setting, eq_comm]
  · next hword =>
    constructor
    · intro h
      cases h
    · rintro ⟨table, hitem, -⟩
      cases hitem
      exact absurd rfl hword

/-- The table that items name last. -/
def tableOf (items : List Item) : Option String := (tagsOf items).getLast?.map Prod.snd

theorem tableOf_setting (before : List Item) (table : String) :
    tableOf (before ++ [.setting "table" table]) = some table := by
  rw [tableOf, tagsOf_setting before (by decide), List.getLast?_concat]
  rfl

theorem foldlM_tableStep_eq_ok_iff (items : List Item) (t : Option String) :
    items.foldlM tableStep none = .ok t ↔
      (∀ item ∈ items, ∃ table, item = .setting "table" table) ∧ t = tableOf items := by
  induction items using List.reverseRecOn generalizing t with
  | nil => exact pure_eq_ok_iff.trans (and_iff_right nofun).symm
  | append_singleton before item ih =>
    rw [List.foldlM_append, bind_eq_ok_iff, List.forall_mem_append, List.forall_mem_singleton]
    simp only [List.foldlM_cons, List.foldlM_nil, bind_pure, tableStep_eq_ok_iff, ih]
    constructor
    · rintro ⟨_, ⟨hbefore, -⟩, table, rfl, rfl⟩
      exact ⟨⟨hbefore, table, rfl⟩, (tableOf_setting before table).symm⟩
    · rintro ⟨⟨hbefore, table, rfl⟩, rfl⟩
      exact ⟨_, ⟨hbefore, rfl⟩, table, rfl, tableOf_setting before table⟩

theorem table?_eq_ok_iff {attributes : List Attribute} {t : Option String} :
    table? attributes = .ok t ↔ (∀ a ∈ attributes, a.IsWhole) ∧
      (∀ item ∈ itemsOf attributes, ∃ table, item = .setting "table" table) ∧
      t = tableOf (itemsOf attributes) := by
  rw [table?, foldItems_eq_ok_iff, foldlM_tableStep_eq_ok_iff]

/-! ## Declarations -/

theorem mapM_eq_ok_iff {α β ε : Type} {f : α → Except ε β} {p : α → Prop} {g : α → β}
    (h : ∀ a b, f a = .ok b ↔ p a ∧ b = g a) (as : List α) (bs : List β) :
    as.mapM f = .ok bs ↔ (∀ a ∈ as, p a) ∧ bs = as.map g := by
  induction as generalizing bs with
  | nil => exact pure_eq_ok_iff.trans (and_iff_right nofun).symm
  | cons a as ih =>
    simp only [List.mapM_cons, bind_eq_ok_iff, pure_eq_ok_iff, h, ih, List.forall_mem_cons,
      List.map_cons]
    constructor
    · rintro ⟨_, ⟨ha, rfl⟩, _, ⟨has, rfl⟩, rfl⟩
      exact ⟨⟨ha, has⟩, rfl⟩
    · rintro ⟨⟨ha, has⟩, rfl⟩
      exact ⟨_, ⟨ha, rfl⟩, _, ⟨has, rfl⟩, rfl⟩

theorem countP_le_one_iff {α : Type} {p : α → Bool} {l : List α} :
    l.countP p ≤ 1 ↔ l.Pairwise fun a b => ¬ (p a = true ∧ p b = true) := by
  induction l with
  | nil => simp
  | cons a l ih =>
    rw [List.pairwise_cons, ← ih, List.countP_cons]
    by_cases ha : p a = true
    · have hnone : l.countP p = 0 ↔ ∀ b ∈ l, ¬ (p a = true ∧ p b = true) := by
        simp [List.countP_eq_zero, ha]
      rw [if_pos ha, ← hnone]
      omega
    · simp [ha]

/-- A plain structure with named fields. At most one of them is the key. -/
structure WellFormed (d : Declaration) : Prop where
  notGeneric : d.isGeneric = false
  named : d.form = .named
  whole : ∀ a ∈ d.attributes, a.IsWhole
  settings : ∀ item ∈ itemsOf d.attributes, ∃ table, item = .setting "table" table
  fields : ∀ f ∈ d.fields, f.WellFormed
  oneKey : d.fields.Pairwise fun f g => ¬ (f.HasFlag "primary_key" ∧ g.HasFlag "primary_key")

/-- What is known of a type is what is written. The table that is given last counts. -/
structure Describes (d : Declaration) (x : Description) : Prop where
  typeName : x.typeName = d.name
  usualTable : itemsOf d.attributes = [] → x.table = Text.lower d.name ++ "s"
  givenTable : ∀ before table,
    itemsOf d.attributes = before ++ [.setting "table" table] → x.table = table
  fields : List.Forall₂ Field.Describes d.fields x.fields

/-- The description of a type by all the items of its declaration. -/
def description (d : Declaration) : Description where
  typeName := d.name
  table := (tableOf (itemsOf d.attributes)).getD (usualTable d.name)
  fields := d.fields.map Field.description

theorem describes_description (d : Declaration) : d.Describes d.description where
  typeName := rfl
  usualTable h := by
    rw [description, h]
    rfl
  givenTable before table h := by
    rw [description, h, tableOf_setting]
    rfl
  fields := by
    rw [description, List.forall₂_map_right_iff, List.forall₂_same]
    exact fun f _ => f.describes_description

theorem countP_primaryKey_le_one_iff (d : Declaration) :
    (d.fields.map Field.description).countP (fun m => m.primaryKey) ≤ 1 ↔
      d.fields.Pairwise fun f g => ¬ (f.HasFlag "primary_key" ∧ g.HasFlag "primary_key") := by
  have hkey (f : Field) : f.description.primaryKey = true ↔ f.HasFlag "primary_key" :=
    f.describes_description.primaryKey
  rw [List.countP_map, countP_le_one_iff]
  simp only [Function.comp_apply, hkey]

theorem describe_eq_ok_iff_fields (d : Declaration) (x : Description) :
    d.describe = .ok x ↔ ¬ d.isGeneric = true ∧ ¬ d.form ≠ .named ∧
      ∃ table, table? d.attributes = .ok table ∧
      ∃ fields, d.fields.mapM Field.describe = .ok fields ∧
        ¬ 1 < fields.countP (fun m => m.primaryKey) ∧
          x = ⟨d.name, table.getD (usualTable d.name), fields⟩ := by
  refine guard_eq_ok_iff.trans (and_congr_right' (guard_eq_ok_iff.trans (and_congr_right' ?_)))
  refine bind_eq_ok_iff.trans (exists_congr fun table => and_congr_right' ?_)
  refine bind_eq_ok_iff.trans (exists_congr fun fields => and_congr_right' ?_)
  exact guard_eq_ok_iff.trans (and_congr_right' pure_eq_ok_iff)

theorem describe_eq_ok_iff (d : Declaration) (x : Description) :
    d.describe = .ok x ↔ d.WellFormed ∧ x = d.description := by
  rw [describe_eq_ok_iff_fields]
  have hkeys := d.countP_primaryKey_le_one_iff
  have hfields := mapM_eq_ok_iff Field.describe_eq_ok_iff d.fields
  constructor
  · rintro ⟨hgeneric, hform, table, htable, fields, hdescribed, hone, rfl⟩
    obtain ⟨hwhole, hsettings, rfl⟩ := table?_eq_ok_iff.mp htable
    obtain ⟨hwell, rfl⟩ := (hfields fields).mp hdescribed
    exact ⟨⟨Bool.eq_false_iff.mpr hgeneric, not_not.mp hform, hwhole, hsettings, hwell,
      hkeys.mp (Nat.not_lt.mp hone)⟩, rfl⟩
  · rintro ⟨h, rfl⟩
    exact ⟨Bool.eq_false_iff.mp h.notGeneric, not_not.mpr h.named, _,
      table?_eq_ok_iff.mpr ⟨h.whole, h.settings, rfl⟩, _, (hfields _).mpr ⟨h.fields, rfl⟩,
      Nat.not_lt.mpr (hkeys.mpr h.oneKey), rfl⟩

/-- The accepted declarations are the well-formed ones. What is known of an accepted type is what its
declaration says. -/
theorem describe_accepts_wellFormed (d : Declaration) :
    ((∃ x, d.describe = .ok x) ↔ d.WellFormed) ∧ ∀ x, d.describe = .ok x → d.Describes x := by
  refine ⟨⟨?_, fun h => ?_⟩, fun x hx => ?_⟩
  · rintro ⟨x, hx⟩
    exact ((d.describe_eq_ok_iff x).mp hx).1
  · exact ⟨_, (d.describe_eq_ok_iff _).mpr ⟨h, rfl⟩⟩
  · rw [((d.describe_eq_ok_iff x).mp hx).2]
    exact d.describes_description

example : describe {
    name := "Reader", isGeneric := false, form := .named
    attributes := [.list [.setting "table" "people"] none]
    fields := [
      { name := "id", type := .path [("i64", [])]
        attributes := [.list [.setting "db" "id"] none, .list [.flag "primary_key"] none] },
      { name := "home", type := .path [("Option", [some (.path [("Home", [])])])]
        attributes := [.list [.flag "nested", .setting "dto" "house"] none] }] } =
    .ok ⟨"Reader", "people", [
      { name := "id", primaryKey := true, tags := [("db", "id")], typeText := "i64",
        kind := .scalar },
      { name := "home", tags := [("dto", "house")], typeText := "Option<Home>",
        kind := .optionalRecord }]⟩ := by
  rfl

end Declaration

end RowMap
