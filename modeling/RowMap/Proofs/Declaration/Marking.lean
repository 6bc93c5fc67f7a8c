import Mathlib.Data.List.Nodup
import RowMap.Declaration.Basic

/-!
# What attributes say

Attributes say something only if each is a list that is read to its end. Then their items count in
the order they are written, no matter how many lists they are spread over: a flag is a word alone, a
tag is any other word with a text, and the keys of tags are distinct.
-/

namespace RowMap.Declaration

theorem bind_eq_ok_iff {ε α β : Type} {x : Except ε α} {f : α → Except ε β} {b : β} :
    (x >>= f) = .ok b ↔ ∃ a, x = .ok a ∧ f a = .ok b := by
  cases x with
  | error e => exact iff_of_false nofun (by simp)
  | ok a =>
    constructor
    · intro h
      exact ⟨a, rfl, h⟩
    · rintro ⟨_, ha, h⟩
      cases ha
      exact h

/-! ## Items -/

def Attribute.items : Attribute → List Item
  | .list items _ => items
  | _ => []

/-- A list without a fault in it. -/
def Attribute.IsWhole (a : Attribute) : Prop := ∃ items, a = .list items none

/-- The items of attributes in the order they are written. -/
def itemsOf (attributes : List Attribute) : List Item := attributes.flatMap Attribute.items

/-- The words that are flags of a field. -/
def flagWords : List String := ["primary_key", "nested", "generated"]

namespace Item

/-- A word alone. -/
def flag (word : String) : Item := ⟨some word, .absent⟩

/-- A word with a text, and nothing behind it. -/
def setting (word value : String) : Item := ⟨some word, .text value true⟩

@[simp]
theorem flag_inj {word other : String} : flag word = flag other ↔ word = other := by
  simp [flag]

@[simp]
theorem flag_ne_setting (word key value : String) : flag word ≠ setting key value := nofun

/-- What may be said of a field. -/
inductive OfField : Item → Prop
  | flag {word : String} (h : word ∈ flagWords) : OfField (flag word)
  | tag {key : String} (value : String) (h : key ∉ flagWords) : OfField (setting key value)

/-- The tag that an item writes. -/
def tag? : Item → Option (String × String)
  | ⟨some key, .text value true⟩ => if key ∈ flagWords then none else some (key, value)
  | _ => none

@[simp]
theorem tag?_flag (word : String) : (flag word).tag? = none := rfl

theorem tag?_setting {key : String} (value : String) (h : key ∉ flagWords) :
    (setting key value).tag? = some (key, value) := if_neg h

end Item

/-- The tags that items write, in their order. -/
def tagsOf (items : List Item) : List (String × String) := items.filterMap Item.tag?

/-- What items say of a field all together. -/
def Marks.ofItems (items : List Item) : Marks where
  tags := tagsOf items
  primaryKey := Item.flag "primary_key" ∈ items
  nested := Item.flag "nested" ∈ items
  generated := Item.flag "generated" ∈ items

/-! ## Lists one after another -/

section
variable {ε σ : Type} (lift : SyntaxFault → ε) (step : σ → Item → Except ε σ)

theorem foldItems_eq_ok_iff (attributes : List Attribute) (start s : σ) :
    Attribute.foldItems lift step start attributes = .ok s ↔
      (∀ a ∈ attributes, a.IsWhole) ∧ (itemsOf attributes).foldlM step start = .ok s := by
  induction attributes generalizing start with
  | nil => exact ⟨fun h => ⟨nofun, h⟩, fun h => h.2⟩
  | cons a attributes ih =>
    rw [List.forall_mem_cons, itemsOf, List.flatMap_cons, List.foldlM_append, bind_eq_ok_iff]
    refine bind_eq_ok_iff.trans ?_
    cases a with
    | bare | assigned => exact iff_of_false (by rintro ⟨_, ⟨⟩, _⟩) (by rintro ⟨⟨⟨_, ⟨⟩⟩, _⟩, _⟩)
    | list items fault =>
      cases fault with
      | some fault =>
        refine iff_of_false ?_ (by rintro ⟨⟨⟨_, ⟨⟩⟩, _⟩, _⟩)
        rintro ⟨middle, h, -⟩
        obtain ⟨_, _, ⟨⟩⟩ := bind_eq_ok_iff.mp h
      | none =>
        have hwhole : (Attribute.list items none).IsWhole := ⟨items, rfl⟩
        have hitems : (items.foldlM step start >>= .ok) = items.foldlM step start := bind_pure _
        constructor
        · rintro ⟨middle, hfirst, hrest⟩
          obtain ⟨hall, hfold⟩ := (ih middle).mp hrest
          exact ⟨⟨hwhole, hall⟩, middle, hitems.symm.trans hfirst, hfold⟩
        · rintro ⟨⟨-, hall⟩, middle, hfirst, hfold⟩
          exact ⟨middle, hitems.trans hfirst, (ih middle).mpr ⟨hall, hfold⟩⟩

end

/-! ## Items of a field -/

theorem flagged_eq_ok_iff {item : Item} {marks m : Marks} :
    flagged item marks = .ok m ↔ item.argument = .absent ∧ m = marks := by
  unfold flagged
  cases item.argument <;> simp [eq_comm]

theorem tagged_eq_ok_iff {item : Item} {key : String} {marks m : Marks} :
    tagged item key marks = .ok m ↔ ∃ value, item.argument = .text value true ∧
      key ∉ marks.tags.map Prod.fst ∧ m = { marks with tags := marks.tags ++ [(key, value)] } := by
  have hlookup : (marks.tags.lookup key).isSome = true ↔ key ∈ marks.tags.map Prod.fst := by
    simp [List.lookup_isSome_iff]
  unfold tagged
  cases hargument : item.argument with
  | absent | malformed => simp [Argument.text?]
  | text value closed =>
    simp only [Argument.text?, hlookup]
    split
    · next hknown => exact iff_of_false nofun fun ⟨_, _, hnew, _⟩ => hnew hknown
    · next hnew =>
      cases closed <;> simp [hnew, eq_comm]

section
variable {word : String} (before : List Item)

@[simp]
theorem tagsOf_flag : tagsOf (before ++ [.flag word]) = tagsOf before := by
  simp [tagsOf]

theorem tagsOf_setting (h : word ∉ flagWords) (value : String) :
    tagsOf (before ++ [.setting word value]) = tagsOf before ++ [(word, value)] := by
  simp [tagsOf, Item.tag?_setting value h]

theorem nodup_tagsOf_setting (h : word ∉ flagWords) (value : String) :
    ((tagsOf (before ++ [.setting word value])).map Prod.fst).Nodup ↔
      word ∉ (tagsOf before).map Prod.fst ∧ ((tagsOf before).map Prod.fst).Nodup := by
  rw [tagsOf_setting before h, List.map_append, List.map_singleton, ← List.concat_eq_append]
  exact List.nodup_concat _ _

theorem ofItems_setting (h : word ∉ flagWords) (value : String) :
    Marks.ofItems (before ++ [.setting word value]) =
      { Marks.ofItems before with tags := tagsOf before ++ [(word, value)] } := by
  simp [Marks.ofItems, tagsOf_setting before h]

variable (argument : Argument)

theorem ofField_of_flagWord (h : word ∈ flagWords) :
    Item.OfField ⟨some word, argument⟩ ↔ argument = .absent := by
  constructor
  · rintro ⟨-⟩
    · rfl
    · contradiction
  · rintro rfl
    exact .flag h

theorem ofField_of_key (h : word ∉ flagWords) :
    Item.OfField ⟨some word, argument⟩ ↔ ∃ value, argument = .text value true := by
  constructor
  · intro hitem
    cases hitem with
    | flag hword => exact absurd hword h
    | tag value _ => exact ⟨value, rfl⟩
  · rintro ⟨value, rfl⟩
    exact .tag value h

theorem markStep_flag (h : word ∈ flagWords) :
    markStep (.ofItems before) ⟨some word, argument⟩ =
      flagged ⟨some word, argument⟩ (.ofItems (before ++ [.flag word])) := by
  simp only [flagWords, List.mem_cons, List.not_mem_nil, or_false] at h
  rcases h with rfl | rfl | rfl <;> simp [markStep, Marks.ofItems]

theorem markStep_key (h : word ∉ flagWords) (marks : Marks) :
    markStep marks ⟨some word, argument⟩ = tagged ⟨some word, argument⟩ word marks := by
  simp only [flagWords, List.mem_cons, List.not_mem_nil, or_false, not_or] at h
  unfold markStep
  split <;> simp_all

end

theorem markStep_ofItems {before : List Item} (hbefore : ((tagsOf before).map Prod.fst).Nodup)
    (item : Item) (m : Marks) :
    markStep (.ofItems before) item = .ok m ↔ item.OfField ∧
      ((tagsOf (before ++ [item])).map Prod.fst).Nodup ∧ m = .ofItems (before ++ [item]) := by
  obtain ⟨word, argument⟩ := item
  cases word with
  | none => exact iff_of_false nofun fun h => nomatch h.1
  | some word =>
    by_cases hword : word ∈ flagWords
    · rw [markStep_flag before argument hword, flagged_eq_ok_iff,
        ofField_of_flagWord argument hword]
      refine and_congr_right ?_
      rintro rfl
      change _ ↔ ((tagsOf (before ++ [.flag word])).map Prod.fst).Nodup ∧ _
      rw [tagsOf_flag]
      exact (and_iff_right hbefore).symm
    · rw [markStep_key argument hword, tagged_eq_ok_iff, ofField_of_key argument hword]
      constructor
      · rintro ⟨value, rfl, hnew, rfl⟩
        exact ⟨⟨value, rfl⟩, (nodup_tagsOf_setting before hword value).mpr ⟨hnew, hbefore⟩,
          (ofItems_setting before hword value).symm⟩
      · rintro ⟨⟨value, rfl⟩, hnodup, rfl⟩
        exact ⟨value, rfl, ((nodup_tagsOf_setting before hword value).mp hnodup).1,
          ofItems_setting before hword value⟩

theorem foldlM_markStep_eq_ok_iff (items : List Item) {before : List Item}
    (hbefore : ((tagsOf before).map Prod.fst).Nodup) (m : Marks) :
    items.foldlM markStep (.ofItems before) = .ok m ↔ (∀ item ∈ items, item.OfField) ∧
      ((tagsOf (before ++ items)).map Prod.fst).Nodup ∧ m = .ofItems (before ++ items) := by
  induction items generalizing before with
  | nil =>
    rw [List.append_nil]
    exact ⟨fun h => by cases h; exact ⟨nofun, hbefore, rfl⟩, fun h => congrArg Except.ok h.2.2.symm⟩
  | cons item items ih =>
    rw [List.foldlM_cons, bind_eq_ok_iff, List.forall_mem_cons, List.append_cons]
    constructor
    · rintro ⟨marks, hstep, hrest⟩
      obtain ⟨hitem, hnodup, rfl⟩ := (markStep_ofItems hbefore item marks).mp hstep
      obtain ⟨hitems, hall⟩ := (ih hnodup).mp hrest
      exact ⟨⟨hitem, hitems⟩, hall⟩
    · rintro ⟨⟨hitem, hitems⟩, hnodup, hm⟩
      have hfirst : ((tagsOf (before ++ [item])).map Prod.fst).Nodup := by
        rw [tagsOf, List.filterMap_append, List.map_append] at hnodup
        exact hnodup.of_append_left
      exact ⟨_, (markStep_ofItems hbefore item _).mpr ⟨hitem, hfirst, rfl⟩,
        (ih hfirst).mpr ⟨hitems, hnodup, hm⟩⟩

theorem marks_eq_ok_iff {attributes : List Attribute} {m : Marks} :
    marks attributes = .ok m ↔ (∀ a ∈ attributes, a.IsWhole) ∧
      (∀ item ∈ itemsOf attributes, item.OfField) ∧
      ((tagsOf (itemsOf attributes)).map Prod.fst).Nodup ∧ m = .ofItems (itemsOf attributes) := by
  rw [marks, foldItems_eq_ok_iff]
  have hnone : ((tagsOf []).map Prod.fst).Nodup := List.nodup_nil
  exact and_congr_right fun _ => foldlM_markStep_eq_ok_iff _ hnone m

end RowMap.Declaration
