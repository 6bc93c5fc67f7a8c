import RowMap.Bookshelf.Models
import RowMap.Proofs.Record.Rows
import Mathlib.Data.Option.Basic

/-!
# Scanning the row of a record

The row of a record, scanned into another one of its type, takes the data of the columns over and
nothing else. A foreign key is written first and its record's columns after it, so the keys inside
are written twice, the second time with the same datum.
-/

namespace RowMap

/-! ## Readers of exactly some values -/

/-- Where the values stand under the cursor, a scan takes exactly these and leaves a record. -/
def Takes {α : Type} (scan : Cursor → Scanned α) (values : List Value) (result : α) : Prop :=
  ∀ c rest, c.row.values.drop c.position = values ++ rest →
    scan c = ⟨result, c.skip values.length, none⟩

namespace Takes

variable {α β γ : Type} {first : Cursor → Scanned α} {vs ws : List Value} {x : α}

theorem nothing (x : α) : Takes (fun c => ⟨x, c, none⟩) [] x := fun _ _ _ => rfl

theorem next {typeName field : String} {old new : α} {v : Value}
    {scan : Value → Except ExtractionError α} (h : scan v = .ok new) :
    Takes (fun c => scanNext typeName field c old scan) [v] new := by
  intro c rest hahead
  have hget : c.row.get? c.position = some v := by
    have := congrArg (·[0]?) hahead
    simpa [Row.get?, List.getElem?_drop] using this
  simp only [scanNext, Cursor.next, hget, h]
  rfl

theorem ahead_skip {c : Cursor} {rest : List Value}
    (h : c.row.values.drop c.position = vs ++ rest) :
    (c.skip vs.length).row.values.drop (c.skip vs.length).position = rest := by
  show c.row.values.drop (c.position + vs.length) = rest
  rw [← List.drop_drop, h, List.drop_left]

theorem skip_append (c : Cursor) :
    (c.skip vs.length).skip ws.length = c.skip (vs ++ ws).length := by
  simp [Cursor.skip, Nat.add_assoc]

theorem andThen (hfirst : Takes first vs x) {old y : β} {second : Cursor → Scanned β}
    (hsecond : Takes second ws y) (pair : α → β → γ) :
    Takes (fun c => (first c).andThen old pair second) (vs ++ ws) (pair x y) := by
  intro c rest hahead
  rw [List.append_assoc] at hahead
  have hnext := hsecond (c.skip vs.length) rest (ahead_skip hahead)
  simp only [hfirst c _ hahead, Scanned.andThen, hnext, Scanned.map, skip_append]

theorem whole (hfirst : Takes first vs x) {second : α → Cursor → Scanned α} {y : α}
    (hsecond : Takes (second x) ws y) :
    Takes (fun c => match (first c).error with
      | some _ => first c
      | none => second (first c).record (first c).cursor) (vs ++ ws) y := by
  intro c rest hahead
  rw [List.append_assoc] at hahead
  simp only [hfirst c _ hahead]
  rw [hsecond (c.skip vs.length) rest (ahead_skip hahead), skip_append]

theorem map (hfirst : Takes first vs x) (f : α → β) :
    Takes (fun c => (first c).map f) vs (f x) := by
  intro c rest hahead
  simp only [hfirst c rest hahead, Scanned.map]

end Takes

/-! ## Records that agree -/

def InColumn (info : FieldInfo) (t : FieldType) : Prop := (t.column info).isSome

namespace Tree

/-- The same references are present at every level, and the scalars of some fields are the same. -/
def AgreeOn (p : FieldInfo → FieldType → Prop) : (fs : Fields) → Tree fs → Tree fs → Prop
  | .nil, _, _ => True
  | .scalar info t rest, (x, more), (y, more') => (p info t → x = y) ∧ AgreeOn p rest more more'
  | .optional info t rest, (x, more), (y, more') => (p info t → x = y) ∧ AgreeOn p rest more more'
  | .record _ _ _ inner rest, (a, more), (b, more') =>
    AgreeOn p inner a b ∧ AgreeOn p rest more more'
  | .reference _ _ _ inner rest, (a, more), (b, more') =>
    Option.Rel (AgreeOn p inner) a b ∧ AgreeOn p rest more more'

/-- The same references are present at every level. -/
def Alike (fs : Fields) (a b : Tree fs) : Prop := AgreeOn (fun _ _ => False) fs a b

/-- The scalars of a record itself are the same in the columns. -/
def OwnAgree : (fs : Fields) → Tree fs → Tree fs → Prop
  | .nil, _, _ => True
  | .scalar info t rest, (x, more), (y, more') =>
    (InColumn info t → x = y) ∧ OwnAgree rest more more'
  | .optional info t rest, (x, more), (y, more') =>
    (InColumn info t → x = y) ∧ OwnAgree rest more more'
  | .record _ _ _ _ rest, (_, more), (_, more') => OwnAgree rest more more'
  | .reference _ _ _ _ rest, (_, more), (_, more') => OwnAgree rest more more'

variable {p q : FieldInfo → FieldType → Prop}

theorem option_refl {α : Type} {R : α → α → Prop} (h : ∀ a, R a a) (a : Option α) :
    Option.Rel R a a := by
  cases a with
  | none => exact .none
  | some a => exact .some (h a)

theorem AgreeOn.refl (fs : Fields) (a : Tree fs) : AgreeOn p fs a a := by
  induction fs with
  | nil => trivial
  | scalar info t rest ih | optional info t rest ih =>
    obtain ⟨x, more⟩ := a
    exact ⟨fun _ => rfl, ih more⟩
  | record info name table inner rest ihInner ih =>
    obtain ⟨a, more⟩ := a
    exact ⟨ihInner a, ih more⟩
  | reference info name table inner rest ihInner ih =>
    obtain ⟨a, more⟩ := a
    exact ⟨option_refl ihInner a, ih more⟩

theorem AgreeOn.trans (hpq : ∀ info t, p info t → q info t) (fs : Fields) {a b c : Tree fs}
    (hab : AgreeOn p fs a b) (hbc : AgreeOn q fs b c) : AgreeOn p fs a c := by
  induction fs with
  | nil => trivial
  | scalar info t rest ih | optional info t rest ih =>
    obtain ⟨hx, hmore⟩ := hab
    obtain ⟨hy, hmore'⟩ := hbc
    exact ⟨fun h => (hx h).trans (hy (hpq _ _ h)), ih hmore hmore'⟩
  | record info name table inner rest ihInner ih =>
    exact ⟨ihInner hab.1 hbc.1, ih hab.2 hbc.2⟩
  | reference info name table inner rest ihInner ih =>
    obtain ⟨a, more⟩ := a
    obtain ⟨b, more'⟩ := b
    obtain ⟨c, more''⟩ := c
    refine ⟨?_, ih hab.2 hbc.2⟩
    have h₁ : Option.Rel (AgreeOn p inner) a b := hab.1
    have h₂ : Option.Rel (AgreeOn q inner) b c := hbc.1
    cases h₁ with
    | none => cases h₂; exact .none
    | some h₁ => cases h₂ with | some h₂ => exact .some (ihInner h₁ h₂)

/-! ## Scanning a record's own columns -/

/-- The data of no column: what scanning keeps. -/
def Untouched (fs : Fields) (a b : Tree fs) : Prop :=
  AgreeOn (fun info t => ¬ InColumn info t) fs a b

theorem scanScalar_bind? {info : FieldInfo} {t : FieldType} (hcolumn : InColumn info t)
    {x : t.Carrier} {v : Value} (hv : t.bind? x = some v) (typeName : String) (i : Nat) :
    scanScalar typeName i info t v = .ok x := by
  obtain ⟨u, rfl, hc⟩ := scalar_of_column hcolumn
  obtain rfl : u.bind x = v := Option.some.inj hv
  exact (if_pos hc).trans (u.extract_bind x)

theorem scanOptional_bindOption? {info : FieldInfo} {t : FieldType} (hcolumn : InColumn info t)
    {x : Option t.Carrier} {v : Value} (hv : t.bindOption? x = some v) (typeName : String)
    (i : Nat) : scanOptional typeName i info t v = .ok x := by
  obtain ⟨u, rfl, hc⟩ := scalar_of_column hcolumn
  obtain rfl : u.bindOption x = v := Option.some.inj hv
  exact (if_pos hc).trans (u.extractOption_bindOption x)

theorem scanKey_ok (typeName : String) (fs : Fields) (hkeyed : fs.Keyed) {r : Tree fs} {v : Value}
    (hv : keyValue? fs r = some v) (f : Tree fs) (i : Nat) :
    ∃ g, scanKey typeName i v fs f = .ok g ∧ Untouched fs f g := by
  induction fs generalizing i with
  | nil => cases hv
  | scalar info t rest ih =>
    obtain ⟨x, more⟩ := r
    obtain ⟨y, more'⟩ := f
    by_cases hp : info.primaryKey = true
    · rw [keyValue?, if_pos hp] at hv
      have hcolumn : InColumn info t := hkeyed.1 hp
      refine ⟨(x, more'), ?_, fun h => absurd hcolumn h, AgreeOn.refl rest more'⟩
      rw [scanKey, if_pos hp, scanScalar_bind? hcolumn hv]
      rfl
    · rw [keyValue?, if_neg hp] at hv
      obtain ⟨g, hg, hoff⟩ := ih hkeyed.2 hv more' (i + 1)
      refine ⟨(y, g), ?_, fun _ => rfl, hoff⟩
      rw [scanKey, if_neg hp, hg]
      rfl
  | optional info t rest ih =>
    obtain ⟨x, more⟩ := r
    obtain ⟨y, more'⟩ := f
    by_cases hp : info.primaryKey = true
    · rw [keyValue?, if_pos hp] at hv
      have hcolumn : InColumn info t := hkeyed.1 hp
      refine ⟨(x, more'), ?_, fun h => absurd hcolumn h, AgreeOn.refl rest more'⟩
      rw [scanKey, if_pos hp, scanOptional_bindOption? hcolumn hv]
      rfl
    · rw [keyValue?, if_neg hp] at hv
      obtain ⟨g, hg, hoff⟩ := ih hkeyed.2 hv more' (i + 1)
      refine ⟨(y, g), ?_, fun _ => rfl, hoff⟩
      rw [scanKey, if_neg hp, hg]
      rfl
  | record info name table inner rest _ ih =>
    obtain ⟨x, more⟩ := r
    obtain ⟨y, more'⟩ := f
    obtain ⟨hp, -, -, hrest⟩ := hkeyed
    have hp' : ¬ info.primaryKey = true := by simp [hp]
    rw [keyValue?, if_neg hp'] at hv
    obtain ⟨g, hg, hoff⟩ := ih hrest hv more' (i + 1)
    refine ⟨(y, g), ?_, AgreeOn.refl inner y, hoff⟩
    rw [scanKey, if_neg hp', hg]
    rfl
  | reference info name table inner rest _ ih =>
    obtain ⟨x, more⟩ := r
    obtain ⟨y, more'⟩ := f
    obtain ⟨hp, -, -, hrest⟩ := hkeyed
    have hp' : ¬ info.primaryKey = true := by simp [hp]
    rw [keyValue?, if_neg hp'] at hv
    obtain ⟨g, hg, hoff⟩ := ih hrest hv more' (i + 1)
    refine ⟨(y, g), ?_, option_refl (AgreeOn.refl inner) y, hoff⟩
    simp only [scanKey, if_neg hp', hg]
    rfl

theorem takes_scanColumns (typeName : String) (fs : Fields) (hkeyed : fs.Keyed) {r f : Tree fs}
    (halike : Alike fs r f) : ∃ vs g, ownValues? fs r = some vs ∧
      Takes (scanColumns typeName fs f) vs g ∧ OwnAgree fs r g ∧ Untouched fs f g := by
  induction fs with
  | nil => exact ⟨[], f, rfl, Takes.nothing f, trivial, trivial⟩
  | scalar info t rest ih =>
    obtain ⟨x, more⟩ := r
    obtain ⟨y, more'⟩ := f
    obtain ⟨ws, g, hws, hg, hown, hoff⟩ := ih hkeyed.2 halike.2
    by_cases hcolumn : InColumn info t
    · obtain ⟨u, rfl, hc⟩ := scalar_of_column hcolumn
      refine ⟨u.bind x :: ws, (x, g), ?_, ?_, ⟨fun _ => rfl, hown⟩, fun h => absurd hcolumn h,
        hoff⟩
      · refine ownValues?_cons rfl (fun _ => rfl) ?_ ?_ hws
        · exact hcolumn
        · exact if_pos hcolumn
      · simp only [scanColumns, if_pos hc]
        exact (Takes.next (u.extract_bind x)).andThen hg Prod.mk
    · refine ⟨ws, (y, g), ?_, ?_, ⟨fun h => absurd h hcolumn, hown⟩, fun _ => rfl, hoff⟩
      · refine ownValues?_skip rfl (fun _ => rfl) ?_ hws
        exact hcolumn
      · cases t with
        | texts => exact hg.map _
        | scalar u =>
          have hc : ¬ info.column?.isSome := hcolumn
          simp only [scanColumns, if_neg hc]
          exact (Takes.nothing y).andThen hg Prod.mk
  | optional info t rest ih =>
    obtain ⟨x, more⟩ := r
    obtain ⟨y, more'⟩ := f
    obtain ⟨ws, g, hws, hg, hown, hoff⟩ := ih hkeyed.2 halike.2
    by_cases hcolumn : InColumn info t
    · obtain ⟨u, rfl, hc⟩ := scalar_of_column hcolumn
      refine ⟨u.bindOption x :: ws, (x, g), ?_, ?_, ⟨fun _ => rfl, hown⟩, fun h => absurd hcolumn h,
        hoff⟩
      · refine ownValues?_cons rfl (fun _ => rfl) ?_ ?_ hws
        · exact hcolumn
        · exact if_pos hcolumn
      · simp only [scanColumns, if_pos hc]
        exact (Takes.next (u.extractOption_bindOption x)).andThen hg Prod.mk
    · refine ⟨ws, (y, g), ?_, ?_, ⟨fun h => absurd h hcolumn, hown⟩, fun _ => rfl, hoff⟩
      · refine ownValues?_skip rfl (fun _ => rfl) ?_ hws
        exact hcolumn
      · cases t with
        | texts => exact hg.map _
        | scalar u =>
          have hc : ¬ info.column?.isSome := hcolumn
          simp only [scanColumns, if_neg hc]
          exact (Takes.nothing y).andThen hg Prod.mk
  | record info name table inner rest _ ih =>
    obtain ⟨x, more⟩ := r
    obtain ⟨y, more'⟩ := f
    obtain ⟨-, hkey, hinner, hrest⟩ := hkeyed
    obtain ⟨ws, g, hws, hg, hown, hoff⟩ := ih hrest halike.2
    by_cases hc : info.column?.isSome
    · obtain ⟨v, hv⟩ := Option.isSome_iff_exists.mp
        ((keyValue?_isSome_iff inner hinner.keysHaveColumns x).mpr (hkey hc))
      obtain ⟨y', hy', hsame⟩ := scanKey_ok name inner hinner hv y 0
      refine ⟨v :: ws, (y', g), ?_, ?_, hown, hsame, hoff⟩
      · refine ownValues?_cons rfl (fun _ => rfl) ?_ ?_ hws
        · exact hc
        · exact (if_pos hc).trans hv
      · simp only [scanColumns, if_pos hc]
        exact (Takes.next hy').andThen hg Prod.mk
    · refine ⟨ws, (y, g), ?_, ?_, hown, AgreeOn.refl inner y, hoff⟩
      · refine ownValues?_skip rfl (fun _ => rfl) ?_ hws
        exact hc
      · simp only [scanColumns, if_neg hc]
        exact (Takes.nothing y).andThen hg Prod.mk
  | reference info name table inner rest _ ih =>
    obtain ⟨x, more⟩ := r
    obtain ⟨y, more'⟩ := f
    obtain ⟨-, hkey, hinner, hrest⟩ := hkeyed
    obtain ⟨hxy, halike⟩ : Option.Rel (Alike inner) x y ∧ Alike rest more more' := halike
    obtain ⟨ws, g, hws, hg, hown, hoff⟩ := ih hrest halike
    by_cases hc : info.column?.isSome
    · cases hxy with
      | @some x y hxy =>
        obtain ⟨v, hv⟩ := Option.isSome_iff_exists.mp
          ((keyValue?_isSome_iff inner hinner.keysHaveColumns x).mpr (hkey hc))
        obtain ⟨y', hy', hsame⟩ := scanKey_ok name inner hinner hv y 0
        refine ⟨v :: ws, (some y', g), ?_, ?_, hown, .some hsame, hoff⟩
        · refine ownValues?_cons rfl (fun _ => rfl) ?_ ?_ hws
          · exact hc
          · exact (if_pos hc).trans hv
        · simp only [scanColumns, if_pos hc]
          exact (Takes.next (congrArg (Except.map some) hy')).andThen hg Prod.mk
      | none =>
        -- An absent record is the null of its key, and takes no key back.
        obtain ⟨v, hv⟩ := Option.isSome_iff_exists.mp
          ((nullKey?_isSome_iff inner hinner.keysHaveColumns).mpr (hkey hc))
        refine ⟨v :: ws, (none, g), ?_, ?_, hown, .none, hoff⟩
        · refine ownValues?_cons rfl (fun _ => rfl) ?_ ?_ hws
          · exact hc
          · exact (if_pos hc).trans hv
        · simp only [scanColumns, if_pos hc]
          have hkeyless : (fun _ => .ok none : Value → Except ExtractionError (Option (Tree inner)))
            v = .ok none := rfl
          exact (Takes.next hkeyless).andThen hg Prod.mk
    · refine ⟨ws, (y, g), ?_, ?_, hown, option_refl (AgreeOn.refl inner) y, hoff⟩
      · refine ownValues?_skip rfl (fun _ => rfl) ?_ hws
        exact hc
      · simp only [scanColumns, if_neg hc]
        exact (Takes.nothing y).andThen hg Prod.mk

/-! ## Scanning a whole record -/

theorem Untouched.alike {fs : Fields} {r f g : Tree fs} (halike : Alike fs r f)
    (hoff : Untouched fs f g) : Alike fs r g :=
  AgreeOn.trans (fun _ _ h => h.elim) fs halike hoff

theorem Untouched.trans {fs : Fields} {a b c : Tree fs} (hab : Untouched fs a b)
    (hbc : Untouched fs b c) : Untouched fs a c :=
  AgreeOn.trans (fun _ _ h => h) fs hab hbc

/-- The row of a record goes into its columns and into the records inside it. -/
def Rescans (typeName : String) (fs : Fields) (r f : Tree fs) : Prop :=
  ∃ vs ws g, ownValues? fs r = some vs ∧ innerRows? fs r = some ws ∧
    Takes (fun c => match (scanColumns typeName fs f c).error with
      | some _ => scanColumns typeName fs f c
      | none => scanInner fs (scanColumns typeName fs f c).record
          (scanColumns typeName fs f c).cursor) (vs ++ ws) g ∧
    AgreeOn InColumn fs r g ∧ Untouched fs f g

/-- The records inside a record whose own columns have been scanned. -/
def RescansInner (fs : Fields) (r f : Tree fs) : Prop :=
  ∃ ws g, innerRows? fs r = some ws ∧ Takes (scanInner fs f) ws g ∧
    AgreeOn InColumn fs r g ∧ Untouched fs f g

theorem rescans (typeName : String) {fs : Fields} (hkeyed : fs.Keyed) {r f : Tree fs}
    (halike : Alike fs r f)
    (hinner : ∀ g, Alike fs r g → OwnAgree fs r g → RescansInner fs r g) :
    Rescans typeName fs r f := by
  obtain ⟨vs, g, hvs, hg, hown, hoff⟩ := takes_scanColumns typeName fs hkeyed halike
  obtain ⟨ws, g', hws, hg', hagree, hoff'⟩ := hinner g (hoff.alike halike) hown
  exact ⟨vs, ws, g', hvs, hws, hg.whole hg', hagree, hoff.trans hoff'⟩

theorem rescansInner (fs : Fields) (hkeyed : fs.Keyed) {r f : Tree fs} (halike : Alike fs r f)
    (hown : OwnAgree fs r f) : RescansInner fs r f := by
  induction fs with
  | nil => exact ⟨[], f, rfl, Takes.nothing f, trivial, trivial⟩
  | scalar info t rest ih | optional info t rest ih =>
    obtain ⟨x, more⟩ := r
    obtain ⟨y, more'⟩ := f
    obtain ⟨ws, g, hws, hg, hagree, hoff⟩ := ih hkeyed.2 halike.2 hown.2
    exact ⟨ws, (y, g), hws, hg.map _, ⟨hown.1, hagree⟩, fun _ => rfl, hoff⟩
  | record info name table inner rest ihInner ih =>
    obtain ⟨x, more⟩ := r
    obtain ⟨y, more'⟩ := f
    obtain ⟨-, -, hinner, hrest⟩ := hkeyed
    obtain ⟨us, g, hus, hg, hagree, hoff⟩ := ih hrest halike.2 hown
    -- The columns of the inner record go first, and leave it with the same references.
    obtain ⟨vs, ws, z, hvs, hws, hz, hagree', hoff'⟩ :=
      rescans name hinner halike.1 fun g hg hown => ihInner hinner hg hown
    refine ⟨vs ++ ws ++ us, (z, g), ?_, hz.andThen hg Prod.mk, ⟨hagree', hagree⟩, hoff', hoff⟩
    simp only [innerRows?, hvs, hws, hus]
    rfl
  | reference info name table inner rest ihInner ih =>
    obtain ⟨x, more⟩ := r
    obtain ⟨y, more'⟩ := f
    obtain ⟨-, -, hinner, hrest⟩ := hkeyed
    obtain ⟨hxy, halike⟩ : Option.Rel (Alike inner) x y ∧ Alike rest more more' := halike
    obtain ⟨us, g, hus, hg, hagree, hoff⟩ := ih hrest halike hown
    cases hxy with
    | none =>
      -- An absent record takes nothing of the row.
      exact ⟨us, (none, g), hus, hg.map _, ⟨.none, hagree⟩, .none, hoff⟩
    | some hxy =>
      obtain ⟨vs, ws, z, hvs, hws, hz, hagree', hoff'⟩ :=
        rescans name hinner hxy fun g hg hown => ihInner hinner hg hown
      refine ⟨vs ++ ws ++ us, (some z, g), ?_, ?_, ⟨.some hagree', hagree⟩, .some hoff', hoff⟩
      · simp only [innerRows?, hvs, hws, hus]
        rfl
      · exact hz.andThen hg fun r more => (some r, more)

end Tree

namespace Record

variable {s : Shape}

/-- Every record of a keyed type has a row. Scanned into another record of the type with the same
references, the row is used up, the columns of both records agree at every level, and what no
column holds is as it was. -/
theorem scan_of_own_row (hkeyed : s.fields.Keyed) (r f : Record s)
    (halike : Tree.Alike s.fields r f) (names : List String) :
    ∃ values g, r.rowValues? = some values ∧
      f.scan (Row.cursor ⟨names, values⟩) = ⟨g, ⟨⟨names, values⟩, values.length⟩, none⟩ ∧
      Tree.AgreeOn InColumn s.fields r g ∧
      Tree.AgreeOn (fun info t => ¬ InColumn info t) s.fields f g := by
  obtain ⟨vs, ws, g, hvs, hws, hg, hagree, hoff⟩ :=
    Tree.rescans s.typeName hkeyed halike fun _ => Tree.rescansInner s.fields hkeyed
  refine ⟨vs ++ ws, g, ?_, ?_, hagree, hoff⟩
  · simp only [rowValues?, hvs, hws]
    rfl
  · have hscan := hg (Row.cursor ⟨names, vs ++ ws⟩) [] (by simp [Row.cursor])
    rw [Cursor.skip, Row.cursor, Nat.zero_add] at hscan
    exact hscan

end Record

namespace Bookshelf

def dune : Book where
  id := 42
  title := "Dune"
  author := "Frank Herbert"
  pages := 412
  version := 5

def ada : User where
  id := 3
  name := "Ada"
  email := "ada@example.org"

/-- A plan with its book, which nobody owns, and its reader. -/
def summerPlan : ReadingPlan where
  id := 7
  status := some ⟨1, by decide⟩
  minutesPerDay := 30
  version := 2
  book := some dune
  user := some ada

/-- A plan that waits for a row with a book and a reader. -/
def joinedPlan : ReadingPlan where
  book := some {}
  user := some {}

theorem summerPlan_rescanned :
    (Mapped.shape ReadingPlan).fields.Keyed ∧
    Tree.Alike _ (Mapped.toRecord summerPlan) (Mapped.toRecord joinedPlan) ∧
    ∃ values g, (Mapped.toRecord summerPlan).rowValues? = some values ∧
      (Mapped.toRecord joinedPlan).scan (Row.cursor ⟨[], values⟩) =
        ⟨g, ⟨⟨[], values⟩, values.length⟩, none⟩ ∧
      Tree.AgreeOn InColumn _ (Mapped.toRecord summerPlan) g ∧
      Tree.AgreeOn (fun info t => ¬ InColumn info t) _ (Mapped.toRecord joinedPlan) g := by
  have hkeyed : (Mapped.shape ReadingPlan).fields.Keyed := by decide
  have hbook : Tree.Alike Book.fields dune.toTree ({} : Book).toTree :=
    ⟨nofun, nofun, nofun, nofun, nofun, nofun, nofun, .none, trivial⟩
  have huser : Tree.Alike User.fields ada.toTree ({} : User).toTree :=
    ⟨nofun, nofun, nofun, trivial⟩
  have halike : Tree.Alike _ (Mapped.toRecord summerPlan) (Mapped.toRecord joinedPlan) :=
    ⟨nofun, nofun, nofun, nofun, nofun, nofun, nofun, nofun, nofun, .some hbook, .some huser,
      trivial⟩
  exact ⟨hkeyed, halike, Record.scan_of_own_row hkeyed _ _ halike []⟩

end Bookshelf

end RowMap
