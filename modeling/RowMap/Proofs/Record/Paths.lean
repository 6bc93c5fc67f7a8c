import RowMap.Proofs.Record.Counterpart
import Mathlib.Data.List.Induction

/-!
# Paths of issues

An issue is about the field at its path. Declared names have no dots in them, so the path says which
names lead to the field. The issues of a conversion between compatible types are about fields that
have no counterpart, or are inside of such fields.
-/

namespace RowMap

open RowMap.Tree (Entry)
open Conversion (Issue Source fillField fillFound extend)

/-! ## Names in paths -/

/-- What a field can be called. -/
def IsIdentifier (name : String) : Prop := name ≠ "" ∧ '.' ∉ name.toList

instance (name : String) : Decidable (IsIdentifier name) := inferInstanceAs (Decidable (_ ∧ _))

theorem append_dot_inj {a a' b b' : List Char} (hb : '.' ∉ b) (hb' : '.' ∉ b')
    (h : a ++ '.' :: b = a' ++ '.' :: b') : a = a' ∧ b = b' := by
  rcases List.append_eq_append_iff.mp h with ⟨c, rfl, hc⟩ | ⟨c, rfl, hc⟩
  · cases c with
    | nil => exact ⟨(List.append_nil a).symm, (List.cons.inj hc).2⟩
    | cons d c =>
      have htail : b = c ++ '.' :: b' := (List.cons.inj hc).2
      exact absurd (by rw [htail]; simp) hb
  · cases c with
    | nil => exact ⟨List.append_nil a', (List.cons.inj hc).2.symm⟩
    | cons d c =>
      have htail : b' = c ++ '.' :: b := (List.cons.inj hc).2
      exact absurd (by rw [htail]; simp) hb'

theorem extend_empty (name : String) : extend "" name = name := rfl

theorem toList_extend {path : String} (h : path ≠ "") (name : String) :
    (extend path name).toList = path.toList ++ '.' :: name.toList := by
  rw [extend, if_neg (by simpa using h)]
  simp

theorem extend_ne_empty {name : String} (h : IsIdentifier name) (path : String) :
    extend path name ≠ "" := by
  by_cases hpath : path = ""
  · rw [hpath, extend_empty]
    exact h.1
  · intro hempty
    have := toList_extend hpath name
    rw [hempty] at this
    simp at this

theorem extend_inj {p p' n n' : String} (hn : IsIdentifier n) (hn' : IsIdentifier n')
    (h : extend p n = extend p' n') : p = p' ∧ n = n' := by
  have hlist := congrArg String.toList h
  by_cases hp : p = "" <;> by_cases hp' : p' = ""
  · subst hp hp'
    exact ⟨rfl, h⟩
  · rw [hp, extend_empty, toList_extend hp'] at hlist
    exact absurd (by rw [hlist]; simp) hn.2
  · rw [hp', extend_empty, toList_extend hp] at hlist
    exact absurd (by rw [← hlist]; simp) hn'.2
  · rw [toList_extend hp, toList_extend hp'] at hlist
    obtain ⟨hpaths, hnames⟩ := append_dot_inj hn.2 hn'.2 hlist
    exact ⟨String.toList_injective hpaths, String.toList_injective hnames⟩

namespace Conversion

/-- The path of a field inside the record at a path, by the declared names that lead to it. -/
def pathTo (path : String) (names : List String) : String := names.foldl extend path

theorem pathTo_snoc (path : String) (names : List String) (name : String) :
    pathTo path (names ++ [name]) = extend (pathTo path names) name := by
  simp [pathTo]

theorem pathTo_inj {names names' : List String} (h : ∀ n ∈ names, IsIdentifier n)
    (h' : ∀ n ∈ names', IsIdentifier n) (hsame : pathTo "" names = pathTo "" names') :
    names = names' := by
  induction names using List.reverseRecOn generalizing names' with
  | nil =>
    cases names' using List.reverseRecOn with
    | nil => rfl
    | append_singleton ns n =>
      rw [pathTo_snoc] at hsame
      exact absurd hsame.symm (extend_ne_empty (h' n (by simp)) _)
  | append_singleton ms m ih =>
    cases names' using List.reverseRecOn with
    | nil =>
      rw [pathTo_snoc] at hsame
      exact absurd hsame (extend_ne_empty (h m (by simp)) _)
    | append_singleton ns n =>
      rw [pathTo_snoc, pathTo_snoc] at hsame
      obtain ⟨hpaths, rfl⟩ := extend_inj (h m (by simp)) (h' n (by simp)) hsame
      rw [ih (fun x hx => h x (by simp [hx])) (fun x hx => h' x (by simp [hx])) hpaths]

end Conversion

/-- The fields of a type and of the types in it have names of their own. -/
inductive Fields.Named : Fields → Prop
  | intro {fs : Fields} (names : ∀ f ∈ fs.all, IsIdentifier f.info.name)
      (distinct : (fs.all.map fun f => f.info.name).Nodup)
      (records : ∀ f ∈ fs.all, ∀ inner, f.inner? = some inner → inner.Named) : fs.Named

/-- The fields that lead from a type down to a field have counterparts. -/
def Met (tag : String) : Fields → Fields → List String → Prop
  | _, _, [] => False
  | fs, gs, name :: names =>
    ∃ f ∈ fs.all, ∃ g ∈ gs.all, f.info.name = name ∧ f.Counterpart tag g ∧
      (names = [] ∨ ∃ inner inner', f.inner? = some inner ∧ g.inner? = some inner' ∧
        Met tag inner inner' names)

namespace Conversion

variable {tag path : String} {issue : Issue}

theorem path_of_keep {α : Type} {old : α} {cause : Option Cause}
    (h : issue ∈ (keep old path cause).report) : issue.path = path := by
  cases cause with
  | none => cases h
  | some cause =>
    obtain rfl := List.mem_singleton.mp h
    rfl

theorem path_of_assign {α : Type} {old : α} {m : FieldMeta} {text : String} {new : Option α}
    (h : issue ∈ (assign old path m text new).report) : issue.path = path := by
  cases new with
  | none => exact path_of_keep h
  | some new => cases h

theorem view_cases (e : Entry) : e.view = .absent ∨
    (∃ t a, e.view = .scalar t a ∧ e.field.type? = some t) ∨
    ∃ s r, e.view = .record s r ∧ e.field.inner? = some s.fields ∧ e.field.type? = none := by
  obtain ⟨f, c⟩ := e
  cases f with
  | scalar info t => exact .inr (.inl ⟨t, c, rfl, rfl⟩)
  | optional info t =>
    cases c with
    | none => exact .inl rfl
    | some a => exact .inr (.inl ⟨t, a, rfl, rfl⟩)
  | record info name table inner => exact .inr (.inr ⟨⟨name, table, inner⟩, c, rfl, rfl, rfl⟩)
  | reference info name table inner =>
    cases c with
    | none => exact .inl rfl
    | some r => exact .inr (.inr ⟨⟨name, table, inner⟩, r, rfl, rfl, rfl⟩)

variable [Defaults]

theorem issue_of_fill {source : Option Source} {f : Field} {old : f.Content}
    (h : issue ∈ (fillField tag source path f old).report) : issue.path = path ∨
      ∃ (s : Shape) (r : Record s) (inner : Fields) (target : Tree inner),
        f.inner? = some inner ∧ issue ∈ (fields tag s r path inner target).report := by
  cases f with
  | scalar info t | optional info t =>
    rcases source with _ | ⟨m, _ | _ | _⟩
    · exact .inl (path_of_keep h)
    · exact .inl (path_of_keep h)
    · exact .inl (path_of_assign h)
    · exact .inl (path_of_keep h)
  | record info name table inner =>
    rcases source with _ | ⟨m, _ | _ | ⟨s, r⟩⟩
    · exact .inl (path_of_keep h)
    · exact .inl (path_of_keep h)
    · exact .inl (path_of_keep h)
    · exact .inr ⟨s, r, inner, old, rfl, h⟩
  | reference info name table inner =>
    rcases source with _ | ⟨m, _ | _ | ⟨s, r⟩⟩
    · exact .inl (path_of_keep h)
    · exact .inl (path_of_keep h)
    · exact .inl (path_of_keep h)
    · exact .inr ⟨s, r, inner, _, rfl, h⟩

theorem path_of_issue {gs : Fields} (h : gs.Named) : ∀ (s : Shape) (r : Record s) (path : String)
    (old : Tree gs), ∀ issue ∈ (fields tag s r path gs old).report,
      ∃ name names, (∀ n ∈ name :: names, IsIdentifier n) ∧
        issue.path = pathTo path (name :: names) := by
  induction h with
  | @intro gs hnames distinct records ih =>
    intro s r path old issue hissue
    rw [report_fields, List.mem_flatMap] at hissue
    obtain ⟨x, hx, hissue⟩ := hissue
    have hx := Tree.field_mem hx
    rcases issue_of_fill hissue with hpath | ⟨s', r', inner, target, hinner, hissue⟩
    · exact ⟨_, [], by simpa using hnames _ hx, hpath⟩
    · obtain ⟨name, names, hid, hpath⟩ := ih _ hx inner hinner s' r' _ target issue hissue
      exact ⟨_, name :: names, List.forall_mem_cons.mpr ⟨hnames _ hx, hid⟩, hpath⟩

theorem issue_of_counterpart {e : Entry} {f : Field} {old : f.Content}
    (htype : f.type? = e.field.type?)
    (h : issue ∈ (fillField tag (some e.source) path f old).report) :
    ∃ (s : Shape) (r : Record s) (inner : Fields) (target : Tree inner),
      e.field.inner? = some s.fields ∧ f.inner? = some inner ∧
        issue ∈ (fields tag s r path inner target).report := by
  rcases view_cases e with hview | ⟨t, a, hview, ht⟩ | ⟨s, r, hview, hinner, ht⟩
  · rw [Tree.fill_absent hview] at h
    cases h
  · rw [Entry.source, hview] at h
    rw [ht] at htype
    cases f with
    | scalar info u | optional info u =>
      cases htype
      simp only [fillField, Tree.cast?_self] at h
      cases h
    | record info name table inner | reference info name table inner => cases htype
  · rw [Entry.source, hview] at h
    rw [ht] at htype
    cases f with
    | scalar info u | optional info u => cases htype
    | record info name table inner => exact ⟨s, r, inner, old, hinner, rfl, h⟩
    | reference info name table inner => exact ⟨s, r, inner, _, hinner, rfl, h⟩

/-- No issue is about a field that has counterparts all the way down. -/
theorem path_of_issue_not_met {fs gs : Fields} (h : Compatible tag gs fs) :
    ∀ (name table path : String) (r : Record ⟨name, table, fs⟩) (old : Tree gs), gs.Named →
      ∀ issue ∈ (fields tag ⟨name, table, fs⟩ r path gs old).report,
        ∃ n names, (∀ m ∈ n :: names, IsIdentifier m) ∧ issue.path = pathTo path (n :: names) ∧
          ¬ Met tag gs fs (n :: names) := by
  -- The induction goes down both types at once, along the pairs of counterparts.
  induction h with
  | @intro gs fs left right types records ih =>
    intro name table path r old hnamed issue hissue
    obtain ⟨hnames, hdistinct, hinner⟩ := hnamed
    rw [report_fields, List.mem_flatMap] at hissue
    obtain ⟨x, hx, hissue⟩ := hissue
    have hx := Tree.field_mem hx
    -- The field of a name is the only one that is declared under it.
    have honly {f : Field} (hf : f ∈ gs.all) (hname : f.info.name = x.field.info.name) :
        f = x.field := List.inj_on_of_nodup_map hdistinct hf hx hname
    by_cases hcounterpart : ∃ g ∈ fs.all, x.field.Counterpart tag g
    · obtain ⟨g, hg, hsame⟩ := hcounterpart
      obtain ⟨e, he, rfl⟩ := Tree.exists_entry r hg
      rw [right.fillFound_eq he hsame.symm] at hissue
      obtain ⟨s', r', inner, target, hfrom, hto, hissue⟩ :=
        issue_of_counterpart (types _ hx _ hg hsame) hissue
      obtain ⟨n, names, hid, hpath, hmet⟩ := ih _ hx _ hg hsame inner s'.fields hto hfrom
        s'.typeName s'.table _ r' target (hinner _ hx inner hto) issue hissue
      refine ⟨_, n :: names, List.forall_mem_cons.mpr ⟨hnames _ hx, hid⟩, hpath, ?_⟩
      rintro ⟨f, hf, g', hg', hname, hsame', hnil | ⟨C, D, hC, hD, hbelow⟩⟩
      · cases hnil
      · obtain rfl := honly hf hname
        obtain rfl := right.field_eq hg' hg (hsame'.symm.trans hsame)
        obtain rfl : C = inner := Option.some.inj (hC.symm.trans hto)
        obtain rfl : D = s'.fields := Option.some.inj (hD.symm.trans hfrom)
        exact hmet hbelow
    · have hmet (names : List String) : ¬ Met tag gs fs (x.field.info.name :: names) := by
        rintro ⟨f, hf, g, hg, hname, hsame, -⟩
        obtain rfl := honly hf hname
        exact hcounterpart ⟨g, hg, hsame⟩
      rcases issue_of_fill hissue with hpath | ⟨s', r', inner, target, hto, hissue⟩
      · exact ⟨_, [], by simpa using hnames _ hx, hpath, hmet []⟩
      · obtain ⟨n, names, hid, hpath⟩ :=
          path_of_issue (hinner _ hx inner hto) s' r' _ target issue hissue
        exact ⟨_, n :: names, List.forall_mem_cons.mpr ⟨hnames _ hx, hid⟩, hpath, hmet _⟩

end Conversion

theorem Met.identifiers {tag : String} {fs gs : Fields} (h : fs.Named) {names : List String}
    (hmet : Met tag fs gs names) : ∀ n ∈ names, IsIdentifier n := by
  induction h generalizing gs names with
  | intro hnames distinct records ih =>
    cases names with
    | nil => exact hmet.elim
    | cons n names =>
      obtain ⟨f, hf, g, hg, rfl, hsame, rfl | ⟨inner, inner', hinner, -, hbelow⟩⟩ := hmet
      · simpa using hnames f hf
      · exact List.forall_mem_cons.mpr ⟨hnames f hf, ih f hf inner hinner hbelow⟩

theorem Record.path_ne_of_met [Defaults] {tag : String} {s d : Shape}
    (h : Compatible tag d.fields s.fields) (hnamed : d.fields.Named) (r : Record s) (old : Record d)
    {issue : Issue} (hissue : issue ∈ (r.convertInto tag old).report) {names : List String}
    (hmet : Met tag d.fields s.fields names) : issue.path ≠ Conversion.pathTo "" names := by
  obtain ⟨n, ns, hid, hpath, hnot⟩ :=
    Conversion.path_of_issue_not_met h s.typeName s.table "" r old hnamed issue hissue
  intro hsame
  rw [Conversion.pathTo_inj (hmet.identifiers hnamed) hid (hsame.symm.trans hpath)] at hmet
  exact hnot hmet

end RowMap
