import RowMap.Proofs.Bookshelf.Models
import RowMap.Proofs.Record.Binding

/-!
# Records that differ in a few fields

Scanning a key and assigning a datum change one field. What they leave alone is said for all fields
at once, with the fields that may differ.
-/

namespace RowMap

def IsKey (info : FieldInfo) : Prop := info.primaryKey = true

instance : DecidablePred IsKey := fun info => inferInstanceAs (Decidable (info.primaryKey = true))

namespace Tree

/-- The same data but in the fields that may differ. A record in such a field may differ when it is
the key, and then in its own key. -/
def SameBut : (fs : Fields) → (FieldInfo → Prop) → Tree fs → Tree fs → Prop
  | .nil, _, _, _ => True
  | .scalar info _ rest, p, (x, more), (y, more') => (x = y ∨ p info) ∧ SameBut rest p more more'
  | .optional info _ rest, p, (x, more), (y, more') => (x = y ∨ p info) ∧ SameBut rest p more more'
  | .record info _ _ inner rest, p, (a, more), (b, more') =>
    (a = b ∨ p info ∧ IsKey info ∧ SameBut inner IsKey a b) ∧ SameBut rest p more more'
  | .reference info _ _ inner rest, p, (a, more), (b, more') =>
    (a = b ∨ p info ∧ IsKey info ∧ Option.Rel (SameBut inner IsKey) a b) ∧
      SameBut rest p more more'

variable {p q : FieldInfo → Prop}

theorem SameBut.refl (fs : Fields) (p : FieldInfo → Prop) (r : Tree fs) : SameBut fs p r r := by
  induction fs with
  | nil => trivial
  | scalar info t rest ih | optional info t rest ih => exact ⟨.inl rfl, ih r.2⟩
  | record info name table inner rest _ ih | reference info name table inner rest _ ih =>
    exact ⟨.inl rfl, ih r.2⟩

theorem SameBut.mono (hpq : ∀ info, p info → q info) {fs : Fields} {a b : Tree fs}
    (h : SameBut fs p a b) : SameBut fs q a b := by
  induction fs with
  | nil => trivial
  | scalar info t rest ih | optional info t rest ih => exact ⟨h.1.imp_right (hpq info), ih h.2⟩
  | record info name table inner rest _ ih | reference info name table inner rest _ ih =>
    exact ⟨h.1.imp_right fun ⟨hp, hkey⟩ => ⟨hpq info hp, hkey⟩, ih h.2⟩

theorem same_or_trans {β : Type} {R : β → β → Prop} {c d : Prop} {x y z : β}
    (htrans : R x y → R y z → R x z) (hxy : x = y ∨ c ∧ d ∧ R x y) (hyz : y = z ∨ c ∧ d ∧ R y z) :
    x = z ∨ c ∧ d ∧ R x z := by
  rcases hxy with rfl | ⟨hc, hd, hxy⟩
  · exact hyz
  · rcases hyz with rfl | ⟨-, -, hyz⟩
    · exact .inr ⟨hc, hd, hxy⟩
    · exact .inr ⟨hc, hd, htrans hxy hyz⟩

theorem optionRel_trans {β : Type} {R : β → β → Prop} (htrans : ∀ x y z, R x y → R y z → R x z)
    {x y z : Option β} (hxy : Option.Rel R x y) (hyz : Option.Rel R y z) : Option.Rel R x z := by
  cases hxy with
  | none => exact hyz
  | some hxy =>
    cases hyz with
    | some hyz => exact .some (htrans _ _ _ hxy hyz)

theorem SameBut.trans {fs : Fields} {a b c : Tree fs} (hab : SameBut fs p a b)
    (hbc : SameBut fs p b c) : SameBut fs p a c := by
  induction fs generalizing p with
  | nil => trivial
  | scalar info t rest ih | optional info t rest ih =>
    refine ⟨?_, ih hab.2 hbc.2⟩
    rcases hab.1 with hx | hp
    · rw [hx]
      exact hbc.1
    · exact .inr hp
  | record info name table inner rest ihInner ih =>
    exact ⟨same_or_trans ihInner hab.1 hbc.1, ih hab.2 hbc.2⟩
  | reference info name table inner rest ihInner ih =>
    refine ⟨same_or_trans (fun hxy hyz => ?_) hab.1 hbc.1, ih hab.2 hbc.2⟩
    exact optionRel_trans (fun a b c => @ihInner IsKey a b c) hxy hyz

/-! ## Scanning a key -/

theorem map_eq_ok {ε α β : Type} {x : Except ε α} {f : α → β} {b : β} (h : x.map f = .ok b) :
    ∃ a, x = .ok a ∧ f a = b := by
  cases x with
  | error e => cases h
  | ok a =>
    cases h
    exact ⟨a, rfl, rfl⟩

theorem sameBut_scanKey {v : Value} {fs : Fields} {r r' : Tree fs} {typeName : String}
    {index : Nat} (h : scanKey typeName index v fs r = .ok r') : SameBut fs IsKey r r' := by
  induction fs generalizing typeName index with
  | nil => trivial
  | scalar info t rest ih | optional info t rest ih =>
    obtain ⟨x, more⟩ := r
    rw [scanKey] at h
    split at h
    · next hkey =>
      obtain ⟨y, -, rfl⟩ := map_eq_ok h
      exact ⟨.inr hkey, .refl rest IsKey more⟩
    · obtain ⟨more', hmore, rfl⟩ := map_eq_ok h
      exact ⟨.inl rfl, ih hmore⟩
  | record info name table inner rest ihInner ih =>
    obtain ⟨a, more⟩ := r
    rw [scanKey] at h
    split at h
    · next hkey =>
      split at h
      · obtain ⟨b, hb, rfl⟩ := map_eq_ok h
        exact ⟨.inr ⟨hkey, hkey, ihInner hb⟩, .refl rest IsKey more⟩
      · cases h
    · obtain ⟨more', hmore, rfl⟩ := map_eq_ok h
      exact ⟨.inl rfl, ih hmore⟩
  | reference info name table inner rest ihInner ih =>
    obtain ⟨a, more⟩ := r
    simp only [scanKey] at h
    split at h
    · next hkey =>
      split at h
      · cases a with
        | none =>
          cases h
          exact .refl _ IsKey _
        | some a =>
          obtain ⟨b, hb, rfl⟩ := map_eq_ok h
          exact ⟨.inr ⟨hkey, hkey, .some (ihInner hb)⟩, .refl rest IsKey more⟩
      · cases h
    · obtain ⟨more', hmore, rfl⟩ := map_eq_ok h
      exact ⟨.inl rfl, ih hmore⟩

theorem bind?_of_scanScalar {typeName : String} {index : Nat} {info : FieldInfo} {t : FieldType}
    {v : Value} {x : t.Carrier} (h : scanScalar typeName index info t v = .ok x) :
    t.bind? x = some v := by
  cases t with
  | texts => cases h
  | scalar t =>
    by_cases hcolumn : info.column?.isSome
    · exact congrArg some (ScalarType.bind_of_extract ((if_pos hcolumn).symm.trans h))
    · cases (if_neg hcolumn).symm.trans h

theorem bindOption?_of_scanOptional {typeName : String} {index : Nat} {info : FieldInfo}
    {t : FieldType} {v : Value} {x : Option t.Carrier}
    (h : scanOptional typeName index info t v = .ok x) : t.bindOption? x = some v := by
  cases t with
  | texts => cases h
  | scalar t =>
    by_cases hcolumn : info.column?.isSome
    · exact congrArg some (ScalarType.bindOption_of_extractOption ((if_pos hcolumn).symm.trans h))
    · cases (if_neg hcolumn).symm.trans h

theorem keyValue?_of_scanKey {v : Value} {fs : Fields} {r r' : Tree fs} {typeName : String}
    {index : Nat} (h : scanKey typeName index v fs r = .ok r') :
    keyValue? fs r' = some v ∨ r' = r ∧ keyValue? fs r = none := by
  induction fs generalizing typeName index with
  | nil => exact .inr ⟨rfl, rfl⟩
  | scalar info t rest ih =>
    obtain ⟨x, more⟩ := r
    rw [scanKey] at h
    split at h
    · next hkey =>
      obtain ⟨y, hy, rfl⟩ := map_eq_ok h
      exact .inl ((if_pos hkey).trans (bind?_of_scanScalar hy))
    · next hkey =>
      obtain ⟨more', hmore, rfl⟩ := map_eq_ok h
      exact (ih hmore).imp (if_neg hkey).trans fun ⟨hsame, hnone⟩ =>
        ⟨congrArg (Prod.mk x) hsame, (if_neg hkey).trans hnone⟩
  | optional info t rest ih =>
    obtain ⟨x, more⟩ := r
    rw [scanKey] at h
    split at h
    · next hkey =>
      obtain ⟨y, hy, rfl⟩ := map_eq_ok h
      exact .inl ((if_pos hkey).trans (bindOption?_of_scanOptional hy))
    · next hkey =>
      obtain ⟨more', hmore, rfl⟩ := map_eq_ok h
      exact (ih hmore).imp (if_neg hkey).trans fun ⟨hsame, hnone⟩ =>
        ⟨congrArg (Prod.mk x) hsame, (if_neg hkey).trans hnone⟩
  | record info name table inner rest ihInner ih =>
    obtain ⟨a, more⟩ := r
    rw [scanKey] at h
    split at h
    · next hkey =>
      split at h
      · obtain ⟨b, hb, rfl⟩ := map_eq_ok h
        exact (ihInner hb).imp (if_pos hkey).trans fun ⟨hsame, hnone⟩ =>
          ⟨congrArg (·, more) hsame, (if_pos hkey).trans hnone⟩
      · cases h
    · next hkey =>
      obtain ⟨more', hmore, rfl⟩ := map_eq_ok h
      exact (ih hmore).imp (if_neg hkey).trans fun ⟨hsame, hnone⟩ =>
        ⟨congrArg (Prod.mk a) hsame, (if_neg hkey).trans hnone⟩
  | reference info name table inner rest ihInner ih =>
    obtain ⟨a, more⟩ := r
    simp only [scanKey] at h
    split at h
    · next hkey =>
      split at h
      · cases a with
        | none =>
          cases h
          exact .inr ⟨rfl, if_pos hkey⟩
        | some a =>
          obtain ⟨b, hb, rfl⟩ := map_eq_ok h
          exact (ihInner hb).imp (if_pos hkey).trans fun ⟨hsame, hnone⟩ =>
            ⟨congrArg (some ·, more) hsame, (if_pos hkey).trans hnone⟩
      · cases h
    · next hkey =>
      obtain ⟨more', hmore, rfl⟩ := map_eq_ok h
      exact (ih hmore).imp (if_neg hkey).trans fun ⟨hsame, hnone⟩ =>
        ⟨congrArg (Prod.mk a) hsame, (if_neg hkey).trans hnone⟩

theorem SameBut.keyValue? (hp : ∀ info, p info → ¬IsKey info) {fs : Fields} {a b : Tree fs}
    (h : SameBut fs p a b) : keyValue? fs a = keyValue? fs b := by
  induction fs with
  | nil => rfl
  | scalar info t rest ih | optional info t rest ih =>
    obtain ⟨x, more⟩ := a
    obtain ⟨y, more'⟩ := b
    simp only [Tree.keyValue?]
    split
    · next hkey =>
      rcases h.1 with hx | hinfo
      · rw [show x = y from hx]
      · exact absurd hkey (hp info hinfo)
    · exact ih h.2
  | record info name table inner rest _ ih | reference info name table inner rest _ ih =>
    obtain ⟨x, more⟩ := a
    obtain ⟨y, more'⟩ := b
    simp only [Tree.keyValue?]
    split
    · next hkey =>
      rcases h.1 with hx | ⟨hinfo, -⟩
      · rw [show x = y from hx]
      · exact absurd hkey (hp info hinfo)
    · exact ih h.2

/-! ## Assigning a datum -/

theorem sameBut_assign? {t : FieldType} {x : t.Carrier} {fs : Fields} {r r' : Tree fs} {i : Nat}
    {m : FieldMeta} (h : assign? x fs r i = some r') (hm : fs.metas[i]? = some m)
    (hp : p m.toFieldInfo) : SameBut fs p r r' := by
  induction fs generalizing i with
  | nil => trivial
  | scalar info t rest ih | optional info t rest ih =>
    obtain ⟨y, more⟩ := r
    cases i with
    | zero =>
      cases hm
      obtain ⟨z, -, rfl⟩ := Option.map_eq_some_iff.mp h
      exact ⟨.inr hp, .refl rest p more⟩
    | succ i =>
      obtain ⟨more', hmore, rfl⟩ := Option.map_eq_some_iff.mp h
      exact ⟨.inl rfl, ih hmore hm⟩
  | record info name table inner rest _ ih | reference info name table inner rest _ ih =>
    obtain ⟨y, more⟩ := r
    cases i with
    | zero => cases h
    | succ i =>
      obtain ⟨more', hmore, rfl⟩ := Option.map_eq_some_iff.mp h
      exact ⟨.inl rfl, ih hmore hm⟩

theorem assign?_of_typeAt? (t : FieldType) (x : t.Carrier) {fs : Fields} (r : Tree fs) {i : Nat}
    (h : fs.typeAt? i = some t) : ∃ r', assign? x fs r i = some r' := by
  induction fs generalizing i with
  | nil => cases h
  | scalar info u rest ih | optional info u rest ih =>
    obtain ⟨y, more⟩ := r
    cases i with
    | zero =>
      cases h
      have hcast : cast? t x = some x := dif_pos rfl
      exact ⟨_, congrArg (Option.map _) hcast⟩
    | succ i =>
      obtain ⟨more', hmore⟩ := ih more h
      exact ⟨(y, more'), Option.map_eq_some_iff.mpr ⟨more', hmore, rfl⟩⟩
  | record info name table inner rest _ ih | reference info name table inner rest _ ih =>
    obtain ⟨y, more⟩ := r
    cases i with
    | zero => cases h
    | succ i =>
      obtain ⟨more', hmore⟩ := ih more h
      exact ⟨(y, more'), Option.map_eq_some_iff.mpr ⟨more', hmore, rfl⟩⟩

theorem eq_of_cast? {t u : FieldType} {x : t.Carrier} {y : u.Carrier} (h : cast? u x = some y) :
    View.scalar u y = .scalar t x := by
  unfold cast? at h
  split at h
  · next htype =>
    subst htype
    cases h
    rfl
  · cases h

theorem view?_of_assign? {t : FieldType} {x : t.Carrier} {fs : Fields} {r r' : Tree fs} {i : Nat}
    (h : assign? x fs r i = some r') : view? fs r' i = some (.scalar t x) := by
  induction fs generalizing i with
  | nil => cases h
  | scalar info u rest ih =>
    obtain ⟨y, more⟩ := r
    cases i with
    | zero =>
      obtain ⟨z, hz, rfl⟩ := Option.map_eq_some_iff.mp h
      exact congrArg some (eq_of_cast? hz)
    | succ i =>
      obtain ⟨more', hmore, rfl⟩ := Option.map_eq_some_iff.mp h
      exact ih hmore
  | optional info u rest ih =>
    obtain ⟨y, more⟩ := r
    cases i with
    | zero =>
      obtain ⟨z, hz, rfl⟩ := Option.map_eq_some_iff.mp h
      exact congrArg some (eq_of_cast? hz)
    | succ i =>
      obtain ⟨more', hmore, rfl⟩ := Option.map_eq_some_iff.mp h
      cases y <;> exact ih hmore
  | record info name table inner rest _ ih =>
    obtain ⟨y, more⟩ := r
    cases i with
    | zero => cases h
    | succ i =>
      obtain ⟨more', hmore, rfl⟩ := Option.map_eq_some_iff.mp h
      exact ih hmore
  | reference info name table inner rest _ ih =>
    obtain ⟨y, more⟩ := r
    cases i with
    | zero => cases h
    | succ i =>
      obtain ⟨more', hmore, rfl⟩ := Option.map_eq_some_iff.mp h
      cases y <;> exact ih hmore

end Tree

/-! ## Versioned types -/

/-- The setters of a type change the fields that they are for, and these are no keys. -/
structure Versioned.Keeps (α : Type) [Versioned α] (isVersion isCreatedAt : FieldInfo → Prop) :
    Prop where
  apart (info : FieldInfo) : isVersion info ∨ isCreatedAt info → ¬IsKey info
  toRecord_ofRecord (r : Record (Mapped.shape α)) : Mapped.toRecord (Mapped.ofRecord r : α) = r
  version_setVersion (v : Int32) (a : α) : Versioned.version (Versioned.setVersion v a) = v
  setVersion (v : Int32) (a : α) :
    Tree.SameBut _ isVersion (Mapped.toRecord a) (Mapped.toRecord (Versioned.setVersion v a))
  setCreatedAt (t : Calendar.Instant) (a : α) :
    Tree.SameBut _ isCreatedAt (Mapped.toRecord a) (Mapped.toRecord (Versioned.setCreatedAt t a))

/-- The field has this name, and it is no key. -/
def IsNamed (name : String) (info : FieldInfo) : Prop := info.name = name ∧ ¬IsKey info

/-- The version has a field, and the fields that are assigned by name are no keys. -/
structure Shape.HasVersion (s : Shape) : Prop where
  field : ∃ i m, s.index? "version" = some i ∧ s.metas[i]? = some m ∧ m.kind = .scalar ∧
    s.fields.typeAt? i = some (.scalar .int32)
  apart : ∀ m ∈ s.metas, m.name = "version" ∨ m.name = "created_at" → ¬IsKey m.toFieldInfo

namespace Record

variable {s : Shape}

theorem sameBut_assignNamed (r : Record s) {name : String} (t : ScalarType) (x : t.Carrier)
    (hapart : ∀ m ∈ s.metas, m.name = name → ¬IsKey m.toFieldInfo) :
    Tree.SameBut s.fields (IsNamed name) r (r.assignNamed name t x) := by
  unfold assignNamed
  split
  · next r' hassigned =>
    obtain ⟨i, hindex, hassign⟩ := Option.bind_eq_some_iff.mp hassigned
    obtain ⟨hi, hname, -⟩ := List.findIdx?_eq_some_iff_getElem.mp hindex
    have hname : s.metas[i].name = name := of_decide_eq_true hname
    exact Tree.sameBut_assign? hassign (List.getElem?_eq_getElem hi)
      ⟨hname, hapart _ (List.getElem_mem hi) hname⟩
  · exact .refl s.fields _ r

theorem version_assignNamed (h : s.HasVersion) (r : Record s) (v : Int32) :
    (r.assignNamed "version" .int32 v).version = v := by
  obtain ⟨i, m, hindex, hmeta, hkind, htype⟩ := h.field
  obtain ⟨r', hassign⟩ := Tree.assign?_of_typeAt? (.scalar .int32) v r htype
  have hassigned : r.assignNamed "version" .int32 v = r' := by
    have hfound :
        ((s.index? "version").bind fun i => @assign? s (.scalar .int32) r i v) = some r' := by
      rw [hindex, Option.bind_some]
      exact hassign
    simp only [assignNamed, hfound]
    rfl
  have hview : Record.view? (s := s) r' i = some (.scalar (.scalar .int32) v) :=
    Tree.view?_of_assign? hassign
  simp only [hassigned, version, hindex, Option.bind_some, hmeta, hview, Option.map_some]
  exact if_pos hkind

end Record

theorem keeps_record {s : Shape} (h : s.HasVersion) :
    Versioned.Keeps (Record s) (IsNamed "version") (IsNamed "created_at") where
  apart info := by
    rintro (⟨-, hkey⟩ | ⟨-, hkey⟩) <;> exact hkey
  toRecord_ofRecord r := rfl
  version_setVersion v r := Record.version_assignNamed h r v
  setVersion v r := r.sameBut_assignNamed .int32 v fun m hm hname => h.apart m hm (.inl hname)
  setCreatedAt t r := r.sameBut_assignNamed .instant t fun m hm hname => h.apart m hm (.inr hname)

namespace Bookshelf

theorem keeps_book : Versioned.Keeps Book (IsNamed "version") (IsNamed "created_at") where
  apart info := by
    rintro (⟨-, hkey⟩ | ⟨-, hkey⟩) <;> exact hkey
  toRecord_ofRecord := Book.toTree_ofTree
  version_setVersion v b := rfl
  setVersion v b :=
    ⟨.inl rfl, .inl rfl, .inl rfl, .inl rfl, .inl rfl, .inl rfl, .inr ⟨rfl, nofun⟩, .inl rfl,
      trivial⟩
  setCreatedAt t b :=
    ⟨.inl rfl, .inl rfl, .inl rfl, .inl rfl, .inl rfl, .inr ⟨rfl, nofun⟩, .inl rfl, .inl rfl,
      trivial⟩

theorem keeps_plan : Versioned.Keeps ReadingPlan (IsNamed "version") (IsNamed "created_at") where
  apart info := by
    rintro (⟨-, hkey⟩ | ⟨-, hkey⟩) <;> exact hkey
  toRecord_ofRecord := ReadingPlan.toTree_ofTree
  version_setVersion v p := rfl
  setVersion v p :=
    ⟨.inl rfl, .inl rfl, .inl rfl, .inl rfl, .inl rfl, .inl rfl, .inl rfl, .inl rfl,
      .inr ⟨rfl, nofun⟩, .inl rfl, .inl rfl, trivial⟩
  setCreatedAt t p :=
    ⟨.inl rfl, .inl rfl, .inl rfl, .inl rfl, .inl rfl, .inl rfl, .inl rfl, .inr ⟨rfl, nofun⟩,
      .inl rfl, .inl rfl, .inl rfl, trivial⟩

end Bookshelf

end RowMap
