import RowMap.Proofs.Record.Places
import RowMap.Proofs.Record.Rescan
import RowMap.Proofs.Record.SameBut

/-!
# The layout of a record

The layout of a record has a place for each of its own columns and then the layouts of the records
inside it; an absent record has none. It depends on which references are present and on no datum.
-/

namespace RowMap

namespace Tree

/-- The places of a record's own columns, in the order of their declaration. -/
def ownPlaces (typeName : String) (fs : Fields) (r : Tree fs) : List Place :=
  fs.metas.zipIdx.filterMap fun (m, i) => m.column.map fun _ =>
    ⟨typeName, m.name, fun v => verdictOf (scanField typeName 0 v fs r i)⟩

/-- The layouts of the records inside a record, in order. -/
def innerPlaces : (fs : Fields) → Tree fs → List Place
  | .nil, _ => []
  | .scalar _ _ rest, (_, more) => innerPlaces rest more
  | .optional _ _ rest, (_, more) => innerPlaces rest more
  | .record _ name _ inner rest, (r, more) =>
    (ownPlaces name inner r ++ innerPlaces inner r) ++ innerPlaces rest more
  | .reference _ _ _ _ rest, (none, more) => innerPlaces rest more
  | .reference _ name _ inner rest, (some r, more) =>
    (ownPlaces name inner r ++ innerPlaces inner r) ++ innerPlaces rest more

/-- The number of values that the records inside a record take. -/
def innerWidth : (fs : Fields) → Tree fs → Nat
  | .nil, _ => 0
  | .scalar _ _ rest, (_, more) => innerWidth rest more
  | .optional _ _ rest, (_, more) => innerWidth rest more
  | .record _ _ _ inner rest, (r, more) =>
    ((inner.metas.filterMap FieldMeta.column).length + innerWidth inner r) + innerWidth rest more
  | .reference _ _ _ _ rest, (none, more) => innerWidth rest more
  | .reference _ _ _ inner rest, (some r, more) =>
    ((inner.metas.filterMap FieldMeta.column).length + innerWidth inner r) + innerWidth rest more

end Tree

namespace Record

variable {s : Shape}

/-- The places that a scan fills, in the order of the row. -/
def layout (r : Record s) : List Place :=
  Tree.ownPlaces s.typeName s.fields r ++ Tree.innerPlaces s.fields r

/-- The number of columns of a record and of the records inside it. -/
def width (r : Record s) : Nat :=
  (s.metas.filterMap FieldMeta.column).length + Tree.innerWidth s.fields r

end Record

namespace Tree

theorem length_ownPlaces (typeName : String) (fs : Fields) (r : Tree fs) :
    (ownPlaces typeName fs r).length = (fs.metas.filterMap FieldMeta.column).length := by
  have hcount (ms : List FieldMeta) (place : FieldMeta × Nat → Place) (k : Nat) :
      ((ms.zipIdx k).filterMap fun m => m.1.column.map fun _ => place m).length =
        (ms.filterMap FieldMeta.column).length := by
    induction ms generalizing k with
    | nil => rfl
    | cons m ms ih =>
      rw [List.zipIdx_cons, List.filterMap_cons, List.filterMap_cons]
      cases m.column with
      | none => exact ih (k + 1)
      | some c => exact congrArg (· + 1) (ih (k + 1))
  exact hcount fs.metas _ 0

theorem length_innerPlaces (fs : Fields) (r : Tree fs) :
    (innerPlaces fs r).length = innerWidth fs r := by
  induction fs with
  | nil => rfl
  | scalar info t rest ih | optional info t rest ih => exact ih r.2
  | record info name table inner rest ihInner ih =>
    obtain ⟨a, more⟩ := r
    simp only [innerPlaces, innerWidth, List.length_append, length_ownPlaces, ihInner, ih]
  | reference info name table inner rest ihInner ih =>
    obtain ⟨_ | a, more⟩ := r
    · exact ih more
    · simp only [innerPlaces, innerWidth, List.length_append, length_ownPlaces, ihInner, ih]

/-! ## Own places, field by field -/

theorem scanField_index {typeName : String} {fs : Fields} {i : Nat} {m : FieldMeta}
    (hm : fs.metas[i]? = some m) (hcolumn : m.column.isSome) (r : Tree fs) (v : Value)
    (j k : Nat) : scanField typeName j v fs r i = scanField typeName k v fs r i := by
  induction fs generalizing i j k with
  | nil => cases hm
  | scalar info t rest ih =>
    obtain ⟨x, more⟩ := r
    cases i with
    | zero =>
      cases hm
      obtain ⟨u, rfl, hc⟩ := scalar_of_column hcolumn
      exact congrArg (Except.map (·, more)) ((if_pos hc).trans (if_pos hc).symm)
    | succ i => simp only [scanField, ih hm more (j + 1) (k + 1)]
  | optional info t rest ih =>
    obtain ⟨x, more⟩ := r
    cases i with
    | zero =>
      cases hm
      obtain ⟨u, rfl, hc⟩ := scalar_of_column hcolumn
      exact congrArg (Except.map (·, more)) ((if_pos hc).trans (if_pos hc).symm)
    | succ i => simp only [scanField, ih hm more (j + 1) (k + 1)]
  | record info name table inner rest _ ih | reference info name table inner rest _ ih =>
    obtain ⟨a, more⟩ := r
    cases i with
    | zero =>
      cases hm
      have hc : info.column?.isSome := hcolumn
      simp only [scanField, if_pos hc]
    | succ i => simp only [scanField, ih hm more (j + 1) (k + 1)]

theorem ownPlaces_cons {typeName : String} {fs rest : Fields} {r : Tree fs} {more : Tree rest}
    {m : FieldMeta} (h : fs.metas = m :: rest.metas) {f : Tree rest → Tree fs}
    (hmore : ∀ v i, scanField typeName 0 v fs r (i + 1) =
      (scanField typeName 1 v rest more i).map f) :
    ownPlaces typeName fs r =
      (if m.column.isSome then
        [⟨typeName, m.name, fun v => verdictOf (scanField typeName 0 v fs r 0)⟩] else []) ++
      ownPlaces typeName rest more := by
  have htail : (rest.metas.zipIdx 1).filterMap (fun (m, i) => m.column.map fun _ =>
        (⟨typeName, m.name, fun v => verdictOf (scanField typeName 0 v fs r i)⟩ : Place)) =
      ownPlaces typeName rest more := by
    rw [List.zipIdx_succ, List.filterMap_map]
    refine List.filterMap_congr fun ⟨m, i⟩ hmem => ?_
    have hm : rest.metas[i]? = some m := List.mem_zipIdx_iff_getElem?.mp hmem
    refine Option.map_congr fun c hc => ?_
    have hcolumn : m.column.isSome := Option.isSome_of_mem hc
    simp only [hmore, verdictOf_map, scanField_index hm hcolumn more _ 1 0]
  rw [ownPlaces, h, List.zipIdx_cons, List.filterMap_cons, Nat.zero_add, htail]
  cases hcolumn : m.column <;> simp [hcolumn]

/-! ## What scanning a key leaves alone -/

theorem SameBut.alike {p : FieldInfo → Prop} {fs : Fields} {a b : Tree fs}
    (h : SameBut fs p a b) : Alike fs a b := by
  induction fs generalizing p with
  | nil => trivial
  | scalar info t rest ih | optional info t rest ih => exact ⟨nofun, ih h.2⟩
  | record info name table inner rest ihInner ih =>
    refine ⟨?_, ih h.2⟩
    rcases h.1 with hsame | ⟨-, -, hinner⟩
    · rw [hsame]
      exact .refl inner _
    · exact ihInner hinner
  | reference info name table inner rest ihInner ih =>
    obtain ⟨x, more⟩ := a
    obtain ⟨y, more'⟩ := b
    refine ⟨?_, ih h.2⟩
    rcases h.1 with hsame | ⟨-, -, hinner⟩
    · rw [show x = y from hsame]
      exact option_refl (.refl inner) y
    · cases hinner with
      | none => exact .none
      | some hinner => exact .some (ihInner hinner)

theorem alike_of_scanKey {typeName : String} {index : Nat} {v : Value} {fs : Fields}
    {a b : Tree fs} (h : scanKey typeName index v fs a = .ok b) : Alike fs a b :=
  (sameBut_scanKey h).alike

theorem verdict_scanKey (typeName : String) (index : Nat) (v : Value) {fs : Fields}
    {a b : Tree fs} (h : Alike fs a b) :
    verdictOf (scanKey typeName index v fs a) = verdictOf (scanKey typeName index v fs b) := by
  induction fs generalizing typeName index with
  | nil => rfl
  | scalar info t rest ih | optional info t rest ih =>
    obtain ⟨x, more⟩ := a
    obtain ⟨y, more'⟩ := b
    simp only [scanKey]
    split
    · exact verdict_map rfl _ _
    · exact verdict_map (ih typeName (index + 1) h.2) _ _
  | record info name table inner rest ihInner ih =>
    obtain ⟨x, more⟩ := a
    obtain ⟨y, more'⟩ := b
    simp only [scanKey]
    split
    · split
      · exact verdict_map (ihInner name 0 h.1) _ _
      · rfl
    · exact verdict_map (ih typeName (index + 1) h.2) _ _
  | reference info name table inner rest ihInner ih =>
    obtain ⟨x, more⟩ := a
    obtain ⟨y, more'⟩ := b
    obtain ⟨hxy, hmore⟩ : Option.Rel (Alike inner) x y ∧ Alike rest more more' := h
    simp only [scanKey]
    split
    · split
      · cases hxy with
        | none => rfl
        | some hxy => exact verdict_map (ihInner name 0 hxy) _ _
      · rfl
    · exact verdict_map (ih typeName (index + 1) hmore) _ _

theorem verdict_scanField (typeName : String) (index : Nat) (v : Value) {fs : Fields}
    {a b : Tree fs} (h : Alike fs a b) (i : Nat) :
    verdictOf (scanField typeName index v fs a i) =
      verdictOf (scanField typeName index v fs b i) := by
  induction fs generalizing index i with
  | nil => rfl
  | scalar info t rest ih | optional info t rest ih =>
    obtain ⟨x, more⟩ := a
    obtain ⟨y, more'⟩ := b
    cases i with
    | zero => exact verdict_map rfl _ _
    | succ i => exact verdict_map (ih (index + 1) h.2 i) _ _
  | record info name table inner rest _ ih =>
    obtain ⟨x, more⟩ := a
    obtain ⟨y, more'⟩ := b
    cases i with
    | zero =>
      simp only [scanField]
      split
      · exact verdict_map (verdict_scanKey name 0 v h.1) _ _
      · rfl
    | succ i => exact verdict_map (ih (index + 1) h.2 i) _ _
  | reference info name table inner rest _ ih =>
    obtain ⟨x, more⟩ := a
    obtain ⟨y, more'⟩ := b
    obtain ⟨hxy, hmore⟩ : Option.Rel (Alike inner) x y ∧ Alike rest more more' := h
    cases i with
    | zero =>
      simp only [scanField]
      split
      · cases hxy with
        | none => rfl
        | some hxy => exact verdict_map (verdict_scanKey name 0 v hxy) _ _
      · rfl
    | succ i => exact verdict_map (ih (index + 1) hmore i) _ _

theorem ownPlaces_eq (typeName : String) {fs : Fields} {a b : Tree fs} (h : Alike fs a b) :
    ownPlaces typeName fs a = ownPlaces typeName fs b := by
  unfold ownPlaces
  simp only [verdict_scanField typeName 0 _ h]

theorem innerPlaces_eq {fs : Fields} {a b : Tree fs} (h : Alike fs a b) :
    innerPlaces fs a = innerPlaces fs b := by
  induction fs with
  | nil => rfl
  | scalar info t rest ih | optional info t rest ih => exact ih h.2
  | record info name table inner rest ihInner ih =>
    obtain ⟨x, more⟩ := a
    obtain ⟨y, more'⟩ := b
    have hown : ownPlaces name inner x = ownPlaces name inner y := ownPlaces_eq name h.1
    have hinner : innerPlaces inner x = innerPlaces inner y := ihInner h.1
    have hmore : innerPlaces rest more = innerPlaces rest more' := ih h.2
    simp only [innerPlaces, hown, hinner, hmore]
  | reference info name table inner rest ihInner ih =>
    obtain ⟨x, more⟩ := a
    obtain ⟨y, more'⟩ := b
    obtain ⟨hxy, hmore⟩ : Option.Rel (Alike inner) x y ∧ Alike rest more more' := h
    cases hxy with
    | none => exact ih hmore
    | some hxy => simp only [innerPlaces, ownPlaces_eq name hxy, ihInner hxy, ih hmore]

end Tree

end RowMap
