import RowMap.Proofs.Record.SameBut

/-!
# Slots

A slot is a field with write access: what the field is, what it holds, and the record with something
else in it. What a record does at an index it does to the slot there. So whatever holds of every
slot holds of every field, and a proof about fields need not walk along them again.
-/

namespace RowMap

/-- The type of the record at an index, also when it is optional. -/
def Fields.shapeAt? : Fields → Nat → Option Shape
  | .nil, _ => none
  | .scalar .., 0 => none
  | .optional .., 0 => none
  | .record _ name table inner _, 0 => some ⟨name, table, inner⟩
  | .reference _ name table inner _, 0 => some ⟨name, table, inner⟩
  | .scalar _ _ rest, i + 1 => rest.shapeAt? i
  | .optional _ _ rest, i + 1 => rest.shapeAt? i
  | .record _ _ _ _ rest, i + 1 => rest.shapeAt? i
  | .reference _ _ _ _ rest, i + 1 => rest.shapeAt? i

/-- A field of a record and the record with another content in it. -/
inductive Tree.Slot (fs : Fields)
  | scalar (info : FieldInfo) (t : FieldType) (x : t.Carrier) (put : t.Carrier → Tree fs)
  | optional (info : FieldInfo) (t : FieldType) (x : Option t.Carrier)
    (put : Option t.Carrier → Tree fs)
  | record (info : FieldInfo) (shape : Shape) (r : Tree shape.fields)
    (put : Tree shape.fields → Tree fs)
  | reference (info : FieldInfo) (shape : Shape) (r : Option (Tree shape.fields))
    (put : Option (Tree shape.fields) → Tree fs)

namespace Tree

/-- The slot of a list of fields inside a longer one. -/
def Slot.within {fs gs : Fields} (f : Tree fs → Tree gs) : Slot fs → Slot gs
  | .scalar info t x put => .scalar info t x (f ∘ put)
  | .optional info t x put => .optional info t x (f ∘ put)
  | .record info shape r put => .record info shape r (f ∘ put)
  | .reference info shape r put => .reference info shape r (f ∘ put)

/-- Write access to the field at an index. -/
def slot? : (fs : Fields) → Tree fs → Nat → Option (Slot fs)
  | .nil, _, _ => none
  | .scalar info t _, (x, more), 0 => some (.scalar info t x fun y => (y, more))
  | .optional info t _, (x, more), 0 => some (.optional info t x fun y => (y, more))
  | .record info name table inner _, (r, more), 0 =>
    some (.record info ⟨name, table, inner⟩ r fun a => (a, more))
  | .reference info name table inner _, (r, more), 0 =>
    some (.reference info ⟨name, table, inner⟩ r fun a => (a, more))
  | .scalar _ _ rest, (x, more), i + 1 => (slot? rest more i).map (Slot.within fun m => (x, m))
  | .optional _ _ rest, (x, more), i + 1 => (slot? rest more i).map (Slot.within fun m => (x, m))
  | .record _ _ _ _ rest, (r, more), i + 1 => (slot? rest more i).map (Slot.within fun m => (r, m))
  | .reference _ _ _ _ rest, (r, more), i + 1 =>
    (slot? rest more i).map (Slot.within fun m => (r, m))

namespace Slot

variable {fs gs : Fields}

/-- The description of the field. -/
def fieldMeta : Slot fs → FieldMeta
  | .scalar info t _ _ => ⟨info, t.name, .scalar, t.isStorable⟩
  | .optional info t _ _ => ⟨info, optionalText t.name, .optionalScalar, t.isStorable⟩
  | .record info shape _ _ => ⟨info, shape.typeName, .record, true⟩
  | .reference info shape _ _ => ⟨info, optionalText shape.typeName, .optionalRecord, true⟩

/-- The type of the record in the field. -/
def shape? : Slot fs → Option Shape
  | .record _ shape _ _ => some shape
  | .reference _ shape _ _ => some shape
  | _ => none

/-- An optional field that holds nothing. -/
def isNone : Slot fs → Bool
  | .optional _ _ none _ => true
  | .reference _ _ none _ => true
  | _ => false

/-- What is seen in the field without write access. -/
def view : Slot fs → View
  | .scalar _ t x _ => .scalar t x
  | .optional _ t (some x) _ => .scalar t x
  | .optional _ _ none _ => .absent
  | .record _ shape r _ => .record shape r
  | .reference _ shape (some r) _ => .record shape r
  | .reference _ _ none _ => .absent

/-- The record with a datum in the field, if the field is a scalar of exactly the datum's type. -/
def assign? {s : FieldType} (y : s.Carrier) : Slot fs → Option (Tree fs)
  | .scalar _ t _ put => (cast? t y).map put
  | .optional _ t _ put => (cast? t y).map fun y => put (some y)
  | .record .. => none
  | .reference .. => none

/-- The record with another content in the field, if the field is an optional record. -/
def setReference? (content : (inner : Fields) → Option (Tree inner)) : Slot fs → Option (Tree fs)
  | .reference _ shape _ put => some (put (content shape.fields))
  | _ => none

/-- The value of the field's column. -/
def columnValue? : Slot fs → Option Value
  | .scalar info t x _ => if (t.column info).isSome then t.bind? x else none
  | .optional info t x _ => if (t.column info).isSome then t.bindOption? x else none
  | .record info shape r _ => if info.column?.isSome then Tree.keyValue? shape.fields r else none
  | .reference info shape (some r) _ =>
    if info.column?.isSome then Tree.keyValue? shape.fields r else none
  | .reference info shape none _ =>
    if info.column?.isSome then Tree.nullKey? shape.fields else none

/-- The record with the field scanned from the value of its column. -/
def scan (typeName : String) (index : Nat) (v : Value) :
    Slot fs → Except ExtractionError (Tree fs)
  | .scalar info t _ put => (scanScalar typeName index info t v).map put
  | .optional info t _ put => (scanOptional typeName index info t v).map put
  | .record info shape r put =>
    if info.column?.isSome then (scanKey shape.typeName 0 v shape.fields r).map put
    else .error (noColumn typeName index)
  | .reference info shape (some r) put =>
    if info.column?.isSome then
      (scanKey shape.typeName 0 v shape.fields r).map fun r => put (some r)
    else .error (noColumn typeName index)
  | .reference info _ none put =>
    if info.column?.isSome then .ok (put none) else .error (noColumn typeName index)

/-! ## Slots in a longer list of fields -/

variable (f : Tree fs → Tree gs) (slot : Slot fs)

@[simp]
theorem fieldMeta_within : (slot.within f).fieldMeta = slot.fieldMeta := by
  cases slot <;> rfl

@[simp]
theorem shape?_within : (slot.within f).shape? = slot.shape? := by
  cases slot <;> rfl

@[simp]
theorem view_within : (slot.within f).view = slot.view := by
  rcases slot with _ | ⟨_, _, _ | _, _⟩ | _ | ⟨_, _, _ | _, _⟩ <;> rfl

@[simp]
theorem columnValue?_within : (slot.within f).columnValue? = slot.columnValue? := by
  rcases slot with _ | _ | _ | ⟨_, _, _ | _, _⟩ <;> rfl

theorem assign?_within {s : FieldType} (y : s.Carrier) :
    (slot.within f).assign? y = (slot.assign? y).map f := by
  cases slot with
  | scalar _ t _ _ | optional _ t _ _ => exact (Option.map_map f _ (cast? t y)).symm
  | record | reference => rfl

theorem setReference?_within (content : (inner : Fields) → Option (Tree inner)) :
    (slot.within f).setReference? content = (slot.setReference? content).map f := by
  cases slot <;> rfl

theorem map_comp {ε α β γ : Type} (x : Except ε α) (g : α → β) (f : β → γ) :
    x.map (f ∘ g) = (x.map g).map f := by
  cases x <;> rfl

theorem scan_within (typeName : String) (index : Nat) (v : Value) :
    (slot.within f).scan typeName index v = (slot.scan typeName index v).map f := by
  rcases slot with _ | _ | ⟨info, _, _, _⟩ | ⟨info, _, _ | _, _⟩
  · exact map_comp _ _ _
  · exact map_comp _ _ _
  all_goals
    simp only [within, scan]
    split
    · first | exact map_comp _ _ _ | rfl
    · rfl

end Slot

/-! ## A record at an index is its slot -/

variable {fs gs : Fields} {α β : Type}

theorem map_within {f : Tree fs → Tree gs} {g : Slot gs → α} {g' : Slot fs → α}
    (h : ∀ slot, g (slot.within f) = g' slot) (slot : Option (Slot fs)) :
    (slot.map (Slot.within f)).map g = slot.map g' := by
  rw [Option.map_map]
  exact congrArg (Option.map · slot) (funext h)

theorem view_within (f : Tree fs → Tree gs) (slot : Option (Slot fs)) :
    (slot.map (Slot.within f)).map Slot.view = slot.map Slot.view :=
  map_within (Slot.view_within f) slot

theorem bind_within {f : Tree fs → Tree gs} {g : Slot gs → Option α} {g' : Slot fs → Option β}
    {k : β → α} (h : ∀ slot, g (slot.within f) = (g' slot).map k) (slot : Option (Slot fs)) :
    (slot.map (Slot.within f)).bind g = (slot.bind g').map k := by
  cases slot with
  | none => rfl
  | some slot => exact h slot

theorem metas_eq_slot? (fs : Fields) (r : Tree fs) (i : Nat) :
    fs.metas[i]? = (slot? fs r i).map Slot.fieldMeta := by
  fun_induction slot? fs r i with
  | case1 | case2 | case3 | case4 | case5 => rfl
  | case6 _ _ _ _ _ _ ih | case7 _ _ _ _ _ _ ih | case8 _ _ _ _ _ _ _ _ ih
  | case9 _ _ _ _ _ _ _ _ ih =>
    exact ih.trans (map_within (Slot.fieldMeta_within _) _).symm

theorem shapeAt?_eq_slot? (fs : Fields) (r : Tree fs) (i : Nat) :
    fs.shapeAt? i = (slot? fs r i).bind Slot.shape? := by
  fun_induction slot? fs r i with
  | case1 | case2 | case3 | case4 | case5 => rfl
  | case6 _ _ _ _ _ _ ih | case7 _ _ _ _ _ _ ih | case8 _ _ _ _ _ _ _ _ ih
  | case9 _ _ _ _ _ _ _ _ ih =>
    refine ih.trans ?_
    rw [Option.bind_map]
    exact congrArg (Option.bind _) (funext fun slot => (Slot.shape?_within _ slot).symm)

theorem view?_eq_slot? (fs : Fields) (r : Tree fs) (i : Nat) :
    view? fs r i = (slot? fs r i).map Slot.view := by
  fun_induction slot? fs r i with
  | case1 | case2 | case4 => rfl
  | case3 _ _ _ x => cases x <;> rfl
  | case5 _ _ _ _ _ x => cases x <;> rfl
  | case6 _ _ _ _ _ _ ih | case8 _ _ _ _ _ _ _ _ ih =>
    exact ih.trans (view_within _ _).symm
  | case7 _ _ _ x _ _ ih | case9 _ _ _ _ _ x _ _ ih =>
    cases x <;> exact ih.trans (view_within _ _).symm

theorem columnValue?_eq_slot? (fs : Fields) (r : Tree fs) (i : Nat) :
    columnValue? fs r i = (slot? fs r i).bind Slot.columnValue? := by
  fun_induction slot? fs r i with
  | case1 | case2 | case3 | case4 => rfl
  | case5 _ _ _ _ _ x => cases x <;> rfl
  | case6 _ _ _ _ _ _ ih | case7 _ _ _ _ _ _ ih | case8 _ _ _ _ _ _ _ _ ih
  | case9 _ _ _ _ _ _ _ _ ih =>
    refine ih.trans ?_
    rw [Option.bind_map]
    exact congrArg (Option.bind _) (funext fun slot => (Slot.columnValue?_within _ slot).symm)

theorem assign?_eq_slot? {s : FieldType} (y : s.Carrier) (fs : Fields) (r : Tree fs) (i : Nat) :
    Tree.assign? y fs r i = (slot? fs r i).bind (Slot.assign? y) := by
  fun_induction slot? fs r i with
  | case1 | case2 | case3 | case4 | case5 => rfl
  | case6 _ _ _ _ _ _ ih | case7 _ _ _ _ _ _ ih | case8 _ _ _ _ _ _ _ _ ih
  | case9 _ _ _ _ _ _ _ _ ih =>
    exact (congrArg (Option.map _) ih).trans
      (bind_within (fun slot => Slot.assign?_within _ slot y) _).symm

theorem setReference?_eq_slot? (content : (inner : Fields) → Option (Tree inner)) (fs : Fields)
    (r : Tree fs) (i : Nat) :
    Tree.setReference? content fs r i = (slot? fs r i).bind (Slot.setReference? content) := by
  fun_induction slot? fs r i with
  | case1 | case2 | case3 | case4 | case5 => rfl
  | case6 _ _ _ _ _ _ ih | case7 _ _ _ _ _ _ ih | case8 _ _ _ _ _ _ _ _ ih
  | case9 _ _ _ _ _ _ _ _ ih =>
    exact (congrArg (Option.map _) ih).trans
      (bind_within (fun slot => Slot.setReference?_within _ slot content) _).symm

theorem scanField_eq_slot? (typeName : String) (index : Nat) (v : Value) (fs : Fields)
    (r : Tree fs) (i : Nat) : scanField typeName index v fs r i =
      (slot? fs r i).elim (.error (noColumn typeName (index + i)))
        (Slot.scan typeName (index + i) v) := by
  fun_induction slot? fs r i generalizing index with
  | case1 => simp only [scanField, Option.elim_none]
  | case2 | case3 | case4 => rfl
  | case5 _ _ _ _ _ x => cases x <;> rfl
  | case6 _ _ _ _ _ _ ih | case7 _ _ _ _ _ _ ih | case8 _ _ _ _ _ _ _ _ ih
  | case9 _ _ _ _ _ _ _ _ ih =>
    refine (congrArg (Except.map _) (ih (index + 1))).trans ?_
    rw [Nat.add_right_comm index 1, Nat.add_assoc index]
    cases slot? _ _ _ with
    | none => rfl
    | some slot => exact (Slot.scan_within _ slot typeName _ v).symm

/-! ## Writing -/

/-- The same slot with another content, and the record with it. -/
inductive Slot.Put : Slot fs → Slot fs → Tree fs → Prop
  | scalar (info : FieldInfo) (t : FieldType) (x y : t.Carrier) (put : t.Carrier → Tree fs) :
    Put (.scalar info t x put) (.scalar info t y put) (put y)
  | optional (info : FieldInfo) (t : FieldType) (x y : Option t.Carrier)
    (put : Option t.Carrier → Tree fs) :
    Put (.optional info t x put) (.optional info t y put) (put y)
  | record (info : FieldInfo) (shape : Shape) (a b : Tree shape.fields)
    (put : Tree shape.fields → Tree fs) :
    Put (.record info shape a put) (.record info shape b put) (put b)
  | reference (info : FieldInfo) (shape : Shape) (a b : Option (Tree shape.fields))
    (put : Option (Tree shape.fields) → Tree fs) :
    Put (.reference info shape a put) (.reference info shape b put) (put b)

theorem Slot.Put.of_within {f : Tree fs → Tree gs} {slot : Slot fs} {slot' : Slot gs}
    {r' : Tree gs} (h : (slot.within f).Put slot' r') :
    ∃ s m, slot.Put s m ∧ slot' = s.within f ∧ r' = f m := by
  cases slot with
  | scalar info t x put =>
    cases h with | scalar _ _ _ y => exact ⟨_, _, .scalar info t x y put, rfl, rfl⟩
  | optional info t x put =>
    cases h with | optional _ _ _ y => exact ⟨_, _, .optional info t x y put, rfl, rfl⟩
  | record info shape a put =>
    cases h with | record _ _ _ b => exact ⟨_, _, .record info shape a b put, rfl, rfl⟩
  | reference info shape a put =>
    cases h with | reference _ _ _ b => exact ⟨_, _, .reference info shape a b put, rfl, rfl⟩

theorem slot?_of_put {r r' : Tree fs} {i : Nat} {slot slot' : Slot fs}
    (h : slot? fs r i = some slot) (hput : slot.Put slot' r') :
    slot? fs r' i = some slot' ∧ ∀ j, j ≠ i → view? fs r' j = view? fs r j := by
  simp only [view?_eq_slot?]
  fun_induction slot? fs r i with
  | case1 => cases h
  | case2 | case3 | case4 | case5 =>
    cases h
    cases hput
    refine ⟨rfl, fun j hj => ?_⟩
    cases j with
    | zero => exact absurd rfl hj
    | succ j => exact (view_within _ _).trans (view_within _ _).symm
  | case6 _ _ _ x _ _ ih | case7 _ _ _ x _ _ ih | case8 _ _ _ _ _ x _ _ ih
  | case9 _ _ _ _ _ x _ _ ih =>
    obtain ⟨inner, hinner, rfl⟩ := Option.map_eq_some_iff.mp h
    obtain ⟨s, m, hs, rfl, rfl⟩ := hput.of_within
    obtain ⟨hsame, hothers⟩ := ih hinner hs
    refine ⟨congrArg (Option.map _) hsame, fun j hj => ?_⟩
    cases j with
    | zero => first | rfl | (cases x <;> rfl)
    | succ j =>
      have hj' : j ≠ _ := fun h => hj (congrArg (· + 1) h)
      exact (view_within _ _).trans ((hothers j hj').trans (view_within _ _).symm)

end Tree

end RowMap
