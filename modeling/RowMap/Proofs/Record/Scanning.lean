import RowMap.Proofs.Record.Layout

/-!
# Scanning goes through the layout

A scan writes foreign keys into records that it scans afterwards, and it may be stopped anywhere.
Whatever the row holds, it goes through the places of the layout one by one.
-/

namespace RowMap

/-- A scan goes through some places, sees no value behind them, and leaves what it should. -/
structure Scans {α : Type} (scan : Cursor → Scanned α) (places : List Place) (keeps : α → Prop) :
    Prop where
  outcome (c : Cursor) : ((scan c).cursor, (scan c).error) = c.read places
  leaves (c : Cursor) : keeps (scan c).record
  sees {c d : Cursor} (h : c.Agrees d places.length) : (scan d).record = (scan c).record

namespace Scans

variable {α β γ : Type} {first : Cursor → Scanned α} {ps qs : List Place} {keeps : α → Prop}

theorem cursor (h : Scans first ps keeps) (c : Cursor) : (first c).cursor = (c.read ps).1 :=
  congrArg Prod.fst (h.outcome c)

theorem error (h : Scans first ps keeps) (c : Cursor) : (first c).error = (c.read ps).2 :=
  congrArg Prod.snd (h.outcome c)

theorem nothing {x : α} (hx : keeps x) : Scans (fun c => ⟨x, c, none⟩) [] keeps :=
  ⟨fun _ => rfl, fun _ => hx, fun _ => rfl⟩

theorem next (place : Place) {old : α} {scan : Value → Except ExtractionError α}
    (hverdict : ∀ v, place.verdict v = verdictOf (scan v)) (hold : keeps old)
    (hnew : ∀ v x, scan v = .ok x → keeps x) :
    Scans (fun c => scanNext place.typeName place.field c old scan) [place] keeps where
  outcome c := by
    cases hget : c.row.get? c.position with
    | none => simp only [scanNext, Cursor.read, Cursor.next_of_missing hget]
    | some v =>
      simp only [scanNext, Cursor.read, Cursor.next_of_get? hget, hverdict]
      cases scan v <;> rfl
  leaves c := by
    cases hget : c.row.get? c.position with
    | none => simpa only [scanNext, Cursor.next_of_missing hget] using hold
    | some v =>
      simp only [scanNext, Cursor.next_of_get? hget]
      cases hv : scan v with
      | error e => exact hold
      | ok x => exact hnew v x hv
  sees {c d} h := by
    have hsame := h.get?
    cases hget : c.row.get? c.position with
    | none =>
      rw [hget] at hsame
      simp only [scanNext, Cursor.next_of_missing hget, Cursor.next_of_missing hsame]
    | some v =>
      rw [hget] at hsame
      simp only [scanNext, Cursor.next_of_get? hget, Cursor.next_of_get? hsame]
      cases scan v <;> rfl

theorem imp {keeps' : α → Prop} (h : Scans first ps keeps) (himp : ∀ x, keeps x → keeps' x) :
    Scans first ps keeps' :=
  ⟨h.outcome, fun c => himp _ (h.leaves c), h.sees⟩

theorem ifColumn {column : Prop} [Decidable column] (place : Place) {old : α}
    {scan : Value → Except ExtractionError α}
    (hverdict : column → ∀ v, place.verdict v = verdictOf (scan v)) (hold : keeps old)
    (hnew : ∀ v x, scan v = .ok x → keeps x) :
    Scans (fun c => if column then scanNext place.typeName place.field c old scan
      else ⟨old, c, none⟩) (if column then [place] else []) keeps := by
  by_cases h : column
  · simpa only [if_pos h] using next place (hverdict h) hold hnew
  · simpa only [if_neg h] using nothing hold

theorem map (h : Scans first ps keeps) {f : α → β} {keeps' : β → Prop}
    (himp : ∀ x, keeps x → keeps' (f x)) : Scans (fun c => (first c).map f) ps keeps' :=
  ⟨h.outcome, fun c => himp _ (h.leaves c), fun hsame => congrArg f (h.sees hsame)⟩

theorem agrees_after (hfirst : Scans first ps keeps) {c d : Cursor} {n : Nat}
    (h : c.Agrees d (ps.length + n)) (hdone : (first c).error = none) :
    (first d).error = none ∧ (first c).cursor.Agrees (first d).cursor n := by
  have hread := (h.mono (Nat.le_add_right ps.length n)).read
  have hc : (c.read ps).2 = none := (hfirst.error c).symm.trans hdone
  have hd : (d.read ps).2 = none := hread.1.trans hc
  refine ⟨(hfirst.error d).trans hd, ?_⟩
  rw [hfirst.cursor c, hfirst.cursor d, Cursor.read_done hc, Cursor.read_done hd]
  exact h.skip

theorem error_of_agrees (hfirst : Scans first ps keeps) {c d : Cursor} {n : Nat}
    (h : c.Agrees d (ps.length + n)) : (first d).error = (first c).error := by
  rw [hfirst.error c, hfirst.error d]
  exact (h.mono (Nat.le_add_right ps.length n)).read.1

theorem andThen {keeps₂ : β → Prop} {second : Cursor → Scanned β} {old : β} {pair : α → β → γ}
    {keeps₃ : γ → Prop} (hfirst : Scans first ps keeps) (hsecond : Scans second qs keeps₂)
    (hold : keeps₂ old) (hpair : ∀ x y, keeps x → keeps₂ y → keeps₃ (pair x y)) :
    Scans (fun c => (first c).andThen old pair second) (ps ++ qs) keeps₃ where
  outcome c := by
    have hdone := hfirst.outcome c
    rw [Cursor.read_append, ← hdone]
    cases herror : (first c).error with
    | some e => simp only [Scanned.andThen, herror]
    | none => simpa only [Scanned.andThen, herror, Scanned.map] using hsecond.outcome _
  leaves c := by
    cases herror : (first c).error with
    | some e => simpa only [Scanned.andThen, herror] using hpair _ _ (hfirst.leaves c) hold
    | none =>
      simpa only [Scanned.andThen, herror, Scanned.map] using
        hpair _ _ (hfirst.leaves c) (hsecond.leaves _)
  sees {c d} h := by
    rw [List.length_append] at h
    have hrecord := hfirst.sees (h.mono (Nat.le_add_right _ _))
    cases herror : (first c).error with
    | some e =>
      have herror' := (hfirst.error_of_agrees h).trans herror
      simp only [Scanned.andThen, herror, herror', hrecord]
    | none =>
      obtain ⟨herror', hafter⟩ := hfirst.agrees_after h herror
      simp only [Scanned.andThen, herror, herror', Scanned.map, hrecord, hsecond.sees hafter]

theorem whole {second : α → Cursor → Scanned α} (hfirst : Scans first ps keeps)
    (hsecond : ∀ x, keeps x → Scans (second x) qs keeps) :
    Scans (fun c => match (first c).error with
      | some _ => first c
      | none => second (first c).record (first c).cursor) (ps ++ qs) keeps where
  outcome c := by
    have hdone := hfirst.outcome c
    rw [Cursor.read_append, ← hdone]
    cases herror : (first c).error with
    | some e => simp only [herror]
    | none => exact (hsecond _ (hfirst.leaves c)).outcome _
  leaves c := by
    cases herror : (first c).error with
    | some e => exact hfirst.leaves c
    | none => exact (hsecond _ (hfirst.leaves c)).leaves _
  sees {c d} h := by
    rw [List.length_append] at h
    have hrecord := hfirst.sees (h.mono (Nat.le_add_right _ _))
    cases herror : (first c).error with
    | some e =>
      have herror' := (hfirst.error_of_agrees h).trans herror
      simp only [herror', hrecord]
    | none =>
      obtain ⟨herror', hafter⟩ := hfirst.agrees_after h herror
      simp only [herror', hrecord]
      exact (hsecond _ (hfirst.leaves c)).sees hafter

end Scans

namespace Tree

theorem scans_field (typeName : String) (fs : Fields) {rest : Fields} {r : Tree fs}
    (more : Tree rest) {m : FieldMeta} {α : Type} (old : α) (pair : α → Tree rest → Tree fs)
    (scan : Value → Except ExtractionError α) {keeps : α → Prop}
    (hmetas : fs.metas = m :: rest.metas)
    (hmore : ∀ v i, scanField typeName 0 v fs r (i + 1) =
      (scanField typeName 1 v rest more i).map (pair old))
    (hhere : m.column.isSome → ∀ v, scanField typeName 0 v fs r 0 = (scan v).map (pair · more))
    (hold : keeps old) (hnew : ∀ v x, scan v = .ok x → keeps x)
    (hpair : ∀ x y, keeps x → Alike rest more y → Alike fs r (pair x y))
    (htail : Scans (scanColumns typeName rest more) (ownPlaces typeName rest more)
      (Alike rest more)) :
    Scans (fun c => Scanned.andThen
        (if m.column.isSome then scanNext typeName m.name c old scan else ⟨old, c, none⟩)
        more pair (scanColumns typeName rest more))
      (ownPlaces typeName fs r) (Alike fs r) := by
  let place : Place := ⟨typeName, m.name, fun v => verdictOf (scanField typeName 0 v fs r 0)⟩
  have hverdict (hcolumn : m.column.isSome) (v : Value) : place.verdict v = verdictOf (scan v) :=
    (congrArg verdictOf (hhere hcolumn v)).trans (verdictOf_map _ _)
  rw [ownPlaces_cons hmetas hmore]
  exact (Scans.ifColumn place hverdict hold hnew).andThen htail (.refl rest more) hpair

theorem scans_scanColumns (typeName : String) (fs : Fields) (r : Tree fs) :
    Scans (scanColumns typeName fs r) (ownPlaces typeName fs r) (Alike fs r) := by
  induction fs with
  | nil => exact .nothing trivial
  | scalar info t rest ih =>
    obtain ⟨x, more⟩ := r
    cases t with
    | texts =>
      have hplaces : ownPlaces typeName (.scalar info .texts rest) (x, more) =
        ownPlaces typeName rest more := (ownPlaces_cons rfl fun _ _ => rfl).trans rfl
      exact hplaces ▸ (ih more).map fun _ h => ⟨nofun, h⟩
    | scalar t =>
      exact scans_field typeName (.scalar info (.scalar t) rest) more x Prod.mk t.extract rfl
        (fun _ _ => rfl) (fun hcolumn _ => congrArg (Except.map _) (if_pos hcolumn)) trivial
        (fun _ _ _ => trivial) (fun _ _ _ h => ⟨nofun, h⟩) (ih more)
  | optional info t rest ih =>
    obtain ⟨x, more⟩ := r
    cases t with
    | texts =>
      have hplaces : ownPlaces typeName (.optional info .texts rest) (x, more) =
        ownPlaces typeName rest more := (ownPlaces_cons rfl fun _ _ => rfl).trans rfl
      exact hplaces ▸ (ih more).map fun _ h => ⟨nofun, h⟩
    | scalar t =>
      exact scans_field typeName (.optional info (.scalar t) rest) more x Prod.mk t.extractOption
        rfl (fun _ _ => rfl) (fun hcolumn _ => congrArg (Except.map _) (if_pos hcolumn)) trivial
        (fun _ _ _ => trivial) (fun _ _ _ h => ⟨nofun, h⟩) (ih more)
  | record info name table inner rest _ ih =>
    obtain ⟨a, more⟩ := r
    exact scans_field typeName (.record info name table inner rest) more a Prod.mk
      (fun v => scanKey name 0 v inner a) rfl (fun _ _ => rfl) (fun hcolumn _ => if_pos hcolumn)
      (.refl inner a) (fun _ _ h => alike_of_scanKey h) (fun _ _ hx h => ⟨hx, h⟩) (ih more)
  | reference info name table inner rest _ ih =>
    obtain ⟨_ | a, more⟩ := r
    · -- An absent record has a place of its own, which takes every value.
      exact scans_field typeName (.reference info name table inner rest) more none Prod.mk
        (fun _ => .ok none) rfl (fun _ _ => rfl) (fun hcolumn _ => if_pos hcolumn) .none
        (fun _ _ h => by cases h; exact .none) (fun _ _ hx h => ⟨hx, h⟩) (ih more)
    · have hkeep (v : Value) (x : Option (Tree inner))
          (h : (scanKey name 0 v inner a).map some = .ok x) :
          Option.Rel (Alike inner) (some a) x := by
        obtain ⟨b, hb, rfl⟩ := map_eq_ok h
        exact .some (alike_of_scanKey hb)
      have hhere (hcolumn : info.column?.isSome) (v : Value) :
          scanField typeName 0 v (.reference info name table inner rest) (some a, more) 0 =
            ((scanKey name 0 v inner a).map some).map (·, more) := by
        refine (if_pos hcolumn).trans ?_
        show (scanKey name 0 v inner a).map (fun r => (some r, more)) = _
        cases scanKey name 0 v inner a <;> rfl
      exact scans_field typeName (.reference info name table inner rest) more (some a) Prod.mk
        (fun v => (scanKey name 0 v inner a).map some) rfl (fun _ _ => rfl) hhere
        (.some (.refl inner a)) hkeep (fun _ _ hx h => ⟨hx, h⟩) (ih more)

theorem scans_whole (typeName : String) (fs : Fields) (r : Tree fs)
    (hinner : ∀ r, Scans (scanInner fs r) (innerPlaces fs r) (Alike fs r)) :
    Scans (fun c => match (scanColumns typeName fs r c).error with
        | some _ => scanColumns typeName fs r c
        | none => scanInner fs (scanColumns typeName fs r c).record
            (scanColumns typeName fs r c).cursor)
      (ownPlaces typeName fs r ++ innerPlaces fs r) (Alike fs r) := by
  refine (scans_scanColumns typeName fs r).whole fun x hx => ?_
  rw [innerPlaces_eq hx]
  exact (hinner x).imp fun y hy => AgreeOn.trans (fun _ _ h => h) fs hx hy

theorem scans_scanInner (fs : Fields) (r : Tree fs) :
    Scans (scanInner fs r) (innerPlaces fs r) (Alike fs r) := by
  induction fs with
  | nil => exact .nothing trivial
  | scalar info t rest ih | optional info t rest ih =>
    obtain ⟨x, more⟩ := r
    exact (ih more).map fun _ h => ⟨nofun, h⟩
  | record info name table inner rest ihInner ih =>
    obtain ⟨a, more⟩ := r
    exact (scans_whole name inner a ihInner).andThen (ih more) (.refl rest more)
      fun _ _ hx h => ⟨hx, h⟩
  | reference info name table inner rest ihInner ih =>
    obtain ⟨_ | a, more⟩ := r
    · exact (ih more).map fun _ h => ⟨.none, h⟩
    · have hpair (x : Tree inner) (y : Tree rest) (hx : Alike inner a x) (h : Alike rest more y) :
          Alike (.reference info name table inner rest) (some a, more) (some x, y) :=
        ⟨.some hx, h⟩
      exact (scans_whole name inner a ihInner).andThen (ih more) (.refl rest more) hpair

end Tree

namespace Record

variable {s : Shape}

theorem scans_places (r : Record s) : Scans r.scan r.layout (Tree.Alike s.fields r) :=
  Tree.scans_whole s.typeName s.fields r (Tree.scans_scanInner s.fields)

theorem length_layout (r : Record s) : r.layout.length = r.width := by
  rw [layout, List.length_append]
  exact congrArg₂ _ (Tree.length_ownPlaces s.typeName s.fields r)
    (Tree.length_innerPlaces s.fields r)

/-- A scan takes one value for each place of the layout, and succeeds when each of them is there
and accepted. Otherwise its error names the first place where this is not so. It sees no other
value, and no record inside appears or goes. -/
theorem scan_follows_layout (r : Record s) (c : Cursor) :
    r.layout.length = r.width ∧
    ((r.scan c).error = none ↔ r.width ≤ c.remaining ∧ ∀ k place v, r.layout[k]? = some place →
      c.row.get? (c.position + k) = some v → place.verdict v = .ok ()) ∧
    ((r.scan c).error = none → (r.scan c).cursor = c.skip r.width) ∧
    (∀ e, (r.scan c).error = some e → ∃ k place why, StopsAt c r.layout k place why ∧
      e = scanError place.typeName place.field why) ∧
    (∀ d, c.Agrees d r.width → (r.scan d).record = (r.scan c).record ∧
      (r.scan d).error = (r.scan c).error ∧
      (r.scan d).cursor.position = (r.scan c).cursor.position) ∧
    Tree.Alike s.fields r (r.scan c).record := by
  have hlength := r.length_layout
  have hscans := r.scans_places
  refine ⟨hlength, ?_, fun hdone => ?_, fun e herror => ?_, fun d h => ?_, hscans.leaves c⟩
  · rw [hscans.error c, Cursor.read_done_iff, hlength]
  · rw [hscans.cursor c, Cursor.read_done ((hscans.error c).symm.trans hdone), hlength]
  · rw [hscans.error c] at herror
    rcases Cursor.read_outcome r.layout with ⟨hdone, -⟩ | ⟨k, place, why, hstop, hread⟩
    · rw [hdone] at herror
      cases herror
    · exact ⟨k, place, why, hstop, Option.some.inj (herror.symm.trans hread)⟩
  · rw [← hlength] at h
    rw [hscans.error c, hscans.error d, hscans.cursor c, hscans.cursor d]
    exact ⟨hscans.sees h, h.read⟩

end Record

end RowMap
