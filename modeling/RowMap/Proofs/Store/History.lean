import RowMap.Bookshelf.Models
import RowMap.Proofs.Store.Clients
import Mathlib.Data.List.Forall2

/-!
# No update is lost

The invariant of a world: every call that has ended did what it reported, the versions that the
updates of a row were made from go up, and the version of a row counts its updates. A step lemma
keeps it for every move, so it holds after every list of moves.
-/

namespace RowMap.Store

section
variable {ι μ : Type} [Versioned μ] {T : Table}

/-! ## Calls that have ended -/

/-- A success had its effect on one row and changed no other one. A failure changed nothing. -/
def Entry.Sound (T : Table) (e : Entry ι μ) : Prop :=
  match e.outcome with
  | .ok () => ∃ first before r after r',
      e.changes = [(first, first), (before ++ r :: after, before ++ r' :: after)] ∧
      e.call.Effect T e.before r r' e.after
  | .error _ => (∀ change ∈ e.changes, change.2 = change.1) ∧ e.after = e.before

/-- A successful update of the row that has a key. -/
def Entry.updates (T : Table) (key : Value) (e : Entry ι μ) : Bool :=
  match e.call, e.outcome, (Mapped.toRecord e.before).keyValue? with
  | .update .., .ok (), some k => T.equal key k
  | _, _, _ => false

structure Entry.Advances (T : Table) (e : Entry ι μ) (r r' : Stored) : Prop where
  key : r'.key = r.key
  version : r'.version.toInt = r.version.toInt + (e.updates T r.key).toNat
  started : e.updates T r.key = true → r.version = Versioned.version e.before

/-- The rows that the last change of a call was made from and left. -/
def Entry.LeftRows (e : Entry ι μ) (rows rows' : List Stored) : Prop :=
  e.changes.getLast?.getD (rows, rows) = (rows, rows')

theorem Entry.updates_of_error {e : Entry ι μ} {error : StoreError} (h : e.outcome = .error error)
    (key : Value) : e.updates T key = false := by
  unfold updates
  rw [h]
  cases e.call <;> rfl

theorem Entry.updates_of_delete {e : Entry ι μ} {w : Writer} {id : Value} {owner : Ownership}
    (h : e.call = .delete w id owner) (key : Value) : e.updates T key = false := by
  unfold updates
  rw [h]

theorem Entry.updates_of_update {e : Entry ι μ} {w : Writer} {owner : Ownership} {copyKey : Value}
    (hcall : e.call = .update w owner) (hok : e.outcome = .ok ())
    (hkey : (Mapped.toRecord e.before).keyValue? = some copyKey) (key : Value) :
    e.updates T key = T.equal key copyKey := by
  unfold updates
  rw [hcall, hok, hkey]

theorem advances_of_not_updates {e : Entry ι μ} {r r' : Stored} (h : e.updates T r.key = false)
    (hkey : r'.key = r.key) (hversion : r'.version = r.version) : e.Advances T r r' := by
  constructor
  · exact hkey
  · simp [h, hversion]
  · simp [h]

theorem forall₂_changed {R : Stored → Stored → Prop} {before after : List Stored} {r r' : Stored}
    (hbefore : ∀ s ∈ before, R s s) (hr : R r r') (hafter : ∀ s ∈ after, R s s) :
    List.Forall₂ R (before ++ r :: after) (before ++ r' :: after) :=
  List.rel_append (List.forall₂_same.mpr hbefore) (.cons hr (List.forall₂_same.mpr hafter))

theorem advances_of_effect {e : Entry ι μ} (hok : e.outcome = .ok ()) {before after : List Stored}
    {r r' : Stored} (hunique : T.Unique (before ++ r :: after))
    (h : e.call.Effect T e.before r r' e.after) :
    List.Forall₂ (e.Advances T) (before ++ r :: after) (before ++ r' :: after) := by
  cases hcall : e.call with
  | delete w id owner =>
    rw [hcall] at h
    obtain ⟨-, hmarked, -⟩ := h
    have hnone (key : Value) : e.updates T key = false := Entry.updates_of_delete hcall key
    exact forall₂_changed (fun s _ => advances_of_not_updates (hnone _) rfl rfl)
      (advances_of_not_updates (hnone _) hmarked.key hmarked.version)
      (fun s _ => advances_of_not_updates (hnone _) rfl rfl)
  | update w owner =>
    rw [hcall] at h
    obtain ⟨key, hkey, hadmits, hversion, hraised, -, -⟩ := h
    have hupdates := Entry.updates_of_update (T := T) hcall hok hkey
    have hother {s : Stored} (hs : T.equal s.key key = false) : e.Advances T s s :=
      advances_of_not_updates (by rw [hupdates, hs]) rfl rfl
    -- No other row has the key, so the update counts for this row alone.
    obtain ⟨hbefore, hafter⟩ := hunique.others hadmits.key
    refine forall₂_changed (fun s hs => hother (hbefore s hs)) ?_ (fun s hs => hother (hafter s hs))
    constructor
    · exact hraised.key
    · rw [hupdates, hadmits.key]
      exact hraised.version
    · exact fun _ => hversion

theorem Entry.Sound.advances {e : Entry ι μ} (h : e.Sound T) {rows rows' : List Stored}
    (hunique : T.Unique rows) (hleft : e.LeftRows rows rows') :
    List.Forall₂ (e.Advances T) rows rows' := by
  unfold Entry.LeftRows at hleft
  unfold Entry.Sound at h
  split at h
  · next hok =>
    obtain ⟨first, before, r, after, r', hchanges, heffect⟩ := h
    simp only [hchanges, List.getLast?_cons_cons, List.getLast?_singleton, Option.getD_some,
      Prod.mk.injEq] at hleft
    obtain ⟨rfl, rfl⟩ := hleft
    exact advances_of_effect hok hunique heffect
  · next error hfailed =>
    obtain ⟨hquiet, -⟩ := h
    have hrows : rows' = rows := by
      cases hlast : e.changes.getLast? with
      | none =>
        rw [hlast] at hleft
        cases hleft
        rfl
      | some change =>
        rw [hlast] at hleft
        obtain rfl : change = (rows, rows') := hleft
        exact hquiet _ (List.mem_of_getLast? hlast)
    rw [hrows]
    exact List.forall₂_same.mpr fun r _ =>
      advances_of_not_updates (Entry.updates_of_error hfailed _) rfl rfl

/-! ## The invariant -/

/-- The statement that a call waits with is its first one, or the first one has succeeded. -/
structure Running.OnTheWay (r : Running) : Prop where
  owner : IsColumn r.call.owner.column
  progress : (r.replies = [] ∧ r.changes = []) ∨
    ∃ rows, r.replies = [.affected 0] ∧ r.changes = [(rows, rows)]

/-- The version of a row counts the updates of the row. -/
structure Counted (T : Table) (history : List (Entry ι μ)) (r r' : Stored) : Prop where
  key : r'.key = r.key
  version : r'.version.toInt = r.version.toInt + history.countP (Entry.updates T r.key)

/-- The updates of the row with a key were made from versions that go up. -/
def Rising (T : Table) (key : Value) (history : List (Entry ι μ)) : Prop :=
  history.Pairwise fun e f => e.updates T key = true → f.updates T key = true →
    Versioned.version e.before < Versioned.version f.before

structure World.Inv (T : Table) (initial : List Stored) (w : World ι μ) : Prop where
  running : ∀ i r, (w.clients i).running = some r → r.OnTheWay
  unique : T.Unique w.rows
  sound : ∀ e ∈ w.history, e.Sound T
  counted : List.Forall₂ (Counted T w.history) initial w.rows
  /-- Every row has left the versions behind that it was updated from. -/
  passed : ∀ r ∈ w.rows, ∀ e ∈ w.history, e.updates T r.key = true →
    Versioned.version e.before < r.version
  rising : ∀ r ∈ initial, Rising T r.key w.history

theorem unique_of_keys {rows rows' : List Stored} (h : T.Unique rows)
    (hkeys : List.Forall₂ (fun r r' => r'.key = r.key) rows rows') : T.Unique rows' := by
  have hunique (rows : List Stored) :
      T.Unique rows ↔ (rows.map Stored.key).Pairwise fun a b => T.equal a b = false := by
    unfold Table.Unique
    rw [List.pairwise_map]
  have hmap : List.Forall₂ (· = ·) (rows'.map Stored.key) (rows.map Stored.key) := by
    rw [List.forall₂_map_left_iff, List.forall₂_map_right_iff]
    exact hkeys.flip
  rw [List.forall₂_eq_eq_eq] at hmap
  rw [hunique, hmap, ← hunique]
  exact h

theorem forall₂_trans {R S U : Stored → Stored → Prop} (h : ∀ r s t, R r s → S s t → U r t)
    {as bs cs : List Stored} (hab : List.Forall₂ R as bs) (hbc : List.Forall₂ S bs cs) :
    List.Forall₂ U as cs := by
  rw [List.forall₂_iff_get]
  refine ⟨hab.length_eq.trans hbc.length_eq, fun i ha hc => ?_⟩
  have hb : i < bs.length := hab.length_eq ▸ ha
  exact h _ _ _ (hab.get ha hb) (hbc.get hb hc)

theorem exists_of_forall₂_left {R : Stored → Stored → Prop} {as bs : List Stored}
    (h : List.Forall₂ R as bs) {a : Stored} (ha : a ∈ as) : ∃ b ∈ bs, R a b := by
  obtain ⟨i, rfl⟩ := List.get_of_mem ha
  have hi : i < bs.length := h.length_eq ▸ i.isLt
  exact ⟨bs.get ⟨i, hi⟩, List.get_mem _ _, h.get i.isLt hi⟩

theorem exists_of_forall₂_right {R : Stored → Stored → Prop} {as bs : List Stored}
    (h : List.Forall₂ R as bs) {b : Stored} (hb : b ∈ bs) : ∃ a ∈ as, R a b :=
  exists_of_forall₂_left h.flip hb

theorem Counted.snoc {history : List (Entry ι μ)} {e : Entry ι μ} {r s t : Stored}
    (h : Counted T history r s) (he : e.Advances T s t) : Counted T (history ++ [e]) r t := by
  constructor
  · exact he.key.trans h.key
  · have hstep := he.version
    have hcount := h.version
    rw [h.key] at hstep
    rw [List.countP_append, List.countP_singleton]
    cases hupdates : e.updates T r.key <;> simp [hupdates] at hstep ⊢ <;> omega

theorem Rising.snoc {key : Value} {history : List (Entry ι μ)} {e : Entry ι μ}
    (h : Rising T key history)
    (he : e.updates T key = true → ∀ f ∈ history, f.updates T key = true →
      Versioned.version f.before < Versioned.version e.before) : Rising T key (history ++ [e]) := by
  refine List.pairwise_append.mpr ⟨h, List.pairwise_singleton _ _, ?_⟩
  intro f hf e' he' hupdates hupdates'
  obtain rfl := List.mem_singleton.mp he'
  exact he hupdates' f hf hupdates

/-! ## One call -/

/-- The table answers, or the statement fails before it gets there. -/
def Table.MayAnswer (T : Table) (stmt : Statement) (rows : List Stored) (reply : Script.Reply)
    (rows' : List Stored) : Prop :=
  T.answer stmt rows = (reply, rows') ∨ (∃ e, reply = .failure e) ∧ rows' = rows

/-- A call goes on with the rows as they were, or it has ended soundly. -/
def Settles (T : Table) (i : ι) (r : Running) (copy : μ) (rows rows' : List Stored) : Prop :=
  ((∃ stmt, r.pending? copy = some stmt) ∧ r.OnTheWay ∧ rows' = rows) ∨
    (r.pending? copy = none ∧ (r.entry i copy).Sound T ∧ (r.entry i copy).LeftRows rows rows')

theorem entry_of_ending {r : Running} {copy copy' : μ} {outcome : Except StoreError Unit}
    (h : (r.call.action μ).ending copy r.replies = (outcome, copy')) (i : ι) :
    r.entry i copy = ⟨i, r.call, outcome, copy, copy', r.changes⟩ := by
  unfold Running.entry
  rw [h]

section
variable {call : Call} {copy : μ} {first second : Statement}
  {finish : Except StoreError Script.Reply → Except StoreError Unit × μ}
  {rows rows' : List Stored} {reply : Script.Reply}

theorem settles_first (i : ι) (h : call.Dialogue T copy first second finish)
    (howner : IsColumn call.owner.column) (hanswer : T.MayAnswer first rows reply rows') :
    Settles T i ⟨call, [reply], [(rows, rows')]⟩ copy rows rows' := by
  rcases hanswer with hanswer | ⟨⟨e, rfl⟩, rfl⟩
  · rw [h.first] at hanswer
    cases hanswer
    left
    exact ⟨⟨second, h.sends.second 0⟩, ⟨howner, Or.inr ⟨rows, rfl, rfl⟩⟩, rfl⟩
  · right
    obtain ⟨hdone, hending⟩ := h.sends.refused e
    refine ⟨hdone, ?_, rfl⟩
    rw [entry_of_ending hending]
    refine ⟨fun change hchange => ?_, rfl⟩
    rw [List.mem_singleton.mp hchange]

theorem settles_second (i : ι) (h : call.Dialogue T copy first second finish)
    (hunique : T.Unique rows) (hanswer : T.MayAnswer second rows reply rows') (quiet : List Stored) :
    Settles T i ⟨call, [.affected 0, reply], [(quiet, quiet), (rows, rows')]⟩ copy rows rows' := by
  right
  obtain ⟨hdone, hending⟩ := h.sends.ended 0 reply
  refine ⟨hdone, ?_, rfl⟩
  have hfailed {e : StoreError} (hfinish : finish reply.result = (.error e, copy))
      (hrows : rows' = rows) :
      (Running.entry ⟨call, [.affected 0, reply], [(quiet, quiet), (rows, rows')]⟩ i copy).Sound T := by
    rw [entry_of_ending (hending.trans hfinish)]
    refine ⟨fun change hchange => ?_, rfl⟩
    rcases List.mem_cons.mp hchange with rfl | hchange
    · rfl
    · rw [List.mem_singleton.mp hchange]
      exact hrows
  rcases hanswer with hanswer | ⟨⟨e, rfl⟩, hrows⟩
  · rcases h.second rows hunique with
      ⟨before, r, after, r', copy', rfl, heffect, hrows, hfinish⟩ | ⟨e, hrows, hfinish⟩
    · rw [hanswer] at hrows hfinish
      simp only at hrows hfinish
      subst hrows
      rw [entry_of_ending (hending.trans hfinish)]
      exact ⟨quiet, before, r, after, r', rfl, heffect⟩
    · rw [hanswer] at hrows hfinish
      exact hfailed hfinish hrows
  · obtain ⟨e', hfinish⟩ := h.failed e
    exact hfailed hfinish hrows

end

section
variable (hfits : T.Fits (Mapped.shape μ))
  (hset : ∀ version (m : μ), Versioned.version (Versioned.setVersion version m) = version)
include hfits hset

theorem settles_start (i : ι) {c : Call} (howner : IsColumn c.owner.column) (copy : μ)
    (rows : List Stored) : Settles T i { call := c } copy rows rows := by
  rcases c.gives_or_dialogue hfits hset howner copy with
    ⟨-, e, hgives⟩ | ⟨first, second, finish, -, -, h, -⟩
  · right
    refine ⟨hgives.pending [], ?_, rfl⟩
    rw [entry_of_ending (hgives.ending [])]
    exact ⟨List.forall_mem_nil _, rfl⟩
  · left
    exact ⟨⟨first, h.sends.first⟩, ⟨howner, Or.inl ⟨rfl, rfl⟩⟩, rfl⟩

theorem settles_answered (i : ι) {r : Running} (hway : r.OnTheWay) {copy : μ} {stmt : Statement}
    (hpending : r.pending? copy = some stmt) {rows rows' : List Stored} (hunique : T.Unique rows)
    {reply : Script.Reply} (hanswer : T.MayAnswer stmt rows reply rows') :
    Settles T i (r.answered reply rows rows') copy rows rows' := by
  obtain ⟨call, replies, changes⟩ := r
  obtain ⟨howner, hprogress⟩ := hway
  rcases call.gives_or_dialogue hfits hset howner copy with
    ⟨-, e, hgives⟩ | ⟨first, second, finish, -, -, h, -⟩
  · exact absurd ((hgives.pending replies).symm.trans hpending) (by simp)
  · rcases hprogress with ⟨rfl, rfl⟩ | ⟨quiet, rfl, rfl⟩
    · obtain rfl : first = stmt := Option.some.inj (h.sends.first.symm.trans hpending)
      exact settles_first i h howner hanswer
    · obtain rfl : second = stmt := Option.some.inj ((h.sends.second 0).symm.trans hpending)
      exact settles_second i h hunique hanswer quiet

end

/-! ## The world -/

namespace World

variable {initial : List Stored} {w : World ι μ}

theorem inv_fresh (hunique : T.Unique initial) (copies : ι → μ) :
    (fresh initial copies).Inv T initial := by
  constructor
  case running =>
    intro i r h
    cases h
  case unique => exact hunique
  case sound => simp [fresh]
  case counted => exact List.forall₂_same.mpr fun r _ => ⟨rfl, by simp [fresh]⟩
  case passed => simp [fresh]
  case rising => exact fun r _ => List.Pairwise.nil

theorem Inv.ended (h : w.Inv T initial) {e : Entry ι μ} (hsound : e.Sound T) {rows : List Stored}
    (hleft : e.LeftRows w.rows rows) {clients : ι → Client μ}
    (hrunning : ∀ i r, (clients i).running = some r → r.OnTheWay) :
    World.Inv T initial { rows, clients, history := w.history ++ [e] } := by
  have hadvances := hsound.advances h.unique hleft
  constructor
  case running => exact hrunning
  case unique =>
    exact unique_of_keys h.unique (hadvances.imp fun _ _ hstep => hstep.key)
  case sound =>
    intro f hf
    rcases List.mem_append.mp hf with hf | hf
    · exact h.sound f hf
    · rw [List.mem_singleton.mp hf]
      exact hsound
  case counted => exact forall₂_trans (fun _ _ _ => Counted.snoc) h.counted hadvances
  case passed =>
    intro r' hr' f hf hupdates
    obtain ⟨r, hr, hstep⟩ := exists_of_forall₂_right hadvances hr'
    rw [hstep.key] at hupdates
    have hversion := hstep.version
    rw [Int32.lt_iff_toInt_lt]
    rcases List.mem_append.mp hf with hf | hf
    · have hpassed := Int32.lt_iff_toInt_lt.mp (h.passed r hr f hf hupdates)
      omega
    · -- The new update started from the version that it raised.
      rw [List.mem_singleton.mp hf] at hupdates ⊢
      rw [← hstep.started hupdates]
      rw [hupdates, Bool.toNat_true] at hversion
      omega
  case rising =>
    intro r hr
    refine (h.rising r hr).snoc fun hupdates f hf hupdates' => ?_
    obtain ⟨s, hs, hcounted⟩ := exists_of_forall₂_left h.counted hr
    obtain ⟨t, -, hstep⟩ := exists_of_forall₂_left hadvances hs
    rw [← hcounted.key] at hupdates hupdates'
    rw [← hstep.started hupdates]
    exact h.passed s hs f hf hupdates'

omit [Versioned μ] in
theorem running_update [DecidableEq ι] {clients : ι → Client μ}
    (h : ∀ i r, (clients i).running = some r → r.OnTheWay) {i : ι} {c : Client μ}
    (hc : ∀ r, c.running = some r → r.OnTheWay) :
    ∀ j r, (Function.update clients i c j).running = some r → r.OnTheWay := by
  intro j r hr
  by_cases hj : j = i
  · rw [hj, Function.update_self] at hr
    exact hc r hr
  · rw [Function.update_of_ne hj] at hr
    exact h j r hr

theorem Inv.resume [DecidableEq ι] (h : w.Inv T initial) {i : ι} {r : Running} {rows : List Stored}
    (hr : Settles T i r (w.clients i).copy w.rows rows) :
    ({ w with rows }.resume i r).Inv T initial := by
  unfold World.resume
  rcases hr with ⟨⟨stmt, hpending⟩, hway, rfl⟩ | ⟨hpending, hsound, hleft⟩
  · simp only [hpending]
    refine { h with running := running_update h.running ?_ }
    intro r' hr'
    cases hr'
    exact hway
  · simp only [hpending]
    refine h.ended hsound hleft (running_update h.running ?_)
    intro r' hr'
    cases hr'

/-! ## Moves -/

variable [DecidableEq ι] (hfits : T.Fits (Mapped.shape μ))
  (hset : ∀ version (m : μ), Versioned.version (Versioned.setVersion version m) = version)
include hfits hset

theorem Inv.answerBy (h : w.Inv T initial) (i : ι)
    {answer : Statement → List Stored → Script.Reply × List Stored}
    (hanswer : ∀ stmt rows, T.MayAnswer stmt rows (answer stmt rows).1 (answer stmt rows).2) :
    (w.answerBy i answer).Inv T initial := by
  unfold World.answerBy
  split
  · exact h
  · next r hr =>
    split
    · exact h
    · next stmt hpending =>
      exact h.resume (settles_answered hfits hset i (h.running i r hr) hpending h.unique
        (hanswer stmt w.rows))

theorem Inv.move (h : w.Inv T initial) {m : Move ι μ}
    (howner : ∀ i c, m = .start i c → IsColumn c.owner.column) : (w.move T m).Inv T initial := by
  cases m with
  | take i copy =>
    rw [World.move]
    split
    · refine { h with running := running_update h.running ?_ }
      intro r hr
      cases hr
    · exact h
  | start i c =>
    rw [World.move]
    split
    · exact h.resume (settles_start hfits hset i (howner i c rfl) _ _)
    · exact h
  | answer i =>
    rw [World.move]
    exact h.answerBy hfits hset i fun _ _ => Or.inl rfl
  | refuse i e =>
    rw [World.move]
    exact h.answerBy hfits hset i fun _ _ => Or.inr ⟨⟨e, rfl⟩, rfl⟩

theorem Inv.run (h : w.Inv T initial) {moves : List (Move ι μ)}
    (howners : ∀ i c, .start i c ∈ moves → IsColumn c.owner.column) :
    (w.run T moves).Inv T initial := by
  induction moves generalizing w with
  | nil => exact h
  | cons m moves ih =>
    refine ih (h.move hfits hset fun i c hm => ?_) fun i c hmem => ?_
    · exact howners i c (hm ▸ List.mem_cons_self)
    · exact howners i c (List.mem_cons_of_mem _ hmem)

end World

/-- Every call did what it reported, no two updates of a row were made from the same version, and
the versions of the rows count their updates. The writers leave the version to the table, and a
record keeps the version that it is given. Whatever a call sends to the table, the table reads it as
the command that the call is meant as. -/
theorem no_update_is_lost [DecidableEq ι] (hfits : T.Fits (Mapped.shape μ))
    (hset : ∀ version (m : μ), Versioned.version (Versioned.setVersion version m) = version)
    {initial : List Stored} (hunique : T.Unique initial) (copies : ι → μ) (moves : List (Move ι μ))
    (howners : ∀ i c, .start i c ∈ moves → IsColumn c.owner.column) :
    let w := (World.fresh initial copies).run T moves
    (∀ e ∈ w.history, e.Sound T) ∧
      (∀ r ∈ initial, w.history.Pairwise fun e f => e.updates T r.key = true →
        f.updates T r.key = true → Versioned.version e.before ≠ Versioned.version f.before) ∧
      List.Forall₂ (Counted T w.history) initial w.rows ∧
      ∀ (c : Call) (copy : μ), IsColumn c.owner.column → c.IsRead copy := by
  have h := (World.inv_fresh hunique copies).run hfits hset howners
  refine ⟨h.sound, fun r hr => (h.rising r hr).imp ?_, h.counted,
    fun c copy howner => c.isRead hfits hset howner copy⟩
  intro e f hrising he hf
  exact Int32.ne_of_lt (hrising he hf)

end

/-! ## Two clients with one copy -/

section
variable {ι μ : Type} [DecidableEq ι] [Versioned μ] {T : Table}

/-- Two clients make the same call. The one that started last has its statements answered before the
second statement of the other. -/
def race (call : Call) (i j : ι) : List (Move ι μ) :=
  [.start i call, .start j call, .answer i, .answer j, .answer j, .answer i]

theorem run_race {call : Call} {copy : μ} {first second : Statement}
    {finish : Except StoreError Script.Reply → Except StoreError Unit × μ}
    (h : call.Dialogue T copy first second finish) {rows rows' rows'' : List Stored}
    {reply reply' : Script.Reply} (hfirst : T.answer second rows = (reply, rows'))
    (hsecond : T.answer second rows' = (reply', rows'')) {i j : ι} (hij : i ≠ j) :
    let w := (World.fresh rows fun _ => copy).run T (race call i j)
    w.rows = rows'' ∧
      w.history.map (fun e => (e.client, e.before, e.outcome, e.after)) =
        [(j, copy, finish reply.result), (i, copy, finish reply'.result)] := by
  have hstart : Running.pending? { call } copy = some first := h.sends.first
  have hwaits (changes : List (List Stored × List Stored)) :
      Running.pending? ⟨call, [.affected 0], changes⟩ copy = some second := h.sends.second 0
  have hended (reply : Script.Reply) (changes : List (List Stored × List Stored)) :
      Running.pending? ⟨call, [.affected 0, reply], changes⟩ copy = none :=
    (h.sends.ended 0 reply).1
  have hending (reply : Script.Reply) :
      (call.action μ).ending copy [.affected 0, reply] = finish reply.result :=
    (h.sends.ended 0 reply).2
  simp [World.run, race, World.move, World.answerBy, World.resume, World.fresh, World.setClient,
    hstart, hwaits, hended, h.first, Running.answered, hfirst, hsecond, Running.entry, hending, hij,
    hij.symm]

end

/-! ## Two clients with a copy of one book -/

open Bookshelf

/-- The equality of integers. -/
def integersEqual : Value → Value → Bool
  | .of (.int a), .of (.int b) => a = b
  | .of (.bigInt a), .of (.bigInt b) => a = b
  | _, _ => false

def bookTable : Table where
  name := "books"
  key := "id"
  equal := integersEqual
  now := .null .instant
  key_plain := by decide
  equal_version a b := rfl
  equal_trans a b v ha hb := by
    unfold integersEqual at ha hb
    split at ha <;> split at hb <;> simp_all [integersEqual]

theorem bookTable_fits : bookTable.Fits (Mapped.shape Book) := by
  constructor
  case table => decide
  case key =>
    intro column h
    cases h
    decide
  case columns => decide

def storedBook : Stored where
  key := .of (.bigInt 1)
  version := 4
  deleted := false
  cells column := if column = "user_id" then .of (.bigInt 7) else .null .string

def copiedBook : Book :=
  { id := 1, title := "Dune", author := "Frank Herbert", pages := 412, version := 4 }

def readerOwnership : Ownership := ⟨"user_id", .of (.bigInt 7)⟩

/-- Both clients update the book from the same version, one statement in turn. -/
def racingUpdates : List (Move Bool Book) := race (.update {} readerOwnership) false true

theorem bookUpdate_answered :
    let stmt := Writer.modelUpdate copiedBook "id" (.of (.bigInt 1)) (some readerOwnership)
    ∃ raised : Stored, raised.version = 5 ∧
      bookTable.answer stmt [storedBook] = (.rows [[.of (.int 5)]], [raised]) ∧
      bookTable.answer stmt [raised] = (.rows [], [raised]) := by
  intro stmt
  have hanswer := bookTable.answer_of_read (isSetting_update _ _ _ _ _)
    (read_update bookTable_fits (Mapped.toRecord copiedBook) rfl (.of (.bigInt 1)) 4
      (show IsColumn readerOwnership.column by decide))
  exact ⟨_, rfl, (hanswer _).trans rfl, (hanswer _).trans rfl⟩

theorem racingUpdates_run :
    let w := (World.fresh [storedBook] fun _ => copiedBook).run bookTable racingUpdates
    w.rows.map Stored.version = [5] ∧
      w.history.map (fun e => (e.client, e.before, e.outcome, e.after)) =
        [(true, copiedBook, .ok (), { copiedBook with version := 5 }),
          (false, copiedBook, .error .editConflict, copiedBook)] := by
  obtain ⟨raised, hversion, hfirst, hsecond⟩ := bookUpdate_answered
  have hcolumn : IsColumn readerOwnership.column := by decide
  have h : (Call.update {} readerOwnership).Dialogue bookTable copiedBook _ _ _ :=
    Call.update_dialogue bookTable_fits (fun _ _ => rfl) {} hcolumn rfl rfl
  obtain ⟨hrows, hhistory⟩ := run_race h hfirst hsecond (show false ≠ true by decide)
  refine ⟨?_, hhistory⟩
  rw [racingUpdates, hrows, List.map_singleton, hversion]

theorem racingUpdates_not_lost :
    bookTable.Fits (Mapped.shape Book) ∧ bookTable.Unique [storedBook] ∧
      let w := (World.fresh [storedBook] fun _ => copiedBook).run bookTable racingUpdates
      ((∀ e ∈ w.history, e.Sound bookTable) ∧
        (∀ r ∈ [storedBook], w.history.Pairwise fun e f => e.updates bookTable r.key = true →
          f.updates bookTable r.key = true → Versioned.version e.before ≠ Versioned.version f.before) ∧
        List.Forall₂ (Counted bookTable w.history) [storedBook] w.rows ∧
        ∀ (c : Call) (copy : Book), IsColumn c.owner.column → c.IsRead copy) ∧
      w.rows.map Stored.version = [5] ∧
        w.history.map (fun e => (e.client, e.before, e.outcome, e.after)) =
          [(true, copiedBook, .ok (), { copiedBook with version := 5 }),
            (false, copiedBook, .error .editConflict, copiedBook)] := by
  have hunique : bookTable.Unique [storedBook] := List.pairwise_singleton _ _
  refine ⟨bookTable_fits, hunique, ?_, racingUpdates_run⟩
  refine no_update_is_lost bookTable_fits (fun _ _ => rfl) hunique (fun _ => copiedBook)
    racingUpdates ?_
  intro i c hstart
  have howner : IsColumn readerOwnership.column := by decide
  simp only [racingUpdates, race, List.mem_cons, reduceCtorEq, Move.start.injEq, List.not_mem_nil,
    or_false] at hstart
  rcases hstart with ⟨-, rfl⟩ | ⟨-, rfl⟩ <;> exact howner

end RowMap.Store
