import RowMap.Proofs.Session.Dialogue
import RowMap.Proofs.Store.Writes
import Mathlib.Logic.Function.Basic

/-!
# Clients of one table

Every client has a copy of a record, however old, and at most one running call. A move lets one
client take another copy, start a call, or have the statement answered that its call waits with.
So every order in which the statements of the clients can arrive is a list of moves.
-/

namespace RowMap.Store

/-! ## Calls -/

inductive Call
  | update (w : Writer) (owner : Ownership)
  | delete (w : Writer) (id : Value) (owner : Ownership)

namespace Call

def owner : Call → Ownership
  | .update _ owner => owner
  | .delete _ _ owner => owner

variable {μ : Type} [Versioned μ]

/-- The copy is the memory of the action. -/
def action (μ : Type) [Versioned μ] : Call → Action Replay μ Unit
  | .update w owner => w.updateModel (some owner)
  | .delete w id owner => w.softDeleteModel (Mapped.shape μ) id (some owner)

/-- What a successful call makes of the row of its key and of the copy. -/
def Effect (T : Table) (copy : μ) (r r' : Stored) (copy' : μ) : Call → Prop
  | .update _ owner => ∃ key, (Mapped.toRecord copy).keyValue? = some key ∧ T.Admits key owner r ∧
      r.version = Versioned.version copy ∧ Raised r r' ∧
      copy' = Versioned.setVersion r'.version copy ∧ Versioned.version copy' = r'.version
  | .delete _ id owner => T.Admits id owner r ∧ Marked r r' ∧ copy' = copy

/-- A call sends two statements to a table. The second one has the effect on one row, or it has no
effect and the call fails. -/
structure Dialogue (T : Table) (c : Call) (copy : μ) (first second : Statement)
    (finish : Except StoreError Script.Reply → Except StoreError Unit × μ) : Prop where
  sends : (c.action μ).SendsTwo copy first second finish
  first : ∀ rows, T.answer first rows = (.affected 0, rows)
  second : ∀ rows, T.Unique rows →
    (∃ before r after r' copy', rows = before ++ r :: after ∧ c.Effect T copy r r' copy' ∧
      (T.answer second rows).2 = before ++ r' :: after ∧
      finish (T.answer second rows).1.result = (.ok (), copy')) ∨
    ∃ e, (T.answer second rows).2 = rows ∧ finish (T.answer second rows).1.result = (.error e, copy)
  failed : ∀ e, ∃ e', finish (.error e) = (.error e', copy)

variable {T : Table}

theorem update_dialogue (hfits : T.Fits (Mapped.shape μ))
    (hset : ∀ version (m : μ), Versioned.version (Versioned.setVersion version m) = version)
    (w : Writer) {owner : Ownership} (howner : IsColumn owner.column) {copy : μ}
    {column : String} {key : Value} (hcolumn : Writer.keyColumn? (Mapped.shape μ) = some column)
    (hkey : (Mapped.toRecord copy).keyValue? = some key) :
    (update w owner).Dialogue T copy ⟨w.timeoutSql, []⟩
      (Writer.modelUpdate copy column key (some owner)) (w.updated copy) := by
  constructor
  case sends => exact w.updateModel_sendsTwo copy (some owner) hcolumn hkey
  case first => exact answer_timeout w
  case failed => exact fun e => ⟨_, w.updated_failure copy e⟩
  case second =>
    intro rows hunique
    rcases answer_update hfits hunique (Mapped.toRecord copy) hcolumn key (Versioned.version copy)
        howner with
      ⟨before, r, after, r', hrows, hadmits, hversion, hraised, hanswer⟩ | hanswer | ⟨e, hanswer⟩
    · left
      refine ⟨before, r, after, r', Versioned.setVersion r'.version copy, hrows,
        ⟨key, hkey, hadmits, hversion, hraised, rfl, hset _ _⟩, ?_, ?_⟩
      · rw [Writer.modelUpdate, hanswer]
      · rw [Writer.modelUpdate, hanswer]
        exact w.updated_version copy r'.version
    · right
      rw [Writer.modelUpdate, hanswer]
      exact ⟨_, rfl, w.updated_nothing copy⟩
    · right
      rw [Writer.modelUpdate, hanswer]
      exact ⟨_, rfl, w.updated_failure copy e⟩

theorem delete_dialogue (hfits : T.Fits (Mapped.shape μ)) (w : Writer) (id : Value)
    {owner : Ownership} (howner : IsColumn owner.column) (copy : μ) {column : String}
    (hcolumn : Writer.keyColumn? (Mapped.shape μ) = some column) :
    (delete w id owner).Dialogue T copy ⟨w.timeoutSql, []⟩
      (Writer.deletion (Mapped.shape μ) column id (some owner)).build (w.deleted copy) := by
  constructor
  case sends => exact w.softDeleteModel_sendsTwo copy (some owner) hcolumn id
  case first => exact answer_timeout w
  case failed => exact fun e => ⟨_, w.deleted_failure copy e⟩
  case second =>
    intro rows hunique
    rcases answer_deletion hfits hunique hcolumn id howner with
      ⟨before, r, after, r', hrows, hadmits, hmarked, hanswer⟩ | hanswer | ⟨e, hanswer⟩
    · left
      refine ⟨before, r, after, r', copy, hrows, ⟨hadmits, hmarked, rfl⟩, ?_, ?_⟩
      · rw [hanswer]
      · rw [hanswer]
        exact w.deleted_one copy
    · right
      rw [hanswer]
      exact ⟨_, rfl, w.deleted_nothing copy⟩
    · right
      rw [hanswer]
      exact ⟨_, rfl, w.deleted_failure copy e⟩

/-- The command that a call is meant as. Without a key there is none. -/
def command? (copy : μ) : Call → Option Command
  | .update _ owner =>
    (Writer.keyColumn? (Mapped.shape μ)).bind fun column =>
      (Mapped.toRecord copy).keyValue?.map fun key =>
        updateCommand (Mapped.toRecord copy) column key (Versioned.version copy) owner
  | .delete _ id owner =>
    (Writer.keyColumn? (Mapped.shape μ)).map fun column =>
      deletionCommand (Mapped.shape μ) column id owner

/-- A table reads the second statement as a command, and the first one as none. -/
structure ReadAs (first second : Statement) (command : Command) : Prop where
  sets : Table.isSetting first = true
  writes : Table.isSetting second = false
  reads : readCommand second = some command

section
variable (hfits : T.Fits (Mapped.shape μ))
  (hset : ∀ version (m : μ), Versioned.version (Versioned.setVersion version m) = version)
  (c : Call) (howner : IsColumn c.owner.column) (copy : μ)
include hfits hset howner

/-- Every call fails at once, as its type has no key, or sends its two statements. -/
theorem gives_or_dialogue :
    (c.command? copy = none ∧ ∃ e, (c.action μ).Gives copy e) ∨
      ∃ first second finish command, c.command? copy = some command ∧
        c.Dialogue T copy first second finish ∧ ReadAs first second command := by
  rcases hcolumn : Writer.keyColumn? (Mapped.shape μ) with _ | column
  · left
    cases c with
    | update w owner =>
      refine ⟨?_, _, w.updateModel_gives copy (some owner) (Or.inl hcolumn)⟩
      rw [command?, hcolumn, Option.bind_none]
    | delete w id owner =>
      refine ⟨?_, _, w.softDeleteModel_gives copy (some owner) hcolumn id⟩
      rw [command?, hcolumn, Option.map_none]
  · cases c with
    | update w owner =>
      have howner : IsColumn owner.column := howner
      rcases hkey : (Mapped.toRecord copy).keyValue? with _ | key
      · refine Or.inl ⟨?_, _, w.updateModel_gives copy (some owner) (Or.inr hkey)⟩
        rw [command?, hcolumn, hkey, Option.bind_some, Option.map_none]
      · refine Or.inr ⟨_, _, _, _, ?_, update_dialogue hfits hset w howner hcolumn hkey,
          isSetting_timeout w, isSetting_update _ _ _ _ _, read_update hfits _ hcolumn key _ howner⟩
        rw [command?, hcolumn, hkey, Option.bind_some, Option.map_some]
    | delete w id owner =>
      have howner : IsColumn owner.column := howner
      refine Or.inr ⟨_, _, _, _, ?_, delete_dialogue hfits w id howner copy hcolumn,
        isSetting_timeout w, isSetting_deletion _ _ _, read_deletion hfits hcolumn id howner⟩
      rw [command?, hcolumn, Option.map_some]

end

/-- A call sends nothing without a command. With one it sends a setting and a statement that a table
reads as the command. -/
def IsRead (c : Call) (copy : μ) : Prop :=
  match c.command? copy with
  | none => ∃ e, (c.action μ).Gives copy e
  | some command => ∃ first second finish,
      (c.action μ).SendsTwo copy first second finish ∧ ReadAs first second command

theorem isRead (hfits : T.Fits (Mapped.shape μ))
    (hset : ∀ version (m : μ), Versioned.version (Versioned.setVersion version m) = version)
    (c : Call) (howner : IsColumn c.owner.column) (copy : μ) : c.IsRead copy := by
  unfold IsRead
  rcases c.gives_or_dialogue hfits hset howner copy with
    ⟨hcommand, hgives⟩ | ⟨first, second, finish, command, hcommand, h, hread⟩
  · rw [hcommand]
    exact hgives
  · rw [hcommand]
    exact ⟨first, second, finish, h.sends, hread⟩

end Call

/-! ## The world -/

/-- A running call, and the rows before and after each of its statements so far. -/
structure Running where
  call : Call
  replies : List Script.Reply := []
  changes : List (List Stored × List Stored) := []

structure Client (μ : Type) where
  copy : μ
  running : Option Running := none

/-- A call that has ended, and the copy before and after it. -/
structure Entry (ι μ : Type) where
  client : ι
  call : Call
  outcome : Except StoreError Unit
  before : μ
  after : μ
  changes : List (List Stored × List Stored)

structure World (ι μ : Type) where
  rows : List Stored
  clients : ι → Client μ
  /-- The calls that have ended, the first one first. -/
  history : List (Entry ι μ) := []

inductive Move (ι μ : Type)
  | take (i : ι) (copy : μ)
  | start (i : ι) (call : Call)
  | answer (i : ι)
  /-- The statement fails before it gets to the table. -/
  | refuse (i : ι) (e : StoreError)

section
variable {ι μ : Type} [DecidableEq ι] [Versioned μ]

def Running.pending? (r : Running) (copy : μ) : Option Statement :=
  (r.call.action μ).pending? copy r.replies

omit [DecidableEq ι] in
def Running.entry (r : Running) (i : ι) (copy : μ) : Entry ι μ where
  client := i
  call := r.call
  outcome := ((r.call.action μ).ending copy r.replies).1
  before := copy
  after := ((r.call.action μ).ending copy r.replies).2
  changes := r.changes

def Running.answered (r : Running) (reply : Script.Reply) (rows rows' : List Stored) : Running :=
  { r with replies := r.replies ++ [reply], changes := r.changes ++ [(rows, rows')] }

namespace World

def setClient (w : World ι μ) (i : ι) (c : Client μ) : World ι μ :=
  { w with clients := Function.update w.clients i c }

/-- A call goes on while it waits with a statement. -/
def resume (w : World ι μ) (i : ι) (r : Running) : World ι μ :=
  match r.pending? (w.clients i).copy with
  | some _ => w.setClient i { copy := (w.clients i).copy, running := some r }
  | none =>
    let e := r.entry i (w.clients i).copy
    { w.setClient i { copy := e.after } with history := w.history ++ [e] }

/-- The statement that the call of a client waits with gets an answer. -/
def answerBy (w : World ι μ) (i : ι)
    (answer : Statement → List Stored → Script.Reply × List Stored) : World ι μ :=
  match (w.clients i).running with
  | none => w
  | some r =>
    match r.pending? (w.clients i).copy with
    | none => w
    | some stmt =>
      let (reply, rows) := answer stmt w.rows
      { w with rows }.resume i (r.answered reply w.rows rows)

def move (T : Table) (w : World ι μ) : Move ι μ → World ι μ
  | .take i copy => if (w.clients i).running.isNone then w.setClient i { copy } else w
  | .start i call => if (w.clients i).running.isNone then w.resume i { call } else w
  | .answer i => w.answerBy i T.answer
  | .refuse i e => w.answerBy i fun _ rows => (.failure e, rows)

def run (T : Table) (w : World ι μ) (moves : List (Move ι μ)) : World ι μ := moves.foldl (move T) w

def fresh (rows : List Stored) (copies : ι → μ) : World ι μ where
  rows := rows
  clients i := { copy := copies i }

end World

end

end RowMap.Store
