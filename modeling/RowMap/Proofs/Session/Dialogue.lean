import RowMap.Proofs.Session.Writing
import RowMap.Session.Script

/-!
# Writes, one statement at a time

An action that runs at once cannot be interleaved with others. Here it is run with the replies
that it has got so far. The first statement without a reply is the one it waits with, and it has
ended when every statement has a reply.
-/

namespace RowMap

/-! ## Replies so far -/

structure Replay where
  replies : List Script.Reply
  /-- The statements that were sent, the first one first. -/
  sent : List Statement := []

def Script.Reply.result : Script.Reply → Except StoreError Script.Reply
  | .failure e => .error e
  | reply => .ok reply

namespace Replay

def reply (stmt : Statement) (r : Replay) : Except StoreError Script.Reply × Replay :=
  match r.replies with
  | [] => (.error Script.exhausted, ⟨[], r.sent ++ [stmt]⟩)
  | reply :: rest => (reply.result, ⟨rest, r.sent ++ [stmt]⟩)

instance : Server Replay where
  execute stmt r := ((r.reply stmt).1.map Script.Reply.count, (r.reply stmt).2)
  query stmt r := ((r.reply stmt).1.map Script.Reply.toRows, (r.reply stmt).2)

end Replay

namespace Action

variable {μ α : Type}

def replay (a : Action Replay μ α) (m : μ) (replies : List Script.Reply) :
    Except StoreError α × Session Replay μ :=
  a { server := { replies }, memory := m }

/-- The statement that an action waits with. -/
def pending? (a : Action Replay μ α) (m : μ) (replies : List Script.Reply) : Option Statement :=
  (a.replay m replies).2.server.sent[replies.length]?

/-- The outcome of an action that has ended, and the memory after it. -/
def ending (a : Action Replay μ α) (m : μ) (replies : List Script.Reply) : Except StoreError α × μ :=
  ((a.replay m replies).1, (a.replay m replies).2.memory)

/-! ## Two statements -/

/-- An action sends one statement and, if that succeeds, another one. -/
structure SendsTwo (a : Action Replay μ α) (m : μ) (first second : Statement)
    (finish : Except StoreError Script.Reply → Except StoreError α × μ) : Prop where
  first : a.pending? m [] = some first
  refused : ∀ e, a.pending? m [.failure e] = none ∧ a.ending m [.failure e] = (.error e, m)
  second : ∀ n, a.pending? m [.affected n] = some second
  ended : ∀ n reply, a.pending? m [.affected n, reply] = none ∧
    a.ending m [.affected n, reply] = finish reply.result

/-- An action sends nothing and fails. -/
structure Gives (a : Action Replay μ α) (m : μ) (e : StoreError) : Prop where
  pending : ∀ replies, a.pending? m replies = none
  ending : ∀ replies, a.ending m replies = (.error e, m)

theorem gives_of_throw {a : Action Replay μ α} {m : μ} {e : StoreError}
    (h : ∀ replies, a.replay m replies = (throw e : Action Replay μ α).replay m replies) :
    a.Gives m e := by
  constructor
  · intro replies
    unfold pending?
    rw [h]
    rfl
  · intro replies
    unfold ending
    rw [h]
    rfl

theorem SendsTwo.congr {a b : Action Replay μ α} {m : μ} {first second : Statement}
    {finish : Except StoreError Script.Reply → Except StoreError α × μ}
    (h : a.SendsTwo m first second finish) (hab : b.replay m = a.replay m) :
    b.SendsTwo m first second finish := by
  have hpending : b.pending? m = a.pending? m := by
    unfold pending?
    rw [hab]
  have hending : b.ending m = a.ending m := by
    unfold ending
    rw [hab]
  constructor
  · rw [hpending, h.first]
  · rw [hpending, hending]
    exact h.refused
  · rw [hpending]
    exact h.second
  · rw [hpending, hending]
    exact h.ended

def andThen {β : Type} (g : α → Except StoreError β × μ) :
    Except StoreError α × μ → Except StoreError β × μ
  | (.ok x, _) => g x
  | (.error e, m) => (.error e, m)

theorem SendsTwo.bind {β : Type} {a : Action Replay μ α} {m : μ} {first second : Statement}
    {finish : Except StoreError Script.Reply → Except StoreError α × μ}
    (h : a.SendsTwo m first second finish) {f : α → Action Replay μ β}
    {g : α → Except StoreError β × μ}
    (hf : ∀ x s, f x s = ((g x).1, { s with memory := (g x).2 })) :
    (a >>= f).SendsTwo m first second fun reply => andThen g (finish reply) := by
  have hreplay (replies : List Script.Reply) :
      (a >>= f).replay m replies =
        match a.replay m replies with
        | (.ok x, s) => ((g x).1, { s with memory := (g x).2 })
        | (.error e, s) => (.error e, s) := by
    unfold replay
    rcases ha : a { server := { replies }, memory := m } with ⟨e | x, s⟩
    · exact bind_of_error ha f
    · exact (bind_of_ok ha f).trans (hf x s)
  have hpending (replies : List Script.Reply) :
      (a >>= f).pending? m replies = a.pending? m replies := by
    unfold pending?
    rw [hreplay]
    rcases a.replay m replies with ⟨_ | _, _⟩ <;> rfl
  have hending (replies : List Script.Reply) :
      (a >>= f).ending m replies = andThen g (a.ending m replies) := by
    unfold ending
    rw [hreplay]
    rcases a.replay m replies with ⟨_ | _, _⟩ <;> rfl
  constructor
  · rw [hpending, h.first]
  · intro e
    rw [hpending, hending, (h.refused e).2]
    exact ⟨(h.refused e).1, rfl⟩
  · intro n
    rw [hpending, h.second]
  · intro n reply
    rw [hpending, hending, (h.ended n reply).2]
    exact ⟨(h.ended n reply).1, rfl⟩

end Action

/-! ## Writes -/

namespace Writer

open RowMap.Action

variable {μ α : Type}

theorem guarded_sendsTwo (w : Writer) {stmt : Statement} {body : Action Replay μ α}
    {read : Except StoreError Script.Reply → Except StoreError α}
    (h : ∀ s, body s = (read (s.server.reply stmt).1, s.asked stmt (s.server.reply stmt).2)) (m : μ) :
    (w.guarded stmt body).SendsTwo m ⟨w.timeoutSql, []⟩ stmt fun reply =>
      ((read reply).mapError w.constraints.explain, m) := by
  have hlimited (n : Nat) (replies : List Script.Reply) :
      let s := w.limited stmt { server := { replies := .affected n :: replies }, memory := m }
      (w.guarded stmt body).replay m (.affected n :: replies) =
        ((body s).1.mapError w.constraints.explain, (body s).2) :=
    guarded_of_ok body rfl
  constructor
  · -- Without a reply the time limit fails as well, but it is sent.
    unfold pending? replay
    rw [guarded_of_error body rfl]
    rfl
  · intro e
    unfold pending? ending replay
    rw [guarded_of_error body rfl]
    exact ⟨rfl, rfl⟩
  · intro n
    unfold pending?
    rw [hlimited, h]
    rfl
  · intro n reply
    unfold pending? ending
    rw [hlimited, h]
    exact ⟨rfl, rfl⟩

/-- The new version that the reply to an update has. -/
def readVersion (w : Writer) (reply : Except StoreError Script.Reply) : Except StoreError Int32 :=
  (readFirst .editConflict (fun row => row.extract 0 .int32)
    (reply.map Script.Reply.toRows)).mapError w.constraints.explain

/-- What a deletion makes of the number of rows that it has marked. -/
def readCount (answer : Except StoreError Nat) : Except StoreError Unit :=
  answer.bind fun count => if count = 0 then .error .notFound else .ok ()

def countRows {σ : Type} [Server σ] (stmt : Statement) : Action σ μ Unit := do
  if (← Action.execute stmt) = 0 then throw .notFound

theorem softDelete_eq {σ : Type} [Server σ] (w : Writer) (stmt : Statement) :
    (w.softDelete stmt : Action σ μ Unit) = w.guarded stmt (countRows stmt) := rfl

theorem countRows_apply {σ : Type} [Server σ] (stmt : Statement) (s : Session σ μ) :
    countRows stmt s = (readCount (Server.execute stmt s.server).1,
      s.asked stmt (Server.execute stmt s.server).2) := by
  have h := execute_apply stmt s
  unfold readCount
  rcases hr : (Server.execute stmt s.server).1 with e | count
  · rw [hr] at h
    exact bind_of_error h _
  · rw [hr] at h
    refine (bind_of_ok h _).trans ?_
    by_cases hzero : count = 0
    · simp only [Except.bind, hzero, if_true]
      rfl
    · simp only [Except.bind, hzero, if_false]
      rfl

def deleted (w : Writer) (m : μ) (reply : Except StoreError Script.Reply) :
    Except StoreError Unit × μ :=
  ((readCount (reply.map Script.Reply.count)).mapError w.constraints.explain, m)

section
variable (w : Writer) (m : μ) (owner : Option Ownership)

theorem update_sendsTwo (stmt : Statement) :
    (w.update stmt : Action Replay μ Int32).SendsTwo m ⟨w.timeoutSql, []⟩ stmt fun reply =>
      (w.readVersion reply, m) := by
  rw [update_eq]
  exact w.guarded_sendsTwo (fun s => firstRow_apply _ _) m

theorem softDelete_sendsTwo (stmt : Statement) :
    (w.softDelete stmt : Action Replay μ Unit).SendsTwo m ⟨w.timeoutSql, []⟩ stmt (w.deleted m) := by
  rw [softDelete_eq]
  exact w.guarded_sendsTwo (fun s => countRows_apply stmt s) m

theorem softDeleteModel_sendsTwo {s : Shape} {column : String} (hcolumn : keyColumn? s = some column)
    (id : Value) :
    (w.softDeleteModel s id owner : Action Replay μ Unit).SendsTwo m ⟨w.timeoutSql, []⟩
      (deletion s column id owner).build (w.deleted m) := by
  unfold softDeleteModel
  rw [hcolumn]
  exact w.softDelete_sendsTwo m _

theorem softDeleteModel_gives {s : Shape} (h : keyColumn? s = none) (id : Value) :
    (w.softDeleteModel s id owner : Action Replay μ Unit).Gives m (noKey s) := by
  unfold softDeleteModel
  rw [h]
  exact gives_of_throw fun _ => rfl

/-! ## Models -/

variable [Versioned μ]

def modelUpdate (m : μ) (keyColumn : String) (key : Value) (owner : Option Ownership) :
    Statement :=
  (versionedUpdate (.ofRecord (Mapped.toRecord m)) keyColumn key (Versioned.version m) owner).build

def updated (reply : Except StoreError Script.Reply) : Except StoreError Unit × μ :=
  andThen (fun version => (.ok (), Versioned.setVersion version m)) (w.readVersion reply, m)

theorem updateModel_apply {σ : Type} [Server σ] (s : Session σ μ) :
    w.updateModel owner s =
      (match keyColumn? (Mapped.shape μ), (Mapped.toRecord s.memory).keyValue? with
        | some column, some key =>
          w.update (modelUpdate s.memory column key owner) >>= fun version =>
            setMemory (Versioned.setVersion version s.memory)
        | _, _ => throw (noKey (Mapped.shape μ)) : Action σ μ Unit) s := by
  rw [updateModel, bind_of_ok (getMemory_apply s), updateModelWith, bind_of_ok (getMemory_apply s)]
  rfl

theorem updateModel_replay (replies : List Script.Reply) :
    (w.updateModel owner : Action Replay μ Unit).replay m replies =
      (match keyColumn? (Mapped.shape μ), (Mapped.toRecord m).keyValue? with
        | some column, some key =>
          w.update (modelUpdate m column key owner) >>= fun version =>
            setMemory (Versioned.setVersion version m)
        | _, _ => throw (noKey (Mapped.shape μ)) : Action Replay μ Unit).replay m replies := by
  rw [replay, updateModel_apply]
  rfl

theorem updateModel_sendsTwo {column : String} {key : Value}
    (hcolumn : keyColumn? (Mapped.shape μ) = some column)
    (hkey : (Mapped.toRecord m).keyValue? = some key) :
    (w.updateModel owner : Action Replay μ Unit).SendsTwo m ⟨w.timeoutSql, []⟩
      (modelUpdate m column key owner) (w.updated m) := by
  have hupdate := (w.update_sendsTwo m (modelUpdate m column key owner)).bind
    (f := fun version => setMemory (Versioned.setVersion version m))
    (g := fun version => (.ok (), Versioned.setVersion version m)) (fun _ _ => rfl)
  refine hupdate.congr (funext fun replies => ?_)
  rw [updateModel_replay, hcolumn, hkey]

theorem updateModel_gives
    (h : keyColumn? (Mapped.shape μ) = none ∨ (Mapped.toRecord m).keyValue? = none) :
    (w.updateModel owner : Action Replay μ Unit).Gives m (noKey (Mapped.shape μ)) := by
  refine gives_of_throw fun replies => ?_
  rw [updateModel_replay]
  split
  · next hcolumn hkey =>
    rw [hcolumn, hkey] at h
    rcases h with h | h <;> cases h
  · rfl

/-! ## The ends for the replies of a table -/

theorem updated_version (version : Int32) :
    w.updated m (.ok (.rows [[.of (.int version)]])) = (.ok (), Versioned.setVersion version m) := rfl

theorem updated_nothing : w.updated m (.ok (.rows [])) = (.error .editConflict, m) := rfl

theorem updated_failure (e : StoreError) :
    w.updated m (.error e) = (.error (w.constraints.explain e), m) := rfl

omit [Versioned μ] in
theorem deleted_one : w.deleted m (.ok (.affected 1)) = (.ok (), m) := rfl

omit [Versioned μ] in
theorem deleted_nothing : w.deleted m (.ok (.affected 0)) = (.error .notFound, m) := rfl

omit [Versioned μ] in
theorem deleted_failure (e : StoreError) :
    w.deleted m (.error e) = (.error (w.constraints.explain e), m) := rfl

end

end Writer

end RowMap
