import RowMap.Paging.Query
import RowMap.Proofs.Session.ModelWrites

/-!
# What an action sends

An action sends only such statements when every session shows it: what the recorder has noted in the
end is what it had before, and such statements behind it. That is kept when actions follow each
other, and reading an answer sends nothing.
-/

namespace RowMap

namespace Action

variable {σ μ α β : Type}

def SendsOnly (allowed : Statement → Prop) (a : Action (Recorder σ) μ α) : Prop :=
  ∀ s : Session (Recorder σ) μ, ∃ sent : List Exchange,
    (a s).2.transcript = s.transcript ++ sent ∧ ∀ x ∈ sent, allowed x.statement

variable {allowed : Statement → Prop} {a : Action (Recorder σ) μ α}

theorem sendsOnly_of_silent (h : ∀ s, (a s).2.server = s.server) : a.SendsOnly allowed := by
  intro s
  refine ⟨[], ?_, nofun⟩
  rw [List.append_nil, Session.transcript, h]
  rfl

theorem sendsOnly_throw (e : StoreError) : (throw e : Action (Recorder σ) μ α).SendsOnly allowed :=
  sendsOnly_of_silent fun _ => rfl

theorem SendsOnly.bind {k : α → Action (Recorder σ) μ β} (h : a.SendsOnly allowed)
    (hk : ∀ x, (k x).SendsOnly allowed) : (a >>= k).SendsOnly allowed := by
  intro s
  obtain ⟨sent, hsent, hallowed⟩ := h s
  rcases ha : a s with ⟨e | x, s₁⟩
  · rw [ha] at hsent
    rw [bind_of_error ha]
    exact ⟨sent, hsent, hallowed⟩
  · rw [ha] at hsent
    rw [bind_of_ok ha]
    obtain ⟨more, hmore, hallowed'⟩ := hk x s₁
    refine ⟨sent ++ more, ?_, List.forall_mem_append.mpr ⟨hallowed, hallowed'⟩⟩
    rw [hmore, hsent, List.append_assoc]

theorem lift_bind_error {x : Except StoreError α} {e : StoreError} (h : x = .error e)
    (k : α → Action σ μ β) (s : Session σ μ) :
    ((liftM x : Action σ μ α) >>= k) s = (.error e, s) := by
  rw [h]
  rfl

theorem lift_bind_ok {x : Except StoreError α} {y : α} (h : x = .ok y) (k : α → Action σ μ β)
    (s : Session σ μ) : ((liftM x : Action σ μ α) >>= k) s = k y s := by
  rw [h]
  rfl

theorem sendsOnly_lift {x : Except StoreError α} {k : α → Action (Recorder σ) μ β}
    (hk : ∀ y, x = .ok y → (k y).SendsOnly allowed) :
    ((liftM x : Action (Recorder σ) μ α) >>= k).SendsOnly allowed := by
  cases x with
  | error e => exact sendsOnly_throw e
  | ok y => exact hk y rfl

theorem SendsOnly.attempt (h : a.SendsOnly allowed) : a.attempt.SendsOnly allowed := h

variable [Server σ] {stmt : Statement}

theorem sendsOnly_execute (h : allowed stmt) :
    (execute stmt : Action (Recorder σ) μ Nat).SendsOnly allowed :=
  fun _ => ⟨_, rfl, List.forall_mem_singleton.mpr h⟩

theorem sendsOnly_query (h : allowed stmt) :
    (query stmt : Action (Recorder σ) μ (List Row)).SendsOnly allowed :=
  fun _ => ⟨_, rfl, List.forall_mem_singleton.mpr h⟩

theorem sendsOnly_queryFirst? (h : allowed stmt) :
    (queryFirst? stmt : Action (Recorder σ) μ (Option Row)).SendsOnly allowed :=
  (sendsOnly_query h).bind fun _ => sendsOnly_of_silent fun _ => rfl

/-! ## Reading records -/

variable {γ : Type} [Mapped γ]

theorem transcript_page (stmt : Statement) (f : Filters) (fresh : γ) (s : Session (Recorder σ) μ) :
    (page stmt f fresh s).2.transcript =
      s.transcript ++ [⟨stmt, (Server.query stmt s.server.server).1.map fun _ => ()⟩] := by
  have hquery := query_apply stmt (s.logged (.ofStatement stmt))
  rw [page, bind_of_ok (emit_apply (.ofStatement stmt) s)]
  rcases hr : (Server.query stmt (s.logged (.ofStatement stmt)).server).1 with e | rows
  · rw [hr] at hquery
    rw [bind_of_error hquery]
    rfl
  · rw [hr] at hquery
    rw [bind_of_ok hquery]
    cases readRows fresh 0 rows <;> rfl

theorem sendsOnly_page (h : allowed stmt) (f : Filters) (fresh : γ) :
    (page stmt f fresh : Action (Recorder σ) μ (List γ × Metadata)).SendsOnly allowed :=
  fun s => ⟨_, transcript_page stmt f fresh s, List.forall_mem_singleton.mpr h⟩

theorem sendsOnly_find (h : allowed stmt) (fresh : γ) :
    (find stmt fresh : Action (Recorder σ) μ γ).SendsOnly allowed := by
  refine (sendsOnly_of_silent fun _ => rfl).bind fun _ => SendsOnly.bind ?_ fun row => ?_
  · refine (sendsOnly_queryFirst? h).bind fun row => ?_
    cases row <;> exact sendsOnly_of_silent fun _ => rfl
  · split <;> exact sendsOnly_of_silent fun _ => rfl

end Action

/-! ## Writing -/

namespace Writer

open RowMap.Action

variable {σ μ α : Type} [Server σ] {allowed : Statement → Prop} {w : Writer} {stmt : Statement}

theorem sendsOnly_guarded {body : Action (Recorder σ) μ α} (hlimit : allowed w.limit)
    (hbody : body.SendsOnly allowed) : (w.guarded stmt body).SendsOnly allowed := by
  refine ((sendsOnly_execute hlimit).bind fun _ => sendsOnly_of_silent fun _ => rfl).bind fun _ =>
    (sendsOnly_of_silent fun _ => rfl).bind fun _ => hbody.attempt.bind fun outcome => ?_
  cases outcome <;> exact sendsOnly_of_silent fun _ => rfl

theorem sendsOnly_firstRow (h : allowed stmt) (missing : StoreError)
    (read : Row → Except ExtractionError α) :
    (firstRow stmt missing read : Action (Recorder σ) μ α).SendsOnly allowed := by
  refine (sendsOnly_queryFirst? h).bind fun row => ?_
  cases row <;> exact sendsOnly_of_silent fun _ => rfl

section
variable (hlimit : allowed w.limit) (h : allowed stmt)
include hlimit h

theorem sendsOnly_insert : (w.insert stmt : Action (Recorder σ) μ Inserted).SendsOnly allowed := by
  rw [insert_eq]
  exact sendsOnly_guarded hlimit (sendsOnly_firstRow h _ _)

theorem sendsOnly_update : (w.update stmt : Action (Recorder σ) μ Int32).SendsOnly allowed := by
  rw [update_eq]
  exact sendsOnly_guarded hlimit (sendsOnly_firstRow h _ _)

theorem sendsOnly_softDelete :
    (w.softDelete stmt : Action (Recorder σ) μ Unit).SendsOnly allowed := by
  rw [softDelete_eq]
  refine sendsOnly_guarded hlimit ((sendsOnly_execute h).bind fun count => ?_)
  split <;> exact sendsOnly_of_silent fun _ => rfl

end

end Writer

end RowMap
