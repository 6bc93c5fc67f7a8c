import RowMap.Session

/-!
# Running actions

What the steps of an action make of a session, one equation for each. The memory and the server
are separate: a statement changes only the server, and assigning the memory sends nothing.
-/

namespace RowMap

namespace Session

variable {σ μ : Type}

def logged (s : Session σ μ) (e : Event) : Session σ μ := { s with events := s.events ++ [e] }

@[simp] theorem logged_server (s : Session σ μ) (e : Event) : (s.logged e).server = s.server := rfl

@[simp] theorem logged_memory (s : Session σ μ) (e : Event) : (s.logged e).memory = s.memory := rfl

variable [Server σ]

def asked (s : Session σ μ) (stmt : Statement) (server : σ) : Session σ μ :=
  { s with server, events := s.events ++ Server.announce σ stmt ++ [.statement stmt] }

@[simp] theorem asked_server (s : Session σ μ) (stmt : Statement) (server : σ) :
    (s.asked stmt server).server = server := rfl

@[simp] theorem asked_memory (s : Session σ μ) (stmt : Statement) (server : σ) :
    (s.asked stmt server).memory = s.memory := rfl

end Session

namespace Action

variable {σ μ α β : Type}

theorem bind_of_ok {a : Action σ μ α} {s s' : Session σ μ} {x : α} (h : a s = (.ok x, s'))
    (f : α → Action σ μ β) : (a >>= f) s = f x s' := by
  change ExceptT.bindCont f (a s).1 (a s).2 = f x s'
  rw [h]
  rfl

theorem bind_of_error {a : Action σ μ α} {s s' : Session σ μ} {e : StoreError}
    (h : a s = (.error e, s')) (f : α → Action σ μ β) : (a >>= f) s = (.error e, s') := by
  change ExceptT.bindCont f (a s).1 (a s).2 = (.error e, s')
  rw [h]
  rfl

theorem bind_eq_ok {a : Action σ μ α} {f : α → Action σ μ β} {s s' : Session σ μ} {y : β}
    (h : (a >>= f) s = (.ok y, s')) : ∃ x s₁, a s = (.ok x, s₁) ∧ f x s₁ = (.ok y, s') := by
  rcases ha : a s with ⟨_ | x, s₁⟩
  · rw [bind_of_error ha] at h
    cases h
  · rw [bind_of_ok ha] at h
    exact ⟨x, s₁, rfl, h⟩

theorem bind_eq_error {a : Action σ μ α} {f : α → Action σ μ β} {s s' : Session σ μ}
    {e : StoreError} (h : (a >>= f) s = (.error e, s')) :
    a s = (.error e, s') ∨ ∃ x s₁, a s = (.ok x, s₁) ∧ f x s₁ = (.error e, s') := by
  rcases ha : a s with ⟨_ | x, s₁⟩
  · rw [bind_of_error ha] at h
    cases h
    exact Or.inl rfl
  · rw [bind_of_ok ha] at h
    exact Or.inr ⟨x, s₁, rfl, h⟩

theorem lift_apply (x : Except StoreError α) (s : Session σ μ) :
    (liftM x : Action σ μ α) s = (x, s) := rfl

theorem emit_apply (e : Event) (s : Session σ μ) : emit e s = (.ok (), s.logged e) := rfl

theorem attempt_apply (a : Action σ μ α) (s : Session σ μ) :
    a.attempt s = (.ok (a s).1, (a s).2) := rfl

theorem getMemory_apply (s : Session σ μ) : (getMemory : Action σ μ μ) s = (.ok s.memory, s) := rfl

theorem getMemory_twice (f : μ → μ → Action σ μ α) :
    (do f (← getMemory) (← getMemory)) = getMemory >>= fun m => f m m := rfl

theorem setMemory_getMemory (m : μ) (f : μ → Action σ μ α) :
    (do setMemory m; f (← getMemory)) = (do setMemory m; f m) := by
  funext s
  rfl

variable [Server σ]

theorem execute_apply (stmt : Statement) (s : Session σ μ) :
    execute stmt s =
      ((Server.execute stmt s.server).1, s.asked stmt (Server.execute stmt s.server).2) := rfl

theorem query_apply (stmt : Statement) (s : Session σ μ) :
    query stmt s = ((Server.query stmt s.server).1, s.asked stmt (Server.query stmt s.server).2) := rfl

theorem command_apply (sql : String) (s : Session σ μ) :
    command sql s = ((Server.execute ⟨sql, []⟩ s.server).1.map fun _ => (),
      s.asked ⟨sql, []⟩ (Server.execute ⟨sql, []⟩ s.server).2) := by
  have h := execute_apply ⟨sql, []⟩ s
  rcases hr : (Server.execute ⟨sql, []⟩ s.server).1 with e | n
  · rw [hr] at h
    exact bind_of_error h _
  · rw [hr] at h
    exact bind_of_ok h _

theorem queryFirst?_apply (stmt : Statement) (s : Session σ μ) :
    queryFirst? stmt s = ((Server.query stmt s.server).1.map List.head?,
      s.asked stmt (Server.query stmt s.server).2) := by
  have h := query_apply stmt s
  rcases hr : (Server.query stmt s.server).1 with e | rows
  · rw [hr] at h
    exact bind_of_error h _
  · rw [hr] at h
    exact bind_of_ok h _

end Action

end RowMap
