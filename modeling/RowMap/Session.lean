import RowMap.Row
import RowMap.Trace

/-!
# Sessions

A session talks to a server, keeps the caller's own data in memory, and records its events. An
action is a program over a session; what it has done to the session stays when it fails.
-/

namespace RowMap

/-- A server answers statements. Its state is whatever the answers depend on. -/
class Server (σ : Type) where
  /-- What is recorded when a statement is about to be handed over. -/
  announce : Statement → List Event := fun _ => []
  /-- The number of rows that a statement affected. -/
  execute : Statement → σ → Except StoreError Nat × σ
  /-- The rows that a statement returns. -/
  query : Statement → σ → Except StoreError (List Row) × σ

structure Session (σ μ : Type) where
  server : σ
  /-- The caller's own data. -/
  memory : μ
  /-- What has happened, the first event first. -/
  events : List Event := []

/-- A program over a session with servers `σ` and memory `μ`. -/
abbrev Action (σ μ α : Type) := ExceptT StoreError (StateM (Session σ μ)) α

namespace Action

variable {σ μ ν α : Type}

def emit (e : Event) : Action σ μ Unit :=
  modify fun s => { s with events := s.events ++ [e] }

/-- The outcome of an action as a value. -/
def attempt (a : Action σ μ α) : Action σ μ (Except StoreError α) := fun s =>
  let (outcome, s) := a s
  (.ok outcome, s)

def getMemory : Action σ μ μ := return (← get).memory

def setMemory (m : μ) : Action σ μ Unit := modify fun s => { s with memory := m }

/-- An action on a part of the memory. -/
def focus (part : μ → ν) (replace : μ → ν → μ) (a : Action σ ν α) : Action σ μ α := fun s =>
  let (outcome, inner) := a ⟨s.server, part s.memory, s.events⟩
  (outcome, ⟨inner.server, replace s.memory inner.memory, inner.events⟩)

variable [Server σ]

/-- Hands a statement over and takes the server's answer. -/
def ask (s : Statement) (answer : σ → Except StoreError α × σ) : Action σ μ α := fun session =>
  let (reply, server) := answer session.server
  (reply, ⟨server, session.memory, session.events ++ Server.announce σ s ++ [.statement s]⟩)

def execute (s : Statement) : Action σ μ Nat := ask s (Server.execute s)

def query (s : Statement) : Action σ μ (List Row) := ask s (Server.query s)

/-- The first row, if there is one. -/
def queryFirst? (s : Statement) : Action σ μ (Option Row) := return (← query s).head?

/-- The first row. -/
def queryFirst (s : Statement) : Action σ μ Row := do
  match ← queryFirst? s with
  | some row => return row
  | none => throw .notFound

/-- A statement without values, for its effect. -/
def command (sql : String) : Action σ μ Unit := do
  let _ ← execute ⟨sql, []⟩

end Action

end RowMap
