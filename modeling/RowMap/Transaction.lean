import RowMap.Session

/-!
# Transactions

A transaction is opened, and closed once: by a commit, a rollback, or by being dropped, which
rolls it back. A transaction inside another one is a savepoint. A commit that fails leaves the
transaction open, and it is dropped.
-/

namespace RowMap

inductive Isolation
  | readUncommitted | readCommitted | repeatableRead | serializable
deriving DecidableEq

def Isolation.sql : Isolation → String
  | .readUncommitted => "READ UNCOMMITTED"
  | .readCommitted => "READ COMMITTED"
  | .repeatableRead => "REPEATABLE READ"
  | .serializable => "SERIALIZABLE"

/-- The level that is used when none is named. -/
def Isolation.standard : Isolation := .readCommitted

structure Transaction where
  /-- The number of transactions around it. -/
  depth : Nat
  closed : Bool := false
deriving DecidableEq

namespace Transaction

variable {σ μ α : Type} [Server σ]

def savepoint (depth : Nat) : String := "sp_" ++ toString depth

def beginSql : Option Isolation → String
  | none => "BEGIN"
  | some level => "BEGIN ISOLATION LEVEL " ++ level.sql

def savepointSql (depth : Nat) : String := "SAVEPOINT " ++ savepoint depth

def commitSql (depth : Nat) : String :=
  if depth = 0 then "COMMIT" else "RELEASE SAVEPOINT " ++ savepoint depth

def rollbackSql (depth : Nat) : String :=
  if depth = 0 then "ROLLBACK" else "ROLLBACK TO SAVEPOINT " ++ savepoint depth

/-! ## Opening -/

def start (level : Option Isolation) : Action σ μ Transaction := do
  Action.emit (.beginSpan 0)
  Action.command (beginSql level)
  return { depth := 0 }

/-- Opens a transaction inside another one. -/
def nest (tx : Transaction) : Action σ μ Transaction := do
  let depth := tx.depth + 1
  Action.emit (.beginSpan depth)
  Action.command (savepointSql depth)
  return { depth }

/-! ## Closing -/

def sendRollback (tx : Transaction) : Action σ μ Unit := do
  Action.emit (.rollbackSpan tx.depth)
  Action.command (rollbackSql tx.depth)

/-- Rolls back what is still open. A failure is only logged. -/
def drop (tx : Transaction) : Action σ μ Unit := do
  if !tx.closed then
    Action.emit (.droppedOpen tx.depth)
    match ← (sendRollback tx).attempt with
    | .ok _ => return
    | .error e => Action.emit (.dropFailed e.message)

def commit (tx : Transaction) : Action σ μ Unit := do
  Action.emit (.commitSpan tx.depth)
  match ← (Action.command (commitSql tx.depth)).attempt with
  | .ok _ => drop { tx with closed := true }
  | .error e =>
    drop tx
    throw e

def rollback (tx : Transaction) : Action σ μ Unit := do
  let outcome ← (sendRollback tx).attempt
  drop { tx with closed := true }
  match outcome with
  | .ok _ => return
  | .error e => throw e

/-! ## A transaction around an action -/

/-- Commits what the body has done, or rolls it back when the body fails. -/
def run (body : Transaction → Action σ μ α) : Action σ μ α := do
  let tx ← start none
  match ← (body tx).attempt with
  | .ok a =>
    commit tx
    return a
  | .error e =>
    match ← (rollback tx).attempt with
    | .ok _ => throw e
    | .error failure => throw (.rollback e failure)

end Transaction

end RowMap
