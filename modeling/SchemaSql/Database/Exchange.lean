import SchemaSql.Error
import SchemaSql.Statement.Fragment

/-!
# Exchanges with a database

An exchange is what an operation says to a database, written as a tree: it is done, or it sends a
statement and goes on with whatever the answer is. Nothing in it tells which database answers.
`Exchange.run` plays an exchange against a database and returns, beside the result, the calls that the
database received, in order.
-/

namespace SchemaSql

/-- **What a statement that writes came to.** -/
structure WriteResult where
  rowsAffected : UInt64 := 0
  lastInsertId : Option Int64 := none

/-- **An exchange with a database** that ends with a result. -/
inductive Exchange (α : Type) where
  | done (result : Except Error α)
  | query (s : Statement) (next : Except Error (List Row) → Exchange α)
  | execute (s : Statement) (next : Except Error WriteResult → Exchange α)

/-- **A call that a database receives.** -/
inductive Call where
  | query (s : Statement)
  | execute (s : Statement)

/-- The statement of a call. -/
def Call.statement : Call → Statement
  | query s => s
  | execute s => s

/-- **A database** whose answers depend on a state and change it. -/
structure Database (σ : Type) where
  query : Statement → σ → Except Error (List Row) × σ
  execute : Statement → σ → Except Error WriteResult × σ

/-- **What came of an exchange**: its result, the calls it made, and the state it left behind. -/
structure Outcome (α σ : Type) where
  result : Except Error α
  calls : List Call
  state : σ

namespace Exchange

variable {α σ : Type}

/-- **Plays an exchange against a database.** -/
def run (db : Database σ) : Exchange α → σ → Outcome α σ
  | done result, state => ⟨result, [], state⟩
  | query s next, state =>
    let (answer, state) := db.query s state
    let rest := (next answer).run db state
    { rest with calls := .query s :: rest.calls }
  | execute s next, state =>
    let (answer, state) := db.execute s state
    let rest := (next answer).run db state
    { rest with calls := .execute s :: rest.calls }

/-- Sends one query, if it could be built, and makes something of its rows. -/
def ask (q : Except Error Statement) (use : List Row → Except Error α) : Exchange α :=
  match q with
  | .error e => done (.error e)
  | .ok s => query s fun answer => done (answer >>= use)

/-- Sends one statement that writes, if it could be built, and makes something of its result. -/
def tell (q : Except Error Statement) (use : WriteResult → α) : Exchange α :=
  match q with
  | .error e => done (.error e)
  | .ok s => execute s fun answer => done (answer.map use)

/-- **Nothing is sent for a query that cannot be built.** -/
theorem run_ask_error (db : Database σ) (e : Error) (use : List Row → Except Error α) (state : σ) :
    (ask (.error e) use).run db state = ⟨.error e, [], state⟩ := rfl

/-- **One query is sent** if it could be built, and an error of the database stays as it is. -/
theorem run_ask_ok (db : Database σ) (s : Statement) (use : List Row → Except Error α) (state : σ) :
    (ask (.ok s) use).run db state = ⟨(db.query s state).1 >>= use, [.query s], (db.query s state).2⟩ := rfl

theorem run_tell_error (db : Database σ) (e : Error) (use : WriteResult → α) (state : σ) :
    (tell (.error e) use).run db state = ⟨.error e, [], state⟩ := rfl

theorem run_tell_ok (db : Database σ) (s : Statement) (use : WriteResult → α) (state : σ) :
    (tell (.ok s) use).run db state = ⟨(db.execute s state).1.map use, [.execute s], (db.execute s state).2⟩ := rfl

/-- Sends statements that write one after the other, up to the first that fails. -/
def executeAll : List String → Exchange Unit
  | [] => done (.ok ())
  | text :: texts =>
    execute ⟨text, []⟩ fun
      | .ok _ => executeAll texts
      | .error e => done (.error e)

end Exchange

end SchemaSql
