import SchemaSql.Database.Operation
import SchemaSql.Proofs.Statement.Assembly
import SchemaSql.Proofs.Transcript

/-!
# Sessions with a database

A session is a sequence of operations against one database, whatever the database answers. `Operation.Keeps` is the
protocol of one operation: it sends nothing if its statement cannot be built, one call if it can, and the statements
of a script up to the first that fails; an error of the database is its result; and rows are changed or deleted
under a predicate with a text only, in a table under its own name. `session_keepsAll` says that every operation of
every session keeps it.
-/

namespace SchemaSql

/-- **An operation on the rows of tables**, or a script. -/
inductive Operation where
  | select (s : Schema) (filter : Option Predicate)
  | selectPage (s : Schema) (filter : Option Predicate) (page : Page)
  | selectOne (s : Schema) (filter : Option Predicate)
  | selectJoin (base : Schema) (joined : List Schema) (joins : List Join) (filter : Option Predicate)
  | count (s : Schema) (filter : Option Predicate)
  | insert (s : Schema) (values : ValueSource)
  | update (s : Schema) (values : ValueSource) (filter : Option Predicate)
  | delete (s : Schema) (filter : Option Predicate)
  | executeScript (script : TableScript)

/-- **What an operation answers.** -/
inductive Answer where
  | records (found : List RecordValue)
  | record (found : Option RecordValue)
  | joined (found : List JoinedRow)
  | count (n : UInt64)
  | written (result : WriteResult)
  | affected (n : UInt64)
  | done

variable {α β σ : Type}

/-- An outcome whose result is wrapped up. -/
def Outcome.map (wrap : α → β) (o : Outcome α σ) : Outcome β σ :=
  ⟨o.result.map wrap, o.calls, o.state⟩

/-- What a database makes of a call, without what it answers: whether it fails, and the state after it. -/
def Database.take (db : Database σ) : Call → σ → Except Error Unit × σ
  | .query s, state => ((db.query s state).1.map fun _ => (), (db.query s state).2)
  | .execute s, state => ((db.execute s state).1.map fun _ => (), (db.execute s state).2)

/-- The call by which the statement of a request is sent. -/
def Request.call : Request → Statement → Call
  | .insert _ _ => .execute
  | .update _ _ _ => .execute
  | .delete _ _ => .execute
  | _ => .query

namespace Operation

open Exchange (joinColumns firstPage)

/-- **Carries out an operation.** -/
def run (db : Database σ) (state : σ) : Operation → Outcome Answer σ
  | select s filter => ((Exchange.select s filter).run db state).map .records
  | selectPage s filter page => ((Exchange.selectPage s filter page).run db state).map .records
  | selectOne s filter => ((Exchange.selectOne s filter).run db state).map .record
  | selectJoin base joined joins filter => ((Exchange.selectJoin base joined joins filter).run db state).map .joined
  | count s filter => ((Exchange.count s filter).run db state).map .count
  | insert s values => ((Exchange.insert s values).run db state).map .written
  | update s values filter => ((Exchange.update s values filter).run db state).map .affected
  | delete s filter => ((Exchange.delete s filter).run db state).map .affected
  | executeScript script => ((Exchange.executeScript script).run db state).map fun _ => .done

/-- **The statement for which an operation asks**, unless it is a script. -/
def request? : Operation → Option Request
  | select s filter => some (.select (some s) filter)
  | selectPage s filter page => some (.selectPage (some s) filter page)
  | selectOne s filter => some (.selectPage (some s) filter firstPage)
  | selectJoin base joined joins filter => some (.selectJoin base (joinColumns base joined) joins filter)
  | count s filter => some (.count s filter)
  | insert s values => some (.insert s values)
  | update s values filter => some (.update s values filter)
  | delete s filter => some (.delete s filter)
  | executeScript _ => none

/-- **What a statement that changes or deletes rows looks like**: it ends in a predicate with a text, and its table
stands under its own name. -/
def Guards : Operation → Statement → Prop
  | update s values filter, t =>
    s.isAliased = false ∧ ∃ p, filter = some p ∧ p.assemble.sql ≠ "" ∧
      t.sql = "UPDATE " ++ s.table ++ " SET " ++
        ", ".intercalate ((Build.assignments s values).map fun c => c.1 ++ " = ?") ++ " WHERE " ++ p.assemble.sql
  | delete s filter, t =>
    s.isAliased = false ∧ ∃ p, filter = some p ∧ p.assemble.sql ≠ "" ∧
      t.sql = "DELETE FROM " ++ s.table ++ " WHERE " ++ p.assemble.sql
  | _, _ => True

end Operation

/-- **One statement is sent, or none.** Nothing happens if it cannot be built. Otherwise there is one call, and if the
database fails it, its error is the result. -/
structure Outcome.Single (db : Database σ) (q : Except Error Statement) (call : Statement → Call) (state : σ)
    (o : Outcome α σ) : Prop where
  refused : ∀ e, q = .error e → o = ⟨.error e, [], state⟩
  sent : ∀ t, q = .ok t → o.calls = [call t] ∧ o.state = (db.take (call t) state).2 ∧
    ∀ e, (db.take (call t) state).1 = .error e → o.result = .error e

/-- **Calls are made in order up to the first that fails**, whose error is the result. If none fails all of them are
made, and the result is the given one. -/
def Outcome.UpToFailure (db : Database σ) (planned : List Call) (result : α) (state : σ) (o : Outcome α σ) : Prop :=
  ∃ unsent results, planned = o.calls ++ unsent ∧ transcript db.take o.calls state = (results, o.state) ∧
    ((unsent = [] ∧ (∀ r ∈ results, r = .ok ()) ∧ o.result = .ok result) ∨
      ∃ before e, results = before ++ [.error e] ∧ (∀ r ∈ before, r = .ok ()) ∧ o.result = .error e)

/-- **The protocol of an operation** with a database. -/
structure Operation.Keeps (db : Database σ) (state : σ) (op : Operation) (o : Outcome Answer σ) : Prop where
  single : ∀ r, op.request? = some r → o.Single db r.assemble r.call state
  script : ∀ s, op = .executeScript s → o.UpToFailure db (s.statements.map fun t => .execute ⟨t, []⟩) .done state
  guarded : ∀ c ∈ o.calls, op.Guards c.statement

/-- **What came of the operations of a session**, each on the state that those before it left behind. -/
def session (db : Database σ) : σ → List Operation → List (Outcome Answer σ)
  | _, [] => []
  | state, op :: ops =>
    let o := op.run db state
    o :: session db o.state ops

/-- **A session that keeps the protocol**, operation by operation. -/
inductive KeepsAll (db : Database σ) : σ → List Operation → List (Outcome Answer σ) → Prop
  | nil (state : σ) : KeepsAll db state [] []
  | cons {state : σ} {op : Operation} {ops : List Operation} {o : Outcome Answer σ} {os : List (Outcome Answer σ)}
      (first : op.Keeps db state o) (rest : KeepsAll db o.state ops os) : KeepsAll db state (op :: ops) (o :: os)

/-! ## One statement -/

namespace Exchange

variable (db : Database σ) (state : σ)

theorem single_ask (q : Except Error Statement) (use : List Row → Except Error α) :
    ((ask q use).run db state).Single db q .query state := by
  constructor
  · rintro e rfl
    exact run_ask_error db e use state
  · rintro t rfl
    rw [run_ask_ok]
    refine ⟨rfl, rfl, fun e he => ?_⟩
    rw [Database.take] at he
    cases hanswer : (db.query t state).1 with
    | ok rows => rw [hanswer] at he; cases he
    | error e' => rw [hanswer] at he; cases he; rfl

theorem single_tell (q : Except Error Statement) (use : WriteResult → α) :
    ((tell q use).run db state).Single db q .execute state := by
  constructor
  · rintro e rfl
    exact run_tell_error db e use state
  · rintro t rfl
    rw [run_tell_ok]
    refine ⟨rfl, rfl, fun e he => ?_⟩
    rw [Database.take] at he
    cases hanswer : (db.execute t state).1 with
    | ok result => rw [hanswer] at he; cases he
    | error e' => rw [hanswer] at he; cases he; rfl

/-! ## Scripts -/

/-- **A script is sent up to its first failure.** The induction is on the statements; the calls that follow are made on
the state that the first left behind. -/
theorem upToFailure_executeAll (texts : List String) :
    ((executeAll texts).run db state).UpToFailure db (texts.map fun t => .execute ⟨t, []⟩) () state := by
  induction texts generalizing state with
  | nil => exact ⟨[], [], rfl, rfl, .inl ⟨rfl, List.forall_mem_nil _, rfl⟩⟩
  | cons text texts ih =>
    obtain ⟨unsent, results, hplanned, htranscript, hend⟩ := ih (db.execute ⟨text, []⟩ state).2
    cases hanswer : (db.execute ⟨text, []⟩ state).1 with
    | error e =>
      refine ⟨texts.map fun t => .execute ⟨t, []⟩, [.error e], ?_, ?_, .inr ⟨[], e, rfl, List.forall_mem_nil _, ?_⟩⟩
      all_goals simp only [executeAll, run, hanswer, List.map_cons, List.singleton_append, transcript, Database.take]
      rfl
    | ok result =>
      have hrun : (executeAll (text :: texts)).run db state =
          { (executeAll texts).run db (db.execute ⟨text, []⟩ state).2 with
            calls := .execute ⟨text, []⟩ :: ((executeAll texts).run db (db.execute ⟨text, []⟩ state).2).calls } := by
        simp only [executeAll, run, hanswer]
      rw [hrun]
      refine ⟨unsent, .ok () :: results, ?_, ?_, ?_⟩
      · rw [List.map_cons, hplanned, List.cons_append]
      · simp only [transcript, Database.take, hanswer, htranscript]
        rfl
      · rcases hend with ⟨hunsent, hresults, hresult⟩ | ⟨before, e, hresults, hbefore, hresult⟩
        · exact .inl ⟨hunsent, List.forall_mem_cons.2 ⟨rfl, hresults⟩, hresult⟩
        · exact .inr ⟨.ok () :: before, e, by rw [hresults, List.cons_append],
            List.forall_mem_cons.2 ⟨rfl, hbefore⟩, hresult⟩

end Exchange

namespace Outcome

variable {db : Database σ} {state : σ} {o : Outcome α σ}

theorem Single.map {q : Except Error Statement} {call : Statement → Call} (h : o.Single db q call state)
    (wrap : α → β) : (o.map wrap).Single db q call state := by
  constructor
  · intro e he
    rw [h.refused e he]
    rfl
  · intro t ht
    obtain ⟨hcalls, hstate, hresult⟩ := h.sent t ht
    refine ⟨hcalls, hstate, fun e he => ?_⟩
    rw [Outcome.map, hresult e he]
    rfl

theorem UpToFailure.map {planned : List Call} {result : α} (h : o.UpToFailure db planned result state)
    (wrap : α → β) : (o.map wrap).UpToFailure db planned (wrap result) state := by
  obtain ⟨unsent, results, hplanned, htranscript, hend⟩ := h
  refine ⟨unsent, results, hplanned, htranscript, ?_⟩
  rcases hend with ⟨hunsent, hresults, hresult⟩ | ⟨before, e, hresults, hbefore, hresult⟩
  · exact .inl ⟨hunsent, hresults, by rw [Outcome.map, hresult]; rfl⟩
  · exact .inr ⟨before, e, hresults, hbefore, by rw [Outcome.map, hresult]; rfl⟩

end Outcome

/-! ## Statements that change or delete rows -/

namespace Assembly

variable {s : Schema} {values : ValueSource} {filter : Option Predicate} {t : Statement}

theorem guards_update (h : update s values filter = .ok t) : (Operation.update s values filter).Guards t := by
  obtain ⟨_, hu, -⟩ := bind_eq_ok_iff.1 h
  obtain ⟨p, hfilter, hp, hsql⟩ := update_sql h
  exact ⟨Build.unaliased_eq_ok_iff.1 hu, p, hfilter, hp, hsql⟩

theorem guards_delete (h : delete s filter = .ok t) : (Operation.delete s filter).Guards t := by
  obtain ⟨_, hu, -⟩ := bind_eq_ok_iff.1 h
  obtain ⟨p, hfilter, hp, hsql⟩ := delete_sql h
  exact ⟨Build.unaliased_eq_ok_iff.1 hu, p, hfilter, hp, hsql⟩

end Assembly

/-! ## Operations and sessions -/

theorem Request.statement_call (r : Request) (t : Statement) : (r.call t).statement = t := by
  cases r <;> rfl

/-- The calls of an operation that sends one statement or none. -/
theorem Outcome.Single.forall_calls {db : Database σ} {state : σ} {o : Outcome α σ} {q : Except Error Statement}
    {call : Statement → Call} (h : o.Single db q call state) {P : Call → Prop}
    (hp : ∀ t, q = .ok t → P (call t)) : ∀ c ∈ o.calls, P c := by
  cases hq : q with
  | error e =>
    rw [h.refused e hq]
    exact List.forall_mem_nil _
  | ok t =>
    rw [(h.sent t hq).1]
    exact List.forall_mem_singleton.2 (hp t hq)

namespace Operation

variable (db : Database σ) (state : σ)

theorem guards_assemble {op : Operation} {r : Request} (hr : op.request? = some r) {t : Statement}
    (ht : r.assemble = .ok t) : op.Guards t := by
  cases op with
  | update s values filter => cases hr; exact Assembly.guards_update ht
  | delete s filter => cases hr; exact Assembly.guards_delete ht
  | _ => trivial

theorem single_run {op : Operation} {r : Request} (hr : op.request? = some r) :
    (op.run db state).Single db r.assemble r.call state := by
  cases op with
  | insert s values => cases hr; exact (Exchange.single_tell db state _ _).map _
  | update s values filter => cases hr; exact (Exchange.single_tell db state _ _).map _
  | delete s filter => cases hr; exact (Exchange.single_tell db state _ _).map _
  | executeScript script => cases hr
  | _ => cases hr; exact (Exchange.single_ask db state _ _).map _

/-- **Every operation keeps its protocol**, on every state of every database. -/
theorem run_keeps (op : Operation) : op.Keeps db state (op.run db state) := by
  constructor
  · intro r hr
    exact single_run db state hr
  · rintro s rfl
    exact (Exchange.upToFailure_executeAll db state s.statements).map fun _ => Answer.done
  · cases hr : op.request? with
    | none =>
      cases op with
      | executeScript script => exact fun _ _ => trivial
      | _ => cases hr
    | some r =>
      refine (single_run db state hr).forall_calls fun t ht => ?_
      rw [r.statement_call]
      exact guards_assemble hr ht

end Operation

/-- **Every session keeps the protocol**, whatever the database answers to its operations. -/
theorem session_keepsAll (db : Database σ) (state : σ) (ops : List Operation) :
    KeepsAll db state ops (session db state ops) := by
  induction ops generalizing state with
  | nil => exact .nil state
  | cons op ops ih => exact .cons (op.run_keeps db state) (ih _)

end SchemaSql
