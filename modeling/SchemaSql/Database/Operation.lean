import SchemaSql.Database.Exchange
import SchemaSql.Schema.Row
import SchemaSql.Statement.Assembly
import SchemaSql.Statement.TableScript

/-!
# Operations on the rows of a table

Each operation is the exchange of one statement, apart from the scripts that create tables. A statement
that cannot be built is never sent, and an error of the database is the error of the operation.
-/

namespace SchemaSql.Exchange

/-- **All rows of a table** for which a predicate holds. -/
def select (s : Schema) (filter : Option Predicate) : Exchange (List RecordValue) :=
  ask (Assembly.select (some s) filter) fun rows => rows.mapM s.readRow

/-- **One page of the rows** for which a predicate holds. -/
def selectPage (s : Schema) (filter : Option Predicate) (p : Page) : Exchange (List RecordValue) :=
  ask (Assembly.selectPage (some s) filter p) fun rows => rows.mapM s.readRow

/-- A page of one row, in the order of the primary keys. -/
def firstPage : Page where
  limit := 1

/-- **The first row** for which a predicate holds, in the order of the primary keys. -/
def selectOne (s : Schema) (filter : Option Predicate) : Exchange (Option RecordValue) :=
  ask (Assembly.selectPage (some s) filter firstPage) fun rows => (rows.mapM s.readRow).map List.head?

/-- The columns of several schemas, in the order of the schemas. -/
def joinColumns (base : Schema) (joined : List Schema) : List FieldRef :=
  base.refs ++ joined.flatMap Schema.refs

/-- **The rows of joined tables** for which a predicate holds. -/
def selectJoin (base : Schema) (joined : List Schema) (joins : List Join) (filter : Option Predicate) :
    Exchange (List JoinedRow) :=
  ask (Assembly.selectJoin base (joinColumns base joined) joins filter) fun rows => rows.mapM (JoinedRow.read base joined)

/-- The label under which a database counts rows. -/
def countLabel : String := "count"

/-- The count that the first row of a result holds. -/
def readCount (rows : List Row) : Except Error UInt64 :=
  match rows.head?.bind fun r => r.get? countLabel with
  | some (.int n) => if n < 0 then .error (.mapping (.negativeCount n)) else .ok n.toUInt64
  | found => .error (.mapping (.unexpectedCount found))

/-- **The number of rows** for which a predicate holds. -/
def count (s : Schema) (filter : Option Predicate) : Exchange UInt64 :=
  ask (Assembly.count s filter) readCount

/-- **A new row.** -/
def insert (s : Schema) (values : ValueSource) : Exchange WriteResult :=
  tell (Assembly.insert s values) id

/-- **New values** in the rows for which a predicate holds. Returns how many they are. -/
def update (s : Schema) (values : ValueSource) (filter : Option Predicate) : Exchange UInt64 :=
  tell (Assembly.update s values filter) (·.rowsAffected)

/-- **No more rows** for which a predicate holds. Returns how many they were. -/
def delete (s : Schema) (filter : Option Predicate) : Exchange UInt64 :=
  tell (Assembly.delete s filter) (·.rowsAffected)

/-- **The statements of a script** in their order, up to the first that fails. -/
def executeScript (script : TableScript) : Exchange Unit :=
  executeAll script.statements

end SchemaSql.Exchange
