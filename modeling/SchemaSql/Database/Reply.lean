import SchemaSql.Database.Exchange

/-!
# Prepared answers

A database that answers each call with the next of a list of replies, whatever the statement is. When
the replies are used up, queries have no rows and other statements change nothing.
-/

namespace SchemaSql

/-- **A prepared answer**: an error, or rows for a query and a result for a statement that writes. -/
inductive Reply where
  | fail (e : Error)
  | answer (rows : List Row) (result : WriteResult)

namespace Reply

/-- The answer to a query. -/
def rows : Reply → Except Error (List Row)
  | fail e => .error e
  | answer rows _ => .ok rows

/-- The answer to a statement that writes. -/
def result : Reply → Except Error WriteResult
  | fail e => .error e
  | answer _ result => .ok result

/-- The answer when there are no more replies. -/
def blank : Reply :=
  answer [] {}

/-- The next reply, and those after it. -/
def next : List Reply → Reply × List Reply
  | [] => (blank, [])
  | r :: rs => (r, rs)

/-- **The database that answers from a list of replies.** -/
def database : Database (List Reply) where
  query _ replies := ((next replies).1.rows, (next replies).2)
  execute _ replies := ((next replies).1.result, (next replies).2)

end Reply

end SchemaSql
