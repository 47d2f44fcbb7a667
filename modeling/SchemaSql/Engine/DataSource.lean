import SchemaSql.DataSource.Registry

/-!
# What data sources do

This module is no part of the library: it says how the sources behind a registry open, answer and close. A data source
is a database that is open until it is closed; after that it cannot be reached. A prepared source answers by its name
when it is closed, and may refuse to close, which closes it all the same. The library takes any way of opening and
closing, and so does its theory.
-/

namespace SchemaSql

/-- **The kinds of a data source.** -/
inductive SourceKind where
  | prepared (refusesClosing : Bool)
  | sqlite
deriving DecidableEq

/-- **A data source.** -/
structure DataSource where
  name : String
  kind : SourceKind
  isClosed : Bool := false
deriving DecidableEq

namespace DataSource

/-- The address of a database in memory, which can always be opened. -/
def memoryUrl : String := "sqlite::memory:"

/-- **Opens a data source** under a name. -/
def connect (config : DataSourceConfig) (name : String) : Except Error DataSource :=
  if config.url = memoryUrl then .ok { name := name, kind := .sqlite } else .error .sql

/-- What is wrong with a source that is closed. -/
def closedError (s : DataSource) : Error :=
  match s.kind with
  | .prepared _ => .registry (s.name ++ " is closed")
  | .sqlite => .sql

/-- **Asks whether a source can be reached.** -/
def ping (s : DataSource) : Except Error Unit :=
  if s.isClosed then .error s.closedError else .ok ()

/-- **Closes a source**, which it is afterwards whether or not it reports an error. -/
def close (s : DataSource) : Except Error Unit × DataSource :=
  let closed := { s with isClosed := true }
  match s.kind with
  | .prepared true => (.error (.mapping (.reported (s.name ++ " will not close"))), closed)
  | _ => (.ok (), closed)

end DataSource

end SchemaSql
