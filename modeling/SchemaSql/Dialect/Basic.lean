/-!
# Dialects

The databases for which statements that create tables are written.
-/

namespace SchemaSql

/-- **A database dialect.** -/
inductive Dialect where
  | postgres
  | mysql
  | sqlite
deriving DecidableEq

namespace Dialect

/-- All dialects in the order in which scripts for them are written. -/
def all : List Dialect := [postgres, mysql, sqlite]

def name : Dialect → String
  | postgres => "postgres"
  | mysql => "mysql"
  | sqlite => "sqlite"

/-- The dialect with a name. -/
def ofName? (s : String) : Option Dialect :=
  all.find? fun d => d.name == s

/-- The character around a quoted identifier. -/
def quoteChar : Dialect → Char
  | mysql => '\x60'
  | postgres => '"'
  | sqlite => '"'

end Dialect

end SchemaSql
