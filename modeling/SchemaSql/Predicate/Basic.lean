import SchemaSql.Schema.Basic
import SchemaSql.Statement.Fragment

/-!
# Predicates

Conditions on rows, built from comparisons of columns. A group without members, and the negation of a
predicate without text, have no text; groups leave out such members. Every group and every negation of
something that is no group stands in parentheses, so that the text has the structure of the predicate.
-/

namespace SchemaSql

/-- **A comparison of a column with a value.** -/
inductive Comparison where
  | eq
  | ne
  | gt
  | gte
  | lt
  | lte
  | like
deriving DecidableEq

def Comparison.sql : Comparison → String
  | eq => "="
  | ne => "!="
  | gt => ">"
  | gte => ">="
  | lt => "<"
  | lte => "<="
  | like => "LIKE"

/-- **What joins the members of a group.** -/
inductive Connective where
  | and
  | or
deriving DecidableEq

def Connective.sql : Connective → String
  | and => " AND "
  | or => " OR "

/-- **An occurrence of a table in a statement**, under an alias or not. -/
structure TableRef where
  table : String
  aliasName : Option String
deriving DecidableEq

namespace TableRef

/-- The occurrence as it stands after `FROM` or `JOIN`. -/
def text (t : TableRef) : String :=
  match t.aliasName with
  | some a => t.table ++ " AS " ++ a
  | none => t.table

/-- The name that stands before columns of the occurrence. -/
def qualifier (t : TableRef) : String :=
  t.aliasName.getD t.table

end TableRef

/-- **A condition on rows.** `existsIn` holds if the table has a row for which all given predicates
hold. -/
inductive Predicate where
  | compare (column : ColumnRef) (op : Comparison) (value : Json)
  | oneOf (column : ColumnRef) (values : List Json)
  | nullCheck (column : ColumnRef) (isNull : Bool)
  | sameColumns (left right : ColumnRef)
  | group (connective : Connective) (members : List Predicate)
  | not (inner : Predicate)
  | existsIn (source : TableRef) (on : List Predicate)

namespace Predicate

mutual
/-- **A predicate without text.** -/
def isEmpty : Predicate → Bool
  | group _ members => allEmpty members
  | not inner => inner.isEmpty
  | _ => false
/-- Predicates that are all without text. -/
def allEmpty : List Predicate → Bool
  | [] => true
  | p :: ps => p.isEmpty && allEmpty ps
end

def isGroup : Predicate → Bool
  | group _ _ => true
  | _ => false

/-- A group of the predicates that are there and have a text. -/
def ofMembers (c : Connective) (members : List (Option Predicate)) : Predicate :=
  group c ((members.filterMap id).filter fun p => !p.isEmpty)

/-- All of the predicates that are there and have a text. -/
def all (members : List (Option Predicate)) : Predicate :=
  ofMembers .and members

/-- Any of the predicates that are there and have a text. -/
def any (members : List (Option Predicate)) : Predicate :=
  ofMembers .or members

/-! ## Text -/

/-- Members of a group in parentheses, without those that have no text. -/
def grouped (c : Connective) (members : List Fragment) : Fragment :=
  match members.filter fun f => !f.isEmpty with
  | [] => []
  | fs => .text "(" :: Fragment.joined c.sql fs ++ [.text ")"]

/-- The negation of a fragment, in parentheses unless it has them. -/
def negated (hasParentheses : Bool) (f : Fragment) : Fragment :=
  if f.isEmpty then []
  else if hasParentheses then .text "NOT " :: f
  else .text "NOT (" :: f ++ [.text ")"]

mutual
/-- **The text and the values of a predicate.** -/
def render : Predicate → Fragment
  | compare c op v => [.text (c.text ++ " " ++ op.sql ++ " "), .value v]
  | oneOf _ [] => [.text "1=0"]
  | oneOf c (v :: vs) => .text (c.text ++ " IN (") :: Fragment.values (v :: vs) ++ [.text ")"]
  | nullCheck c isNull => [.text (c.text ++ (if isNull then " IS NULL" else " IS NOT NULL"))]
  | sameColumns l r => [.text (l.text ++ " = " ++ r.text)]
  | group c members => grouped c (renderAll members)
  | not inner => negated inner.isGroup inner.render
  | existsIn source on =>
    .text ("EXISTS (SELECT 1 FROM " ++ source.text ++ " WHERE ") :: grouped .and (renderAll on) ++ [.text ")"]
/-- The texts and values of predicates. -/
def renderAll : List Predicate → List Fragment
  | [] => []
  | p :: ps => p.render :: renderAll ps
end

/-- The clause of an optional predicate, empty if it has no text. -/
def whereClause (filter : Option Predicate) : Fragment :=
  match filter with
  | none => []
  | some p => if p.render.isEmpty then [] else .text " WHERE " :: p.render

end Predicate

namespace FieldRef

/-- The field compared with a value. -/
def compare (f : FieldRef) (op : Comparison) (v : Json) : Predicate :=
  .compare f.ref op v

/-- The field has one of several values. -/
def oneOf (f : FieldRef) (vs : List Json) : Predicate :=
  .oneOf f.ref vs

/-- The field is null. -/
def isNull (f : FieldRef) : Predicate :=
  .nullCheck f.ref true

/-- The field is not null. -/
def isNotNull (f : FieldRef) : Predicate :=
  .nullCheck f.ref false

end FieldRef

end SchemaSql
