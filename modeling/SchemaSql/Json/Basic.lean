import SchemaSql.Binary64.Basic
import SchemaSql.Keyed

/-!
# JSON values

A number is an exact integer of at most 64 bits, signed or not, or a finite binary64 number. The members
of an object are a list of entries. In a normal value those of every object stand in key order, one for
each key; `Json.Normal` states it, and what is read from a text is normal.
-/

namespace SchemaSql

/-- **An integer that a JSON number denotes exactly**: one that fits 64 bits, signed or unsigned. -/
structure Json.Integer where
  val : Int
  lower : -9223372036854775808 ≤ val := by decide
  upper : val < 18446744073709551616 := by decide
deriving DecidableEq

/-- **A JSON value.** -/
inductive Json where
  | null
  | bool (b : Bool)
  | int (n : Json.Integer)
  | float (x : Binary64.Finite)
  | string (s : String)
  | array (items : List Json)
  | object (members : List (String × Json))

namespace Json

/-- The integer with a value, if it fits. -/
def Integer.ofInt? (n : Int) : Option Integer :=
  if h : -9223372036854775808 ≤ n ∧ n < 18446744073709551616 then some ⟨n, h.1, h.2⟩ else none

/-- The natural number of an index or a count as a JSON integer; numbers beyond the range are capped. -/
def Integer.ofNat (n : Nat) : Integer :=
  if h : n < 18446744073709551616 then ⟨n, by omega, by omega⟩ else { val := 18446744073709551615 }

/-- A natural number as a JSON value. -/
def nat (n : Nat) : Json :=
  .int (.ofNat n)

def isNull : Json → Bool
  | null => true
  | _ => false

/-- The members of an object. -/
def members? : Json → Option (List (String × Json))
  | object ms => some ms
  | _ => none

/-- The items of an array. -/
def items? : Json → Option (List Json)
  | array xs => some xs
  | _ => none

/-- The text of a string. -/
def string? : Json → Option String
  | string s => some s
  | _ => none

/-- The truth value of a boolean. -/
def bool? : Json → Option Bool
  | bool b => some b
  | _ => none

/-- The value of an integer. -/
def int? : Json → Option Int
  | int n => some n.val
  | _ => none

/-- The value at a key of an object. -/
def get? (j : Json) (key : String) : Option Json :=
  j.members?.bind fun ms => Keyed.get? ms key

/-- A binary64 number as a value: what is not finite has no JSON form and becomes null. -/
def ofBinary64 : Binary64 → Json
  | .finite x => float x
  | .infinite _ => null
  | .nan => null

/-! ## Normal values -/

mutual
/-- **The members of every object stand in key order**, one for each key. -/
def Normal : Json → Prop
  | array xs => NormalItems xs
  | object ms => Keyed.Sorted ms ∧ NormalMembers ms
  | _ => True
/-- Every item is normal. -/
def NormalItems : List Json → Prop
  | [] => True
  | x :: xs => x.Normal ∧ NormalItems xs
/-- The value of every member is normal. -/
def NormalMembers : List (String × Json) → Prop
  | [] => True
  | (_, v) :: ms => v.Normal ∧ NormalMembers ms
end

theorem normalMembers_iff {ms : List (String × Json)} : NormalMembers ms ↔ ∀ m ∈ ms, m.2.Normal := by
  induction ms with
  | nil => exact ⟨fun _ _ h => absurd h List.not_mem_nil, fun _ => trivial⟩
  | cons m ms ih =>
    obtain ⟨k, v⟩ := m
    rw [NormalMembers, ih, List.forall_mem_cons]

end Json

end SchemaSql
