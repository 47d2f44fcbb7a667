import SchemaSql.Json.Parser

/-!
# Records in JSON

A record with named parts is written as an object with a member for each part, in any order and beside
members of other names, or as an array of the parts in their own order. `parts?` finds the parts in
either form; two members for one part are refused, and members of other names need not be readable.

A choice between kinds, some of which carry a detail, is a record of two parts. A detail that is written
before its kind is set aside until the kind is known: all of it has to be readable then, and inside it
kinds may be written in more ways. A choice between plain names is a string, or an object whose only
member has the name as its key and null as its value.
-/

namespace SchemaSql.Json.Written

/-- The member with a key, if there is at most one: `some none` if there is none. -/
def memberOnce? (ms : List (String × Written)) (key : String) : Option (Option Written) :=
  match ms.filter fun m => m.1 == key with
  | [] => some none
  | [m] => some (some m.2)
  | _ => none

/-- **The named parts of a record**, `none` for a part that is missing. -/
def parts? (names : List String) : Written → Option (List (Option Written))
  | object ms => names.mapM (memberOnce? ms)
  | array xs =>
    if xs.length ≤ names.length then some (xs.map some ++ List.replicate (names.length - xs.length) none) else none
  | _ => none

/-- The text under an optional part. -/
def stringPart? (part : Option Written) : Option String :=
  part.bind string?

/-- The detail of a choice that carries none: missing or null. -/
def noDetail? : Option Written → Option Unit
  | none => some ()
  | some null => some ()
  | some _ => none

/-! ## Choices -/

/-- **The name that a plain choice is written as.** In what is set aside an empty object serves as null. -/
def plainChoice? (aside : Bool) : Written → Option String
  | string s => some s
  | object [(k, null)] => some k
  | object [(k, object [])] => if aside then some k else none
  | _ => none

/-- The name of a kind that stands in an array before its detail. In what is set aside its place among the
names of all kinds serves as well. -/
def placedChoice? (aside : Bool) (names : List String) : Written → Option String
  | string s => some s
  | int n => if aside ∧ 0 ≤ n.val then names[n.val.toNat]? else none
  | _ => none

/-- **A choice that carries a detail**: the name of its kind, the detail, and whether the detail is set
aside. -/
structure Choice where
  kind : String
  detail : Option Written
  aside : Bool

/-- The first of two keys that a member has is the second one. -/
def secondComesFirst (first second : String) : List (String × Written) → Bool
  | [] => false
  | (k, _) :: ms => if k = first then false else if k = second then true else secondComesFirst first second ms

/-- All of a part can be read, if there is one. -/
def readablePart : Option Written → Bool
  | none => true
  | some w => w.value?.isSome

/-- **Finds a choice** between kinds of the given names, under the keys of its kind and of its detail.
`aside` says that the choice itself is part of what is set aside. -/
def choice? (kindKey detailKey : String) (names : List String) (aside : Bool) : Written → Option Choice
  | object ms =>
    match memberOnce? ms kindKey, memberOnce? ms detailKey with
    | some (some kind), some detail =>
      let early := secondComesFirst kindKey detailKey ms
      if early && !readablePart detail then none
      else (plainChoice? aside kind).map fun k => ⟨k, detail, aside || early⟩
    | _, _ => none
  | array [kind, detail] => (placedChoice? aside names kind).map fun k => ⟨k, some detail, aside⟩
  | _ => none

end SchemaSql.Json.Written
