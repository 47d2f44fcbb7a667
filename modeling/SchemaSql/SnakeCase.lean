import SchemaSql.Text.Cluster

/-!
# Names in snake case

A name is cut into words at delimiters, at changes of case and at changes between letters and digits; the
words are written in lower case with an underscore between them. Delimiters are dropped, and a word
between two of them may be empty, so that underscores at the ends of a name and in a row are kept.
-/

namespace SchemaSql.SnakeCase

/-- An underscore, a hyphen or a space. -/
def isDelimiter (cluster : List Char) : Bool :=
  cluster = ['_'] || cluster = ['-'] || cluster = [' ']

/-- A cluster of digits. -/
def isDigit (cluster : List Char) : Bool :=
  cluster.all Char.isDigit

/-- A cluster that has two cases and stands in the upper one. -/
def isUpper (cluster : List Char) : Bool :=
  Text.upper cluster != Text.lower cluster && cluster == Text.upper cluster

/-- A cluster that has two cases and stands in the lower one. -/
def isLower (cluster : List Char) : Bool :=
  Text.upper cluster != Text.lower cluster && cluster == Text.lower cluster

/-- **A word ends between a cluster and what follows**: where case rises, where letters meet digits, and
before the last capital of a row that a small letter follows. -/
def endsWord (cluster : List Char) (rest : List (List Char)) : Bool :=
  match rest with
  | [] => false
  | next :: after =>
    (isLower cluster && (isUpper next || isDigit next)) ||
    (isUpper cluster && isDigit next) ||
    (isDigit cluster && (isLower next || isUpper next)) ||
    (isUpper cluster && isUpper next && match after with
      | third :: _ => isLower third
      | [] => false)

/-- The words of a name, the first of which begins with `word`. -/
def wordsAfter (word : List Char) : List (List Char) → List (List Char)
  | [] => [word]
  | c :: rest =>
    if isDelimiter c then word :: wordsAfter [] rest
    else if endsWord c rest then (word ++ c) :: wordsAfter [] rest
    else wordsAfter (word ++ c) rest

/-- **The words of a name.** -/
def words (name : String) : List (List Char) :=
  wordsAfter [] (Text.clusters name.toList)

/-- **A name in snake case.** -/
def ofName (name : String) : String :=
  String.ofList (['_'].intercalate ((words name).map Text.lower))

end SchemaSql.SnakeCase
