import SchemaSql.Text.CaseMap
import SchemaSql.Text.ClusterTable
import SchemaSql.Text.ExtendTable

/-!
# Clusters of characters

A cluster is a character with the marks that belong to it, the unit in which names are cut into words. The
parts of a syllable block, the consonants of a conjunct, joined pictographs and the two halves of a flag are
one cluster as well. `clusters` cuts text into them; nothing of the text is lost (`flatten_clusters`).
-/

namespace SchemaSql.Text

/-- **The part that a character plays in a cluster.** -/
inductive ClusterPart where
  | carriageReturn
  | lineFeed
  | control
  | extend
  | joiner
  | spacingMark
  | prepended
  | pictograph
  /-- A consonant that begins a syllable block. -/
  | leading
  /-- A vowel in the middle of a syllable block. -/
  | vowel
  /-- A consonant that ends a syllable block. -/
  | trailing
  /-- A syllable block that ends in its vowel. -/
  | openSyllable
  /-- A syllable block that ends in a consonant. -/
  | closedSyllable
  /-- A consonant that forms conjuncts. -/
  | consonant
  | flagHalf
  | other
deriving DecidableEq

/-- A character belongs to the one before it: it has the property `Grapheme_Extend` or modifies the
colour of a pictograph. -/
def isExtend (c : Char) : Bool :=
  inRanges extendRanges c.toNat || (0x1F3FB ≤ c.toNat && c.toNat ≤ 0x1F3FF)

/-- The part of a character in a syllable block, if it has one. The blocks from `U+AC00` on stand in rows of
28, of which the first is open. -/
def syllablePart? (n : Nat) : Option ClusterPart :=
  if (0x1100 ≤ n && n ≤ 0x115F) || (0xA960 ≤ n && n ≤ 0xA97C) then some .leading
  else if inRanges syllableVowelRanges n then some .vowel
  else if (0x11A8 ≤ n && n ≤ 0x11FF) || (0xD7CB ≤ n && n ≤ 0xD7FB) then some .trailing
  else if 0xAC00 ≤ n && n ≤ 0xD7A3 then
    some (if (n - 0xAC00) % 28 = 0 then .openSyllable else .closedSyllable)
  else none

/-- The part of a character. -/
def clusterPart (c : Char) : ClusterPart :=
  let n := c.toNat
  if 0x20 ≤ n && n < 0x7F then .other
  else if n = 0x0D then .carriageReturn
  else if n = 0x0A then .lineFeed
  else if n = 0x200D then .joiner
  else if inRanges controlRanges n then .control
  else if isExtend c then .extend
  else if inRanges spacingMarkRanges n then .spacingMark
  else if inRanges prependRanges n then .prepended
  else if inRanges pictographRanges n then .pictograph
  else if inRanges conjunctConsonantRanges n then .consonant
  else if 0x1F1E6 ≤ n && n ≤ 0x1F1FF then .flagHalf
  else (syllablePart? n).getD .other

/-- A control stands alone. -/
def ClusterPart.standsAlone : ClusterPart → Bool
  | .carriageReturn => true
  | .lineFeed => true
  | .control => true
  | _ => false

/-- The second part goes on with the syllable block that ends in the first one. -/
def ClusterPart.continuesSyllable : ClusterPart → ClusterPart → Bool
  | .leading, r => r = .leading || r = .vowel || r = .openSyllable || r = .closedSyllable
  | .openSyllable, r => r = .vowel || r = .trailing
  | .vowel, r => r = .vowel || r = .trailing
  | .closedSyllable, r => r = .trailing
  | .trailing, r => r = .trailing
  | _, _ => false

/-- The marks at the end of a cluster, given from its end, belong to a pictograph. -/
def endsPictograph (before : List Char) : Bool :=
  match before.dropWhile isExtend with
  | c :: _ => clusterPart c = .pictograph
  | [] => false

/-- A mark that links consonants. -/
def isLinker (c : Char) : Bool :=
  inRanges linkerRanges c.toNat

/-- A mark that may stand between the consonants of a conjunct: any but the one that keeps letters apart. -/
def isConjunctMark (c : Char) : Bool :=
  c.toNat = 0x200D || (isExtend c && c.toNat ≠ 0x200C)

/-- A cluster, given from its end, ends in a consonant with marks of which one is a linker. -/
def endsLinked (cluster : List Char) : Bool :=
  (cluster.takeWhile isConjunctMark).any isLinker &&
    match cluster.dropWhile isConjunctMark with
    | c :: _ => clusterPart c = .consonant
    | [] => false

/-- A cluster, given from its end, ends in half a flag. -/
def endsHalfFlag (cluster : List Char) : Bool :=
  (cluster.takeWhile fun c => clusterPart c = .flagHalf).length % 2 = 1

/-- **A character goes on with the cluster before it**, which is given from its end. -/
def attaches (cluster : List Char) (c : Char) : Bool :=
  match cluster with
  | [] => true
  | last :: before =>
    match clusterPart last, clusterPart c with
    | .carriageReturn, .lineFeed => true
    | l, r =>
      if l.standsAlone || r.standsAlone then false
      else r = .extend || r = .joiner || r = .spacingMark || l = .prepended || l.continuesSyllable r ||
        (r = .consonant && endsLinked cluster) ||
        (l = .joiner && r = .pictograph && endsPictograph before) ||
        (r = .flagHalf && endsHalfFlag cluster)

/-- The clusters of a text behind the beginning of one, which is given from its end. -/
def clustersAfter (cluster : List Char) : List Char → List (List Char)
  | [] => if cluster.isEmpty then [] else [cluster.reverse]
  | c :: rest =>
    if attaches cluster c then clustersAfter (c :: cluster) rest
    else cluster.reverse :: clustersAfter [c] rest

/-- **The clusters of a text.** -/
def clusters (cs : List Char) : List (List Char) :=
  clustersAfter [] cs

theorem flatten_clustersAfter (cs : List Char) :
    ∀ cluster, (clustersAfter cluster cs).flatten = cluster.reverse ++ cs := by
  induction cs with
  | nil => intro cluster; cases cluster <;> simp [clustersAfter]
  | cons c rest ih =>
    intro cluster
    simp only [clustersAfter]
    split <;> simp [ih]

/-- **The clusters make up the text.** -/
theorem flatten_clusters (cs : List Char) : (clusters cs).flatten = cs := by
  rw [clusters, flatten_clustersAfter, List.reverse_nil, List.nil_append]

end SchemaSql.Text
