import Floorplan.Text.Cluster.Table

set_option autoImplicit false

/-! # Clusters

What a reader takes for one character may be several: a letter with its marks, a syllable of Hangul, a
flag, a family of emoji. These are the extended grapheme clusters of Unicode. Whether a character
continues a cluster depends on the characters that the cluster has so far and on nothing before them.

Main statement: nothing is lost (`flatten_clusters`). -/

namespace Floorplan.Text

/-- What decides whether neighbours belong together. -/
inductive ClusterClass where
  | carriageReturn
  | lineFeed
  | control
  | extend
  | joiner
  | spacingMark
  | prepend
  | hangulLeading
  | hangulVowel
  | hangulTrailing
  | hangulOpen
  | hangulClosed
  | indicator
  | pictograph
  | other
  deriving DecidableEq, Repr

/-- Is the number in the range? -/
def within (low high n : Nat) : Bool := low ≤ n && n ≤ high

/-- The class of Hangul characters. A syllable is open if it has no trailing consonant; there are 28
syllables for each beginning, and the open one is the first of them. The vowel signs of Kirat Rai are
composed like the vowels of Hangul. -/
def hangulClass? (n : Nat) : Option ClusterClass :=
  if within 0x1100 0x115F n || within 0xA960 0xA97C n then some .hangulLeading
  else if within 0x1160 0x11A7 n || within 0xD7B0 0xD7C6 n then some .hangulVowel
  else if n = 0x16D63 || within 0x16D67 0x16D6A n then some .hangulVowel
  else if within 0x11A8 0x11FF n || within 0xD7CB 0xD7FB n then some .hangulTrailing
  else if within 0xAC00 0xD7A3 n then
    some (if (n - 0xAC00) % 28 = 0 then .hangulOpen else .hangulClosed)
  else none

/-- The class of a character. -/
def clusterClass (c : Char) : ClusterClass :=
  let n := c.toNat
  if c = '\r' then .carriageReturn
  else if c = '\n' then .lineFeed
  else if c = '\u200D' then .joiner
  else if controlTable.contains n then .control
  else if extendTable.contains n then .extend
  else if spacingMarkTable.contains n then .spacingMark
  else if prependTable.contains n then .prepend
  else if within 0x1F1E6 0x1F1FF n then .indicator
  else if pictographTable.contains n then .pictograph
  else (hangulClass? n).getD .other

/-- Does a pictograph with marks end here? The characters come last one first. -/
def endsInPictograph (before : List Char) : Bool :=
  (before.dropWhile fun c => clusterClass c = .extend).head?.any fun c =>
    clusterClass c = .pictograph

/-- Does an odd number of regional indicators end here? Two of them make a flag. -/
def endsInOpenFlag (before : List Char) : Bool :=
  (before.takeWhile fun c => clusterClass c = .indicator).length % 2 = 1

/-- A mark that can stand between consonants of a conjunct; the zero width non-joiner is none. -/
def isConjunctMark (c : Char) : Bool :=
  c ≠ '\u200C' && (clusterClass c = .extend || clusterClass c = .joiner)

/-- Does a consonant with a linker among its marks end here? -/
def endsInLinkedConsonant (before : List Char) : Bool :=
  (before.takeWhile isConjunctMark).any (fun c => conjunctLinkerTable.contains c.toNat) &&
    (before.dropWhile isConjunctMark).head?.any fun c => conjunctConsonantTable.contains c.toNat

/-- Does a character continue the cluster of which `before` are the characters so far, the last one
first? -/
def joinsCluster (before : List Char) (next : Char) : Bool :=
  match before with
  | [] => false
  | last :: earlier =>
    match clusterClass last, clusterClass next with
    | .carriageReturn, .lineFeed => true
    | .carriageReturn, _ | .lineFeed, _ | .control, _ => false
    | _, .carriageReturn | _, .lineFeed | _, .control => false
    | _, .extend | _, .joiner | _, .spacingMark => true
    | .prepend, _ => true
    | .hangulLeading, .hangulLeading | .hangulLeading, .hangulVowel => true
    | .hangulLeading, .hangulOpen | .hangulLeading, .hangulClosed => true
    | .hangulOpen, .hangulVowel | .hangulOpen, .hangulTrailing => true
    | .hangulVowel, .hangulVowel | .hangulVowel, .hangulTrailing => true
    | .hangulClosed, .hangulTrailing | .hangulTrailing, .hangulTrailing => true
    | .joiner, .pictograph => endsInPictograph earlier
    | .indicator, .indicator => endsInOpenFlag before
    | _, _ => conjunctConsonantTable.contains next.toNat && endsInLinkedConsonant before

/-- The clusters of a text, the first of which has begun with `before`, the last character first. -/
def clustersFrom (before : List Char) : List Char → List (List Char)
  | [] => [before.reverse]
  | c :: rest =>
    if joinsCluster before c then clustersFrom (c :: before) rest
    else before.reverse :: clustersFrom [c] rest

/-- The clusters of a text. -/
def clusters : List Char → List (List Char)
  | [] => []
  | c :: rest => clustersFrom [c] rest

theorem flatten_clustersFrom (before s : List Char) :
    (clustersFrom before s).flatten = before.reverse ++ s := by
  induction s generalizing before with
  | nil => simp [clustersFrom]
  | cons c rest ih =>
    unfold clustersFrom
    split
    · simp [ih]
    · simp [ih]

/-- The clusters are the text, cut up. -/
theorem flatten_clusters (s : List Char) : (clusters s).flatten = s := by
  cases s with
  | nil => rfl
  | cons c rest => simp [clusters, flatten_clustersFrom]

end Floorplan.Text
