import TreeLint.Sandbox.Archive

/-
  Renamed files.

  Key definitions include:
    * `Renames.chunks`
    * `Renames.similarity`
    * `Renames.pairs`

  A file that is gone counts as renamed when a new file has
  its content, or most of it.  Equal contents are paired
  first, then files of one name whose contents are close, and
  then whatever is similar enough, the most similar first.
-/

------------------------------------------------------------
-- How Similar Two Contents Are
------------------------------------------------------------

namespace TreeLint

namespace Sandbox

namespace Renames

/- The similarity of equal contents. -/
def fullScore : Nat := 60000

/- The least similarity of a renamed file. -/
def leastScore : Nat := 30000

/- The least similarity of a file that has kept its name. -/
def leastSameNameScore : Nat := 45000

/- How many bytes of a line are compared at once. -/
def chunkSize : Nat := 64

/- Whether a content is text, as far as its start tells. -/
def isText (content : List UInt8) : Bool :=
  !(content.take 8000).contains 0

/- A content without the carriage returns at ends of lines. -/
def withoutReturns : List UInt8 → List UInt8
  | 13 :: 10 :: rest => 10 :: withoutReturns rest
  | b :: rest => b :: withoutReturns rest
  | [] => []

/-
  Cut a content at its line feeds, and long lines too.  What
  stands behind the last cut is left out.
-/
def cut : Nat → List UInt8 → List UInt8 → List (List UInt8)
  | _, _, [] => []
  | room, chunk, b :: rest =>
    if room ≤ 1 || b == 10 then
      (b :: chunk).reverse :: cut chunkSize [] rest
    else
      cut (room - 1) (b :: chunk) rest

/- The pieces of a content that are compared. -/
def chunks (content : List UInt8) : List (List UInt8) :=
  cut chunkSize []
    (if isText content then withoutReturns content else content)

/- How many bytes a piece has in a list of pieces, taken together. -/
def weight (pieces : List (List UInt8)) (piece : List UInt8) : Nat :=
  pieces.count piece * piece.length

/- How many bytes of one content turn up in another one. -/
def copied (source dest : List UInt8) : Nat :=
  let old := chunks source
  let new := chunks dest
  old.eraseDups.foldl
    (fun total piece => total + min (weight old piece) (weight new piece))
    0

/-
  How similar two contents are.  Contents whose sizes are so
  far apart that they cannot be similar enough are not compared
  at all.
-/
def contentSimilarity (least : Nat) (source dest : List UInt8) : Nat :=
  let large := max source.length dest.length
  let small := min source.length dest.length
  if large * (fullScore - least) < (large - small) * fullScore
      || large == 0 then
    0
  else
    copied source dest * fullScore / large

/- How similar two files are; only regular files are compared. -/
def similarity (least : Nat) : Tracked → Tracked → Nat
  | .file source _, .file dest _ => contentSimilarity least source dest
  | _, _ => 0

/- Whether two files are the same but for being executable. -/
def isSame : Tracked → Tracked → Bool
  | .file source _, .file dest _ => source == dest
  | source, dest => source == dest

------------------------------------------------------------
-- Pairs
------------------------------------------------------------

/- The last name of a path. -/
def lastName (p : Path) : String :=
  (p.segments.getLast?).getD p

/- How files are followed to their new names. -/
structure Following where
  /- A file that still exists may have been copied. -/
  copies : Bool
  /- How many files are compared with each other; zero for all. -/
  limit : Nat
  /- The least similarity of a renamed file. -/
  least : Nat := leastScore
  /- Files that have not changed may have been copied, too. -/
  isThorough : Bool := false

/- An old file, and a new file that may be it. -/
structure Pair where
  source : Path
  dest : Path
  score : Nat
deriving Repr

/- The pairs found so far. -/
structure Matching where
  following : Following
  found : List Pair
  /- Sources that have been followed already, or still exist. -/
  used : List Path
  sources : Snapshot
  /- New files without a source. -/
  new : Snapshot

namespace Matching

/- Take two files for one. -/
def pair (m : Matching) (p : Pair) : Matching :=
  { m with
    found := p :: m.found
    used := p.source :: m.used
    new := m.new.filter (fun entry => entry.1 != p.dest) }

/- Whether a source has not been followed yet. -/
def isFree (m : Matching) (source : Path) : Bool :=
  !m.used.contains source

/- Pair a new file with a file of the same content. -/
def pairSame (m : Matching) (dest : Path × Tracked) : Matching :=
  let same := m.sources.filter (fun source => isSame source.2 dest.2)
  let isNamed (source : Path × Tracked) : Bool :=
    lastName source.1 == lastName dest.1
  let free := same.filter (fun source => m.isFree source.1)
  let ranked := free.filter isNamed
    ++ if m.following.copies then
        same.filter (fun s => m.isFree s.1 || isNamed s) ++ same
      else free
  match ranked.head? with
  | some source => m.pair ⟨source.1, dest.1, fullScore⟩
  | none => m

/- The sources that have not been followed yet. -/
def freeSources (m : Matching) : Snapshot :=
  m.sources.filter (fun source => m.isFree source.1)

/- The only file of a snapshot with a last name. -/
def onlyNamed? (snapshot : Snapshot) (name : String) :
    Option (Path × Tracked) :=
  match snapshot.filter (fun entry => lastName entry.1 == name) with
  | [entry] => some entry
  | _ => none

/- Pair a file with the one new file that has kept its name. -/
def pairNamed (new gone : Snapshot) (m : Matching)
    (source : Path × Tracked) : Matching :=
  let name := lastName source.1
  match onlyNamed? gone name, onlyNamed? new name with
  | some _, some dest =>
    let least := max m.following.least leastSameNameScore
    let score := similarity least source.2 dest.2
    if least ≤ score then m.pair ⟨source.1, dest.1, score⟩ else m
  | _, _ => m

/- Pair two files unless the new one has a source. -/
def pairOpen (m : Matching) (pair : Pair) : Matching :=
  if m.new.any (fun entry => entry.1 == pair.dest) then
    m.pair pair
  else
    m

/- Pair two files unless one of them has a partner. -/
def pairFree (m : Matching) (pair : Pair) : Matching :=
  if m.isFree pair.source then m.pairOpen pair else m

/- Whether a pair is better than another one. -/
def better (a b : Pair) : Bool :=
  let isNamed (pair : Pair) : Bool :=
    lastName pair.source == lastName pair.dest
  b.score < a.score
    || (a.score == b.score && (isNamed a || !isNamed b))

/- How many sources are kept in mind for a new file. -/
def candidateLimit : Nat := 4

/- The similar pairs of files without a partner, best first. -/
def candidates (m : Matching) : List Pair :=
  let sources := if m.following.copies then m.sources else m.freeSources
  let pairs := m.new.flatMap fun dest =>
    let scored := sources.map fun source =>
      (⟨source.1, dest.1, similarity m.following.least source.2 dest.2⟩ :
        Pair)
    ((scored.filter (fun pair => m.following.least ≤ pair.score)).mergeSort
      better).take candidateLimit
  pairs.mergeSort better

/- Whether there are too many files to compare them all. -/
def isTooLarge (m : Matching) : Bool :=
  let sources := if m.following.copies then m.sources else m.freeSources
  let limit := m.following.limit
  limit != 0 && limit * limit < m.new.length * sources.length

/- Pair files that are similar. -/
def pairSimilar (m : Matching) : Matching :=
  if m.isTooLarge then m
  else
    let candidates := m.candidates
    let renamed := candidates.foldl pairFree m
    if m.following.copies then candidates.foldl pairOpen renamed
    else renamed

end Matching

/-
  The files that are followed, each with its new name.  Files
  that still exist can only be copied.
-/
def pairs (following : Following) (gone changed new : Snapshot) :
    List Pair :=
  let changed := if following.copies then changed else []
  let start : Matching :=
    ⟨following, [], changed.map Prod.fst, gone ++ changed, new⟩
  let same := new.foldl Matching.pairSame start
  let named :=
    if following.copies then same
    else
      same.freeSources.foldl
        (Matching.pairNamed same.new same.freeSources) same
  named.pairSimilar.found

end Renames

end Sandbox

end TreeLint
