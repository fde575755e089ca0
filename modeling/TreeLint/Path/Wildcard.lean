import TreeLint.Text.RawByte

/-
  Patterns of paths.

  Key definitions include:
    * `Wildcard.Token`
    * `Wildcard.parse?`
    * `Wildcard.accepts`
    * `Wildcard.fits`

  A pattern is read byte by byte.  A question mark stands for
  one byte, brackets for one byte of a set and a star for any
  bytes, but none of them for a slash.  Two stars between
  slashes stand for any number of directories.  Where a path
  is not seen as names between slashes, a slash is a byte like
  any other.
-/

------------------------------------------------------------
-- Tokens
------------------------------------------------------------

namespace TreeLint

/- How a pattern is compared with a text. -/
structure Wildcard where
  /- A slash is matched by nothing but a slash. -/
  keepsNames : Bool
  /- Large and small letters are the same. -/
  foldsCase : Bool
deriving DecidableEq, Repr

namespace Wildcard

/- A member of a set in brackets. -/
inductive Member where
  | one (b : UInt8)
  | range (low high : UInt8)
  /- A class of characters with a name. -/
  | named (name : String)
deriving DecidableEq, Repr

/- A part of a pattern. -/
inductive Token where
  | byte (b : UInt8)
  /- Any single byte. -/
  | one
  /- A byte in a set, or one that is not in it. -/
  | set (negated : Bool) (members : List Member)
  /- Any bytes but slashes. -/
  | run
  /- Any bytes. -/
  | all
  /- Nothing, or any bytes with a slash at the end. -/
  | directories
deriving DecidableEq, Repr

/- The codes of the characters with a meaning. -/
def star : UInt8 := 0x2A
def slash : UInt8 := 0x2F
def mark : UInt8 := 0x3F
def opening : UInt8 := 0x5B
def escape : UInt8 := 0x5C
def closing : UInt8 := 0x5D
def hyphen : UInt8 := 0x2D
def colon : UInt8 := 0x3A

------------------------------------------------------------
-- Sets
------------------------------------------------------------

/- The names of the classes of characters. -/
def classNames : List String :=
  [ "alnum", "alpha", "blank", "cntrl", "digit", "graph", "lower",
    "print", "punct", "space", "upper", "xdigit" ]

/- Whether a byte is in a class of characters. -/
def inClass (name : String) (b : UInt8) : Bool :=
  let isDigit := 0x30 ≤ b && b ≤ 0x39
  let isUpper := 0x41 ≤ b && b ≤ 0x5A
  let isLower := 0x61 ≤ b && b ≤ 0x7A
  let isGraph := 0x21 ≤ b && b ≤ 0x7E
  let isAlnum := isDigit || isUpper || isLower
  match name with
  | "alnum" => isAlnum
  | "alpha" => isUpper || isLower
  | "blank" => b == 0x20 || b == 0x09
  | "cntrl" => b < 0x20 || b == 0x7F
  | "digit" => isDigit
  | "graph" => isGraph
  | "lower" => isLower
  | "print" => isGraph || b == 0x20
  | "punct" => isGraph && !isAlnum
  | "space" => b == 0x20 || (0x09 ≤ b && b ≤ 0x0D)
  | "upper" => isUpper
  | "xdigit" =>
    isDigit || (0x41 ≤ b && b ≤ 0x46) || (0x61 ≤ b && b ≤ 0x66)
  | _ => false

/- The name of a class behind its opening, and what follows it. -/
def className? (rest : List UInt8) : Option (String × List UInt8) :=
  let inner := rest.takeWhile (· != closing)
  match inner.reverse, rest.drop inner.length with
  | b :: name, _ :: behind =>
    if b == colon then
      some (RawByte.decode name.reverse, behind)
    else
      none
  | _, _ => none

/-
  The members of a set up to the closing bracket, and what
  follows it.  A bracket that stands first closes nothing.
  `before` is the byte that a range may start with.
-/
def members? :
    Nat → Bool → Option UInt8 → List UInt8 →
      Option (List Member × List UInt8)
  | 0, _, _, _ => none
  | _ + 1, _, _, [] => none
  | fuel + 1, first, before, b :: rest =>
    let ahead (front : List Member) (before : Option UInt8)
        (rest : List UInt8) : Option (List Member × List UInt8) :=
      (members? fuel false before rest).map
        fun (found, behind) => (front ++ found, behind)
    if b == closing && !first then
      some ([], rest)
    else if b == escape then
      match rest with
      | c :: rest => ahead [.one c] (some c) rest
      | [] => none
    else
      match before, b == hyphen, rest with
      | some low, true, c :: rest' =>
        if c == closing then
          ahead [.one b] (some b) rest
        else if c == escape then
          match rest' with
          | d :: rest'' => ahead [.range low d] none rest''
          | [] => none
        else
          ahead [.range low c] none rest'
      | _, _, _ =>
        match b == opening, rest with
        | true, c :: rest' =>
          if c == colon then
            if rest'.contains closing then
              match className? rest' with
              | some (name, behind) =>
                if classNames.contains name then
                  ahead [.named name] none behind
                else
                  none
              | none => ahead [.one b] (some b) rest
            else
              none
          else
            ahead [.one b] (some b) rest
        | _, _ => ahead [.one b] (some b) rest

/- The set behind an opening bracket, and what follows it. -/
def set? (rest : List UInt8) : Option (Token × List UInt8) :=
  let (negated, body) :=
    match rest with
    | 0x21 :: body => (true, body)
    | 0x5E :: body => (true, body)
    | body => (false, body)
  (members? (body.length + 1) true none body).map
    fun (members, behind) => (.set negated members, behind)

------------------------------------------------------------
-- Reading Patterns
------------------------------------------------------------

/- The small letter of a byte. -/
def lower (b : UInt8) : UInt8 :=
  if 0x41 ≤ b && b ≤ 0x5A then b + 0x20 else b

/- The large letter of a byte. -/
def upper (b : UInt8) : UInt8 :=
  if 0x61 ≤ b && b ≤ 0x7A then b - 0x20 else b

/- A byte as it is compared. -/
def folded (w : Wildcard) (b : UInt8) : UInt8 :=
  if w.foldsCase then lower b else b

/-
  The tokens of a pattern.  `atName` says that a name starts
  here.  A pattern with a set that does not end, or a lone
  escape at its end, stands for nothing.  An escaped letter
  is not folded.
-/
def tokens? (w : Wildcard) :
    Nat → Bool → List UInt8 → Option (List Token)
  | 0, _, _ => none
  | _ + 1, _, [] => some []
  | fuel + 1, atName, b :: rest =>
    let ahead (token : Token) (atName : Bool) (rest : List UInt8) :
        Option (List Token) :=
      (tokens? w fuel atName rest).map (token :: ·)
    if b == escape then
      match rest with
      | c :: rest => ahead (.byte c) (c == slash) rest
      | [] => none
    else if b == mark then
      ahead .one false rest
    else if b == opening then
      match set? rest with
      | some (token, rest) => ahead token false rest
      | none => none
    else if b == star then
      let behind := rest.dropWhile (· == star)
      if !w.keepsNames then
        ahead .all false behind
      else if rest.length == behind.length || !atName then
        ahead .run false behind
      else
        match behind with
        | [] => some [.all]
        | c :: more =>
          if c == slash then ahead .directories true more
          else if c == escape && more.head? == some slash then
            ahead .all false behind
          else ahead .run false behind
    else
      ahead (.byte (w.folded b)) (b == slash) rest

/- The tokens of a whole pattern. -/
def parse? (w : Wildcard) (pattern : List UInt8) : Option (List Token) :=
  tokens? w (pattern.length + 1) true pattern

------------------------------------------------------------
-- Matching
------------------------------------------------------------

/-
  Whether a byte is a member of a set.  Only ranges and the
  class of large letters hold a letter that is folded for the
  sake of its large form.
-/
def Member.holds (w : Wildcard) (b : UInt8) : Member → Bool
  | one c => w.folded b == c
  | range low high =>
    (low ≤ w.folded b && w.folded b ≤ high)
      || (w.foldsCase && low ≤ upper b && upper b ≤ high)
  | named name =>
    inClass name (w.folded b)
      || (w.foldsCase && name == "upper" && inClass "lower" (lower b))

/- The ends of a text behind any bytes but slashes. -/
def endsOfRun : List UInt8 → List (List UInt8)
  | [] => [[]]
  | b :: rest => (b :: rest) :: if b == slash then [] else endsOfRun rest

/- All ends of a text. -/
def ends : List UInt8 → List (List UInt8)
  | [] => [[]]
  | b :: rest => (b :: rest) :: ends rest

/- The text itself, and its ends behind slashes. -/
def endsOfDirectories : List UInt8 → List (List UInt8)
  | [] => []
  | b :: rest =>
    if b == slash then rest :: endsOfDirectories rest
    else endsOfDirectories rest

/- Whether tokens stand for a whole text. -/
def accepts (w : Wildcard) : List Token → List UInt8 → Bool
  | [], text => text.isEmpty
  | .byte b :: rest, text =>
    match text with
    | c :: text => w.folded c == b && accepts w rest text
    | [] => false
  | .one :: rest, text =>
    match text with
    | c :: text => !(w.keepsNames && c == slash) && accepts w rest text
    | [] => false
  | .set negated members :: rest, text =>
    match text with
    | c :: text =>
      !(w.keepsNames && c == slash)
        && (members.any (Member.holds w c) != negated)
        && accepts w rest text
    | [] => false
  | .run :: rest, text => (endsOfRun text).any (accepts w rest)
  | .all :: rest, text => (ends text).any (accepts w rest)
  | .directories :: rest, text =>
    (text :: endsOfDirectories text).any (accepts w rest)

/- Whether bytes of a pattern stand for bytes of a text. -/
def fitsBytes (w : Wildcard) (pattern text : List UInt8) : Bool :=
  match parse? w pattern with
  | some tokens => accepts w tokens text
  | none => false

/- Whether a pattern stands for a text. -/
def fits (w : Wildcard) (pattern text : String) : Bool :=
  fitsBytes w (RawByte.encode pattern) (RawByte.encode text)

/- Whether a byte has a meaning in patterns. -/
def isSpecial (b : UInt8) : Bool :=
  b == star || b == mark || b == opening || b == escape

/- Whether two texts are the same, byte by byte. -/
def sameBytes (w : Wildcard) (a b : List UInt8) : Bool :=
  a.map w.folded == b.map w.folded

/-
  Whether a pattern stands for a text, its beginning without
  special characters compared first.  What follows is then
  read as a pattern of its own.
-/
def fitsBehindStart (w : Wildcard) (pattern text : String) : Bool :=
  let pattern := RawByte.encode pattern
  let text := RawByte.encode text
  let front := pattern.takeWhile (fun b => !isSpecial b)
  sameBytes w front (text.take front.length)
    && fitsBytes w (pattern.drop front.length) (text.drop front.length)

end Wildcard

end TreeLint
