import TreeLint.Sandbox.Tools.Inputs
import TreeLint.Text.Numeral
import TreeLint.Text.Regex.Basic

/-
  The program that exchanges characters.

  Key definitions include:
    * `Tools.SetPart`
    * `Tools.readSet`
    * `Tools.Translation`
    * `Tools.tr`

  A set is a list of characters, which may hold ranges, classes
  and repetitions.  Characters of one set become those of
  another, or are deleted, and repeated ones may be squeezed.
-/

------------------------------------------------------------
-- Sets
------------------------------------------------------------

namespace TreeLint

namespace Sandbox

namespace Tools

/- A part of a set. -/
inductive SetPart where
  | char (c : Char)
  | range (low high : Char)
  | named (name : String)
  | same (c : Char)
  /- A character so often; zero means as often as it takes. -/
  | repeated (c : Char) (count : Nat)
deriving DecidableEq, Repr

/- A character of a set as it was written. -/
structure Written where
  char : Char
  isEscaped : Bool
deriving DecidableEq, Repr

/- The characters of a set, backslashes worked out. -/
def writtenChars : Nat → Chars → List Written
  | 0, _ => []
  | _, [] => []
  | _, ['\\'] => [⟨'\\', false⟩]
  | fuel + 1, '\\' :: c :: rest =>
    let octal := ((c :: rest).take 3).takeWhile
      (fun d => (Numeral.digit? 8 d).isSome)
    if octal.isEmpty then
      let char := match c with
        | 'a' => '\x07'
        | 'b' => '\x08'
        | 'f' => '\x0c'
        | 'n' => '\n'
        | 'r' => '\r'
        | 't' => '\t'
        | 'v' => '\x0b'
        | c => c
      ⟨char, true⟩ :: writtenChars fuel rest
    else
      let value := (Numeral.natural? 8 octal).getD 0
      let taken := if value < 256 then octal else octal.take 2
      ⟨Char.ofNat ((Numeral.natural? 8 taken).getD 0), true⟩
        :: writtenChars fuel ((c :: rest).drop taken.length)
  | fuel + 1, c :: rest => ⟨c, false⟩ :: writtenChars fuel rest

/- Whether a written character is a sign and no escaped character. -/
def Written.isSign (written : Written) (c : Char) : Bool :=
  written.char == c && !written.isEscaped

/- The text up to a sign in front of a bracket, and what follows. -/
def upToSign (sign : Char) : List Written → Option (Chars × List Written)
  | a :: b :: rest =>
    if a.isSign sign && b.isSign ']' then some ([], rest)
    else (upToSign sign (b :: rest)).map fun (name, rest) =>
      (a.char :: name, rest)
  | _ => none

/- A part in brackets, and what follows it. -/
def bracketPart? (written : List Written) :
    Except String (Option (SetPart × List Written)) :=
  match written with
  | a :: b :: rest =>
    if !a.isSign '[' then .ok none
    else if b.isSign ':' then
      match upToSign ':' rest with
      | some (name, rest) =>
        let name := Octet.toText name
        if (CharSet.named? name).isSome then
          .ok (some (.named name, rest))
        else if name.isEmpty then
          .error "missing character class name '[::]'"
        else
          .error ("invalid character class " ++ quoted name)
      | none => .ok none
    else if b.isSign '=' then
      match upToSign '=' rest with
      | some ([c], rest) => .ok (some (.same c, rest))
      | some ([], _) =>
        .error "missing equivalence class character '[==]'"
      | some (text, _) =>
        .error (Octet.toText text
          ++ ": equivalence class operand must be a single character")
      | none => .ok none
    else
      match rest with
      | star :: more =>
        let number := (more.takeWhile (fun w => !w.isSign ']')).map
          Written.char
        match star.isSign '*', more.drop number.length with
        | true, _ :: behind =>
          let base := if number.head? == some '0' then 8 else 10
          match number, Numeral.natural? base number with
          | [], _ => .ok (some (.repeated b.char 0, behind))
          | _, some n => .ok (some (.repeated b.char n, behind))
          | _, none =>
            .error ("invalid repeat count "
              ++ quoted (Octet.toText number) ++ " in [c*n] construct")
        | _, _ => .ok none
      | [] => .ok none
  | _ => .ok none

/- The parts of a set. -/
def setParts : Nat → List Written → Except String (List SetPart)
  | 0, _ => .ok []
  | _, [] => .ok []
  | fuel + 1, a :: rest => do
    match ← bracketPart? (a :: rest) with
    | some (part, rest) => (setParts fuel rest).map (part :: ·)
    | none =>
      match rest with
      | dash :: b :: more =>
        if dash.isSign '-' then
          if a.char ≤ b.char then
            (setParts fuel more).map (.range a.char b.char :: ·)
          else
            .error ("range-endpoints of "
              ++ quoted (Octet.toText [a.char, '-', b.char])
              ++ " are in reverse collating sequence order")
        else
          (setParts fuel rest).map (.char a.char :: ·)
      | rest => (setParts fuel rest).map (.char a.char :: ·)

/- The characters between two, both included. -/
def charsBetween (low high : Char) : Chars :=
  (List.range (high.toNat + 1 - low.toNat)).map fun i =>
    Char.ofNat (low.toNat + i)

/- The characters of a class, ascending. -/
def classChars (name : String) : Chars :=
  let set : CharSet := ⟨false, (CharSet.named? name).getD []⟩
  (charsBetween '\x00' '\xff').filter (set.contains false)

/- The characters of a part of a set. -/
def SetPart.chars : SetPart → Chars
  | char c => [c]
  | range low high => charsBetween low high
  | named name => classChars name
  | same c => [c]
  | repeated c count => List.replicate count c

/- The characters of a set whose repetitions fill up a size. -/
def setChars (size : Nat) (parts : List SetPart) : Chars :=
  let known := (parts.flatMap SetPart.chars).length
  parts.flatMap fun part =>
    match part with
    | .repeated c 0 => List.replicate (size - known) c
    | part => part.chars

/- Read a set. -/
def readSet (text : Chars) : Except String (List SetPart) :=
  setParts (text.length + 1) (writtenChars (text.length + 1) text)

------------------------------------------------------------
-- Translations
------------------------------------------------------------

/- What becomes of characters. -/
structure Translation where
  deleted : Chars
  exchanged : List (Char × Char)
  squeezed : Chars

namespace Translation

/- Drop characters that repeat the one before. -/
def squeeze (set : CharSet) : Option Char → Chars → Chars
  | _, [] => []
  | last?, c :: rest =>
    if last? == some c && set.contains false c then squeeze set last? rest
    else c :: squeeze set (some c) rest

/- The set of some characters. -/
def setOf (chars : Chars) : CharSet :=
  ⟨false, chars.map fun c => (c, c)⟩

/- A text after the translation. -/
def apply (translation : Translation) (text : Chars) : Chars :=
  let deleted := setOf translation.deleted
  let kept := if translation.deleted.isEmpty then text
    else text.filter (!deleted.contains false ·)
  let table : Array Char := (charsBetween '\x00' '\xff').toArray
  let table := translation.exchanged.foldl
    (fun (table : Array Char) (a, b) => table.setIfInBounds a.toNat b) table
  let moved := if translation.exchanged.isEmpty then kept
    else kept.map fun c => (table[c.toNat]?).getD c
  if translation.squeezed.isEmpty then moved
  else squeeze (setOf translation.squeezed) none moved

end Translation

/- The classes of large and small letters, with where they stand. -/
def letterClasses (parts : List SetPart) : List (Nat × String) :=
  ((parts.foldl
    (fun ((n : Nat), (found : List (Nat × String))) part =>
      (n + part.chars.length,
        match part with
        | .named name =>
          if name == "upper" || name == "lower" then (n, name) :: found
          else found
        | _ => found))
    (0, [])).2).reverse

/- What is wrong with the second set of an exchange. -/
def secondSetFault? (isOpposite : Bool) (first second : List SetPart) :
    Option String :=
  let hasClass := second.any fun part =>
    match part with
    | .named name => name != "upper" && name != "lower"
    | _ => false
  let hasSame := second.any fun part =>
    match part with
    | .same _ => true
    | _ => false
  let fills := (second.filter fun part =>
    match part with
    | .repeated _ 0 => true
    | _ => false).length
  let pairs := letterClasses first
  let isAligned := (letterClasses second).all fun (n, _) =>
    !isOpposite && (pairs.map Prod.fst).contains n
  if hasSame then
    some "[=c=] expressions may not appear in string2 when translating"
  else if hasClass then
    some ("when translating, the only character classes that may appear in\n"
      ++ "string2 are 'upper' and 'lower'")
  else if fills > 1 then
    some "only one [c*] repeat construct may appear in string2"
  else if !isAligned then
    some "misaligned [:upper:] and/or [:lower:] construct"
  else
    none

/- The exchange of characters of two sets. -/
def exchange (first second : Chars) (truncates : Bool) :
    List (Char × Char) :=
  let second := match second.getLast? with
    | some last =>
      if truncates then second
      else second ++ List.replicate (first.length - second.length) last
    | none => second
  first.zip second

/- Exchange, delete or squeeze characters. -/
def tr (world : World) (start : Start) : Ran :=
  withOptions "tr" 1
    ⟨"cCdst", "",
      [("complement", 'c'), ("delete", 'd'), ("squeeze-repeats", 's'),
        ("truncate-set1", 't')]⟩
    world start fun options =>
      let isOpposite := options.has 'c' || options.has 'C'
      let deletes := options.has 'd'
      let squeezes := options.has 's'
      let fail (why : String) : Except String Ran :=
        .ok (Ran.complaining world 1 ("tr: " ++ why))
      let least := if deletes == squeezes then 2 else 1
      let most := if deletes && !squeezes then 1 else 2
      match options.words, options.words[most]? with
      | [], _ => .error "missing operand"
      | _, some extra =>
        .error ("extra operand " ++ quoted extra
          ++ (if most == 1 then "\nOnly one string may be given when "
            ++ "deleting without squeezing repeats." else ""))
      | one :: others, none =>
        if others.isEmpty && least == 2 then
          let shown := one.replace "\\" "\\\\"
          .error ("missing operand after " ++ quoted shown
            ++ (if deletes then "\nTwo strings must be given when both "
                ++ "deleting and squeezing repeats."
              else "\nTwo strings must be given when translating."))
        else
          match readSet (Octet.ofText one),
              readSet (Octet.ofText (others.head?.getD "")) with
          | .error why, _ => fail why
          | _, .error why => fail why
          | .ok first, .ok second =>
            let translates := !deletes && !others.isEmpty
            let chosen := setChars 0 first
            let chosen := if isOpposite then
                (charsBetween '\x00' '\xff').filter (!chosen.contains ·)
              else chosen
            let target := setChars chosen.length second
            let fault? :=
              if first.any (fun part =>
                  match part with
                  | .repeated _ _ => true
                  | _ => false) then
                some "the [c*] repeat construct may not appear in string1"
              else if translates then
                if target.isEmpty && !chosen.isEmpty then
                  some ("when not truncating set1, string2 must be "
                    ++ "non-empty")
                else secondSetFault? isOpposite first second
              else none
            match fault? with
            | some why => fail why
            | none =>
              let translation : Translation :=
                { deleted := if deletes then chosen else []
                  exchanged :=
                    if translates then
                      exchange chosen target (options.has 't')
                    else []
                  squeezed :=
                    if !squeezes then []
                    else if others.isEmpty then chosen
                    else target }
              .ok ((Report.new.print (translation.apply
                (Octet.decode start.stdin))).finish world (some []))

end Tools

end Sandbox

end TreeLint
