import TreeLint.Text.Numeral
import TreeLint.Text.Octet

/-
  Names in quotes.

  Key definitions include:
    * `Quoting.read?`

  A name with bytes that cannot be printed as they are stands
  in quotes.  A backslash in front of a letter stands for a
  byte, and so does a backslash in front of three digits.
-/

------------------------------------------------------------
-- Reading
------------------------------------------------------------

namespace TreeLint

namespace Quoting

/- The bytes that letters behind a backslash stand for. -/
def letters : List (Char × Char) :=
  [ ('a', '\x07'), ('b', '\x08'), ('f', '\x0c'), ('n', '\n'),
    ('r', '\r'), ('t', '\t'), ('v', '\x0b'), ('"', '"'), ('\\', '\\') ]

/-
  A name up to the quote that ends it, and what stands behind;
  every character is a byte.
-/
def read? : List Char → Option (List Char × List Char)
  | [] => none
  | '"' :: rest => some ([], rest)
  | '\n' :: _ => none
  | '\\' :: c :: rest =>
    match letters.lookup c with
    | some b => (read? rest).map fun (inner, behind) => (b :: inner, behind)
    | none =>
      match rest with
      | d :: e :: rest =>
        match Numeral.natural? 8 [c, d, e] with
        | some n =>
          if n < 256 then
            (read? rest).map fun (inner, behind) =>
              (Char.ofNat n :: inner, behind)
          else none
        | none => none
      | _ => none
  | c :: rest =>
    (read? rest).map fun (inner, behind) => (c :: inner, behind)

end Quoting

end TreeLint
