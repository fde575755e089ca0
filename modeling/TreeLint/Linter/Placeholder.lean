import TreeLint.Path.Basic
import TreeLint.Text.RawByte

/-
  The placeholder for the source root.

  Key definitions include:
    * `Placeholder.expand`
    * `Placeholder.splitChars?`
    * `Placeholder.expandArgument`

  Texts of a configuration may name the source root by a
  placeholder.  Expanding a text reads it once from left to
  right, so a root that itself holds the placeholder is not
  read again.  A text has no room for bytes outside UTF-8: of
  a root with such bytes, what a reader sees is inserted.
-/

------------------------------------------------------------
-- Substitution
------------------------------------------------------------

namespace TreeLint

namespace Placeholder

/- Put the root in place of every placeholder. -/
def expandChars (root : List Char) : List Char → List Char
  | '\x7b' :: 'r' :: 'o' :: 'o' :: 't' :: '\x7d' :: rest =>
    root ++ expandChars root rest
  | c :: rest => c :: expandChars root rest
  | [] => []

/-
  The text before the first placeholder and the text behind
  it.
-/
def splitChars? : List Char → Option (List Char × List Char)
  | '\x7b' :: 'r' :: 'o' :: 'o' :: 't' :: '\x7d' :: rest =>
    some ([], rest)
  | c :: rest =>
    (splitChars? rest).map (fun (before, after) => (c :: before, after))
  | [] => none

/- A text with the root in place of every placeholder. -/
def expand (template : String) (root : Path) : String :=
  String.ofList
    (expandChars (RawByte.mended root).toList template.toList)

/- Whether a text holds the placeholder. -/
def occursIn (template : String) : Bool :=
  (splitChars? template.toList).isSome

------------------------------------------------------------
-- Arguments
------------------------------------------------------------

/-
  The part of a text up to and including its last equals
  sign, and the part behind it.
-/
def cutOption : List Char → List Char × List Char
  | [] => ([], [])
  | c :: rest =>
    match cutOption rest with
    | ([], value) =>
      if c == '=' then ([c], value) else ([], c :: value)
    | (option, value) => (c :: option, value)

/-
  Expand an argument.  Where the placeholder starts the
  argument or the value of an option, what follows the option
  is a path and is normalized.
-/
def expandArgument (argument : String) (root : Path) : String :=
  match splitChars? argument.toList with
  | none => argument
  | some (before, after) =>
    match cutOption before with
    | (option, []) =>
      String.ofList option
        ++ Path.normalize
          (RawByte.mended root ++ expand (String.ofList after) root)
    | _ => expand argument root

end Placeholder

end TreeLint
