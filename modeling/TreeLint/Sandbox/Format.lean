import TreeLint.Text.Lines
import TreeLint.Text.Numeral
import TreeLint.Text.RawByte

/-
  Texts that programs print by a format.

  Key definitions include:
    * `Format.unescapeFrom`
    * `Format.echo`
    * `Format.Printout`
    * `Format.printf`

  An escape is a backslash with a letter or with octal
  digits; octal digits give a byte, which need not be part of
  a character.
-/

------------------------------------------------------------
-- Escapes
------------------------------------------------------------

namespace TreeLint

namespace Sandbox

namespace Format

/- The character that an escape of one letter stands for. -/
def escapeLetter? (c : Char) : Option Char :=
  if c == 'a' then some '\x07'
  else if c == 'b' then some '\x08'
  else if c == 'f' then some '\x0c'
  else if c == 'n' then some '\n'
  else if c == 'r' then some '\r'
  else if c == 't' then some '\t'
  else if c == 'v' then some '\x0b'
  else if c == '\\' then some '\\'
  else none

/- Octal digits in front, but no more than so many. -/
def octalDigits (limit : Nat) (text : List Char) : List Char :=
  (text.take limit).takeWhile (fun c => (Numeral.digit? 8 c).isSome)

/- The character or the single byte that a number stands for. -/
def ofByte (n : Nat) : Char :=
  if n < 128 then Char.ofNat n else RawByte.ofByte (UInt8.ofNat n)

/-
  The text that is meant by a text with escapes, and whether
  it stops short at an escape that ends all output.  Octal
  digits may need a zero in front.  The first number counts
  the characters to pass over.
-/
def unescapeFrom (zeroFirst : Bool) : Nat → List Char → List Char × Bool
  | 0, [] => ([], false)
  | _ + 1, [] => ([], false)
  | skip + 1, _ :: rest => unescapeFrom zeroFirst skip rest
  | 0, '\\' :: c :: rest =>
    let octal :=
      if zeroFirst then
        if c == '0' then octalDigits 3 rest else []
      else
        octalDigits 3 (c :: rest)
    if zeroFirst && c == 'c' then
      ([], true)
    else if (zeroFirst && c == '0') || !octal.isEmpty then
      let (after, stop) :=
        unescapeFrom zeroFirst
          (if zeroFirst then octal.length else octal.length - 1) rest
      (ofByte ((Numeral.natural? 8 octal).getD 0 % 256) :: after, stop)
    else
      match escapeLetter? c with
      | some d =>
        let (after, stop) := unescapeFrom zeroFirst 0 rest
        (d :: after, stop)
      | none =>
        let (after, stop) := unescapeFrom zeroFirst 0 (c :: rest)
        ('\\' :: after, stop)
  | 0, c :: rest =>
    let (after, stop) := unescapeFrom zeroFirst 0 rest
    (c :: after, stop)
termination_by _ text => text.length

/- Bytes that form characters together become these characters. -/
def joined (text : List Char) : String :=
  RawByte.decode (RawByte.encode (String.ofList text))

/- What the shell prints for the words given. -/
def echo (args : List String) : String :=
  let (newline, words) :=
    match args with
    | "-n" :: rest => (false, rest)
    | rest => (true, rest)
  let (text, stop) :=
    unescapeFrom true 0 (Text.joinWith " " words).toList
  joined text ++ (if newline && !stop then "\n" else "")

/- What the program of that name prints for the words given. -/
def plainEcho (args : List String) : String :=
  match args with
  | "-n" :: rest => Text.joinWith " " rest
  | "-e" :: rest =>
    joined (unescapeFrom true 0 (Text.joinWith " " rest).toList).1 ++ "\n"
  | rest => Text.joinWith " " rest ++ "\n"

------------------------------------------------------------
-- Directives
------------------------------------------------------------

/- One directive of a format. -/
structure Directive where
  leftAligned : Bool
  zeroFilled : Bool
  plusSign : Bool
  spaceSign : Bool
  alternate : Bool
  width : Nat
  precision : Option Nat
  conversion : Char

/- What has been printed, and what was complained about. -/
structure Printout where
  /- The text so far, its newest character first. -/
  text : List Char
  args : List String
  /- Whether an argument was asked for. -/
  isUsing : Bool
  complaints : List String
  status : Nat
  /- Nothing more is printed. -/
  isOver : Bool

namespace Printout

/- Print some more. -/
def print (out : Printout) (text : List Char) : Printout :=
  { out with text := text.reverse ++ out.text }

/- Take the next argument, if there is one. -/
def argument (out : Printout) : Option String × Printout :=
  (out.args.head?, { out with args := out.args.drop 1, isUsing := true })

/- Complain, and go on. -/
def complain (out : Printout) (text : String) : Printout :=
  { out with complaints := out.complaints ++ [text], status := 1 }

/- Complain, and stop. -/
def abandon (out : Printout) (text : String) : Printout :=
  { out with
    complaints := out.complaints ++ [text]
    status := 2
    isOver := true }

end Printout

/- The digits at the start of a text by the rules for numbers. -/
def numberPrefix (text : List Char) : Nat × Nat × List Char :=
  let (base, digits) : Nat × List Char := match text with
    | '0' :: 'x' :: c :: rest =>
      if (Numeral.digit? 16 c).isSome then (16, c :: rest) else (8, text)
    | '0' :: 'X' :: c :: rest =>
      if (Numeral.digit? 16 c).isSome then (16, c :: rest) else (8, text)
    | '0' :: _ => (8, text)
    | _ => (10, text)
  let isDigit (c : Char) : Bool := (Numeral.digit? base c).isSome
  let run := digits.takeWhile isDigit
  ((Numeral.natural? base run).getD 0, run.length,
    digits.dropWhile isDigit)

/- The number that the next argument is. -/
def numberArgument (out : Printout) : Int × Printout :=
  let (argument?, out) := out.argument
  match argument? with
  | none => (0, out)
  | some argument =>
    match argument.toList with
    | c :: d :: _ =>
      if c == '\'' || c == '"' then
        (Int.ofNat (((RawByte.encode (String.singleton d)).head?.map
          UInt8.toNat).getD 0), out)
      else read out argument
    | _ => read out argument
where
  /- The number that a text is, with complaints if it is none. -/
  read (out : Printout) (argument : String) : Int × Printout :=
    let isSpace (c : Char) : Bool :=
      c == ' ' || (9 ≤ c.toNat && c.toNat ≤ 13)
    let text := argument.toList.dropWhile isSpace
    let (sign, text) : Int × List Char := match text with
      | '-' :: rest => (-1, rest)
      | '+' :: rest => (1, rest)
      | text => (1, text)
    let (n, count, behind) := numberPrefix text
    let value := sign * Int.ofNat n
    if argument.isEmpty then (0, out)
    else if count == 0 then
      (0, out.complain (argument ++ ": expected numeric value"))
    else if !behind.isEmpty then
      (value, out.complain (argument ++ ": not completely converted"))
    else (value, out)

/- A width or a precision, which may be an argument. -/
def size (text : List Char) (out : Printout) :
    Option Int × List Char × Printout :=
  match text with
  | '*' :: rest =>
    let (n, out) := numberArgument out
    (some n, rest, out)
  | text =>
    let digits := text.takeWhile Numeral.isDigit
    ((Numeral.natural? 10 digits).map Int.ofNat,
      text.dropWhile Numeral.isDigit, out)

/- Read a directive behind its percent sign. -/
def directive (text : List Char) (out : Printout) :
    Option (Directive × List Char) × Printout :=
  let isFlag : Char → Bool := fun c => "-+ 0#".toList.contains c
  let flags := text.takeWhile isFlag
  let (width?, text, out) := size (text.dropWhile isFlag) out
  let (precision?, text, out) := match text with
    | '.' :: rest =>
      let (n?, text, out) := size rest out
      (some (n?.getD 0), text, out)
    | rest => (none, rest, out)
  let width := width?.getD 0
  match text with
  | [] => (none, out)
  | c :: rest =>
    (some
      (⟨flags.contains '-' || width < 0, flags.contains '0',
        flags.contains '+', flags.contains ' ', flags.contains '#',
        width.natAbs,
        (precision?.filter (0 ≤ ·)).map Int.toNat, c⟩, rest),
      out)

/- Fill a text up to a width; its sign is told apart from it. -/
def fill (d : Directive) (zeros : Bool) (sign text : List Char) :
    List Char :=
  let missing := d.width - (sign.length + text.length)
  if d.leftAligned then
    sign ++ text ++ List.replicate missing ' '
  else if zeros && d.zeroFilled then
    sign ++ List.replicate missing '0' ++ text
  else
    List.replicate missing ' ' ++ sign ++ text

/- A text as characters that stand for one byte each. -/
def byteChars (text : List Char) : List Char :=
  (RawByte.encode (String.ofList text)).map fun b => ofByte b.toNat

/- Fill a text, cut to a precision, up to a width. -/
def fillText (d : Directive) (text : List Char) : List Char :=
  let bytes := byteChars text
  fill d false [] (match d.precision with
    | some n => bytes.take n
    | none => bytes)

/- The numbers of 64 bits without a sign. -/
def unsigned (n : Int) : Nat :=
  (Int.emod n (Int.ofNat (Nat.pow 2 64))).toNat

/- Print one number by a directive. -/
def convert (d : Directive) (n : Int) : List Char :=
  let c := d.conversion
  let hasSign := c == 'd' || c == 'i'
  let size := if hasSign then n.natAbs else unsigned n
  let body :=
    if c == 'x' then Nat.toDigits 16 size
    else if c == 'X' then (Nat.toDigits 16 size).map Char.toUpper
    else if c == 'o' then Nat.toDigits 8 size
    else Nat.toDigits 10 size
  let body :=
    if size == 0 && d.precision == some 0 then [] else body
  let body :=
    List.replicate ((d.precision.getD 0) - body.length) '0' ++ body
  let front :=
    if hasSign then
      if n < 0 then ['-']
      else if d.plusSign then ['+']
      else if d.spaceSign then [' ']
      else []
    else if d.alternate && size != 0 then
      if c == 'x' then ['0', 'x']
      else if c == 'X' then ['0', 'X']
      else if c == 'o' && body.head? != some '0' then ['0']
      else []
    else []
  fill d d.precision.isNone front body

------------------------------------------------------------
-- Formats
------------------------------------------------------------

/- Print the next argument by a directive written as a text. -/
def printBy (d : Directive) (written : String) (out : Printout) :
    Printout :=
  let c := d.conversion
  if c == 's' then
    let (argument?, out) := out.argument
    out.print (fillText d (argument?.getD "").toList)
  else if c == 'b' then
    let (argument?, out) := out.argument
    let (text, stop) := unescapeFrom true 0 (argument?.getD "").toList
    { out.print (fillText d text) with isOver := stop }
  else if c == 'c' then
    let (argument?, out) := out.argument
    out.print (fillText d
      ((byteChars (argument?.getD "").toList).take 1))
  else if "diouxX".toList.contains c then
    let (n, out) := numberArgument out
    out.print (convert d n)
  else
    out.abandon (written ++ ": invalid directive")

/- Print a format once. -/
def printOnce : Nat → List Char → Printout → Printout
  | 0, _, out => out
  | _ + 1, [], out => out
  | fuel + 1, '%' :: '%' :: rest, out =>
    printOnce fuel rest (out.print ['%'])
  | fuel + 1, '%' :: rest, out =>
    match directive rest out with
    | (none, out) => out.abandon "missing format character"
    | (some (d, behind), out) =>
      let written := rest.take (rest.length - behind.length)
      let out := printBy d ("%" ++ String.ofList written) out
      if out.isOver then out else printOnce fuel behind out
  | fuel + 1, '\\' :: rest, out =>
    let (meant, behind) := escape rest
    printOnce fuel behind (out.print meant)
  | fuel + 1, c :: rest, out => printOnce fuel rest (out.print [c])
where
  /- What an escape means, and what follows it. -/
  escape (text : List Char) : List Char × List Char :=
    match text with
    | [] => (['\\'], [])
    | c :: rest =>
      let octal := octalDigits 3 text
      if !octal.isEmpty then
        ([ofByte ((Numeral.natural? 8 octal).getD 0 % 256)],
          text.drop octal.length)
      else
        match escapeLetter? c with
        | some d => ([d], rest)
        | none => (['\\'], text)

/- Print a format as often as there are arguments for it. -/
def printAll : Nat → List Char → Printout → Printout
  | 0, _, out => out
  | fuel + 1, format, out =>
    let out := printOnce (format.length + 1) format out
    if out.isUsing && !out.isOver && !out.args.isEmpty then
      printAll fuel format { out with isUsing := false }
    else
      out

/- What is printed for a format and arguments. -/
def printf (format : String) (args : List String) : Printout :=
  printAll (args.length + 1) format.toList ⟨[], args, false, [], 0, false⟩

/- The whole text that was printed. -/
def Printout.whole (out : Printout) : String :=
  joined out.text.reverse

end Format

end Sandbox

end TreeLint
