import TreeLint.Proofs.Path.Relative
import TreeLint.Repository.Changes

/-
  The changed files that a query finds.

  Key definitions include:
    * `Changes.printed`
    * `Changes.pathOf`

  Key theorems include:
    * `Changes.query_of_printed`
    * `Changes.count_printedName`
    * `Changes.finds_changed_names_iff`

  The version control program prints one name a line, and it
  quotes the names that it cannot print as they are.  The
  query takes every line for a name, quotes and all.  It finds
  the changed files exactly if none of their names is quoted.
-/

------------------------------------------------------------
-- Printed Names
------------------------------------------------------------

namespace TreeLint

namespace Changes

/- The output for some names: each on a line of its own. -/
def printed (names : List String) : List UInt8 :=
  Utf8.encode
    (String.join (names.map fun name => printedName name ++ "\n"))

/- The path of the file that has a name, seen from the top. -/
def pathOf (top : Path) (name : String) : Path :=
  top.join (RawByte.hold name)

/- Whether a name is printed between quotes. -/
def isQuoted (name : String) : Bool :=
  name.toList.any needsQuotes

theorem octalDigit_plain
    (n : Nat) :
    (octalDigit n ≠ '/' ∧ Text.isLineBreak (octalDigit n) = false) ∧
      octalDigit n ≠ '"' := by
  have hDigits :
      ∀ k < 8,
        (Char.ofNat (0x30 + k) ≠ '/' ∧
            Text.isLineBreak (Char.ofNat (0x30 + k)) = false) ∧
          Char.ofNat (0x30 + k) ≠ '"' := by
    decide
  exact hDigits (n % 8) (Nat.mod_lt n (by decide))

/- The characters with an escape of their own. -/
def specials : List Char :=
  ['"', '\\', '\x07', '\x08', '\t', '\n', '\x0b', '\x0c', '\r']

/- A code that ends neither a line nor a name. -/
def IsCode (c : Char) (code : List Char) : Prop :=
  (∀ d ∈ code, d ≠ '/' ∧ Text.isLineBreak d = false) ∧
    code.count '"' = if c = '"' then 1 else 0

theorem escapedChar_of_mem_specials
    {c : Char}
    (hSpecial : c ∈ specials) :
    escapedChar c = '\\' :: (escapedChar c).tail ∧
      IsCode c (escapedChar c).tail := by
  simp only [specials, List.mem_cons, List.not_mem_nil,
    or_false] at hSpecial
  rcases hSpecial with
    rfl | rfl | rfl | rfl | rfl | rfl | rfl | rfl | rfl <;>
    simp [escapedChar, IsCode, Text.isLineBreak]

theorem escapedChar_of_not_mem_specials
    {c : Char}
    (hSpecial : c ∉ specials) :
    escapedChar c =
      if c.toNat < 0x20 || c.toNat == 0x7F then
        ['\\', octalDigit (c.toNat / 64), octalDigit (c.toNat / 8),
          octalDigit c.toNat]
      else [c] := by
  have hNe : ∀ d ∈ specials, (c == d) = false := by
    intro d hMem
    rw [beq_eq_false_iff_ne]
    rintro rfl
    exact hSpecial hMem
  unfold escapedChar
  rw [hNe '"' (by decide), hNe '\\' (by decide),
    hNe '\x07' (by decide), hNe '\x08' (by decide),
    hNe '\t' (by decide), hNe '\n' (by decide),
    hNe '\x0b' (by decide), hNe '\x0c' (by decide),
    hNe '\r' (by decide)]
  rfl

/-
  Between quotes a character is written as itself, or as a
  backslash and a code.
-/
theorem escapedChar_cases
    (c : Char) :
    (escapedChar c = [c] ∧ needsQuotes c = false) ∨
      ∃ code, escapedChar c = '\\' :: code ∧ IsCode c code := by
  by_cases hSpecial : c ∈ specials
  · rcases escapedChar_of_mem_specials hSpecial with ⟨hEq, hCode⟩
    exact Or.inr ⟨_, hEq, hCode⟩
  · have hQuote : c ≠ '"' := fun hEq => hSpecial (hEq ▸ by decide)
    have hSlash : c ≠ '\\' := fun hEq => hSpecial (hEq ▸ by decide)
    rw [escapedChar_of_not_mem_specials hSpecial]
    split
    · refine Or.inr ⟨_, rfl, ?_, ?_⟩
      · simp [octalDigit_plain]
      · simp [octalDigit_plain, hQuote]
    · next hPlain =>
      refine Or.inl ⟨rfl, ?_⟩
      simp only [Bool.or_eq_true, not_or, Bool.not_eq_true] at hPlain
      simp [needsQuotes, hPlain, hQuote, hSlash]

------------------------------------------------------------
-- Printed Names As Names
------------------------------------------------------------

theorem printedName_of_not_quoted
    {name : String}
    (hPlain : isQuoted name = false) :
    printedName name = name := by
  unfold isQuoted at hPlain
  rw [printedName, hPlain]
  rfl

theorem toList_printedName_of_quoted
    {name : String}
    (hQuoted : isQuoted name = true) :
    (printedName name).toList =
      '"' :: (Path.respelled escapedChar name).toList ++ ['"'] := by
  unfold isQuoted at hQuoted
  rw [printedName, hQuoted]
  simp

theorem respells_escapedChar :
    Path.Respells escapedChar where
  slash := by decide
  free := by
    intro c hNe hIn
    rcases escapedChar_cases c with ⟨hSelf, _⟩ | ⟨code, hEq, hCode⟩
    · rw [hSelf, List.mem_singleton] at hIn
      exact hNe hIn.symm
    · rw [hEq] at hIn
      rcases List.mem_cons.mp hIn with hFirst | hLater
      · exact absurd hFirst (by decide)
      · exact (hCode.1 '/' hLater).1 rfl
  seen := by
    intro c
    rcases escapedChar_cases c with ⟨hSelf, _⟩ | ⟨code, hEq, _⟩
    · exact Or.inl hSelf
    · exact Or.inr ⟨'\\', hEq ▸ List.mem_cons_self, by decide⟩

/- A printed name leads somewhere, if not where it should. -/
theorem isRelative_printedName
    {name : String}
    (hName : Path.IsRelative name) :
    Path.IsRelative (printedName name) := by
  cases hQuoted : isQuoted name with
  | false => rwa [printedName_of_not_quoted hQuoted]
  | true =>
    intro segment hSegment
    rcases List.mem_map.mp hSegment with ⟨piece, hPiece, rfl⟩
    have hSlash : '/' ∉ (String.ofList piece).toList := by
      rw [String.toList_ofList]
      intro hIn
      have hNot :=
        Text.not_separator_of_mem_pieces _ _ piece hPiece '/' hIn
      simp at hNot
    have hQuote :
        '"' ∈ piece → Path.IsName (String.ofList piece) := by
      intro hIn
      rw [← String.toList_ofList (l := piece)] at hIn
      exact Path.isName_of_mem_toList hIn (by decide) hSlash
    rw [toList_printedName_of_quoted hQuoted] at hPiece
    rcases Text.mem_pieces_append_singleton (by decide) hPiece with
      hEnd | hFront
    · exact hQuote hEnd
    · rcases Text.mem_pieces_cons (by decide) hFront with
        hStart | hInner
      · exact hQuote hStart
      · exact
          respells_escapedChar.isRelative hName _
            (List.mem_map.mpr ⟨piece, hInner, rfl⟩)

------------------------------------------------------------
-- Printed Names As Lines
------------------------------------------------------------

theorem isLineBreak_of_needsQuotes
    {c : Char}
    (hPlain : needsQuotes c = false) :
    Text.isLineBreak c = false := by
  cases hBreak : Text.isLineBreak c with
  | false => rfl
  | true =>
    have hEq : c = '\r' ∨ c = '\n' := by
      simpa [Text.isLineBreak] using hBreak
    rcases hEq with rfl | rfl
    · exact absurd hPlain (by decide)
    · exact absurd hPlain (by decide)

/- No printed name ends a line. -/
theorem isLineBreak_of_mem_printedName
    {name : String}
    {c : Char}
    (hChar : c ∈ (printedName name).toList) :
    Text.isLineBreak c = false := by
  cases hQuoted : isQuoted name with
  | false =>
    rw [printedName_of_not_quoted hQuoted] at hChar
    have hPlain := List.any_eq_false.mp hQuoted c hChar
    exact isLineBreak_of_needsQuotes (by simpa using hPlain)
  | true =>
    rw [toList_printedName_of_quoted hQuoted, Path.toList_respelled,
      List.cons_append, List.mem_cons, List.mem_append,
      List.mem_singleton, List.mem_flatMap] at hChar
    rcases hChar with rfl | ⟨d, _, hIn⟩ | rfl
    · decide
    · rcases escapedChar_cases d with
        ⟨hSelf, hPlain⟩ | ⟨code, hEq, hCode⟩
      · rw [hSelf, List.mem_singleton] at hIn
        exact hIn ▸ isLineBreak_of_needsQuotes hPlain
      · rw [hEq] at hIn
        rcases List.mem_cons.mp hIn with rfl | hLater
        · decide
        · exact (hCode.1 c hLater).2
    · decide

theorem isLineBreak_of_mem_holdChar
    {c d : Char}
    (hPlain : Text.isLineBreak d = false)
    (hIn : c ∈ RawByte.holdChar d) :
    Text.isLineBreak c = false := by
  rcases RawByte.holdChar_cases d with hSelf | ⟨_, _, hBytes⟩
  · rw [hSelf, List.mem_singleton] at hIn
    exact hIn ▸ hPlain
  · cases hBreak : Text.isLineBreak c with
    | false => rfl
    | true =>
      have hEq : c = '\r' ∨ c = '\n' := by
        simpa [Text.isLineBreak] using hBreak
      have hBase := hBytes c hIn
      rcases hEq with rfl | rfl
      · exact absurd hBase (by decide)
      · exact absurd hBase (by decide)

theorem toList_hold_printed
    (names : List String) :
    (RawByte.hold
        (String.join
          (names.map fun name => printedName name ++ "\n"))).toList =
      (names.map fun name =>
        (RawByte.hold (printedName name)).toList).flatMap
          (· ++ ['\n']) := by
  rw [RawByte.toList_hold, String.toList_join, List.flatMap_map,
    List.flatMap_map, List.flatMap_assoc]
  congr 1
  funext name
  rw [RawByte.toList_hold, String.toList_append, List.flatMap_append]
  rfl

/- The lines of the output are the names as they are printed. -/
theorem nonemptyLines_printed
    {names : List String}
    (hNames : ∀ name ∈ names, Path.IsRelative name) :
    (Text.nonemptyLines
        (RawByte.hold
          (String.join
            (names.map fun name => printedName name ++ "\n"))).toList).map
        String.ofList =
      names.map fun name => RawByte.hold (printedName name) := by
  rw [toList_hold_printed, Text.nonemptyLines_of_ended]
  · simp [Function.comp_def]
  · intro line hLine hEmpty
    rcases List.mem_map.mp hLine with ⟨name, hName, rfl⟩
    have hRelative :=
      (isRelative_printedName (hNames name hName)).hold
    rw [String.toList_eq_nil_iff.mp hEmpty] at hRelative
    exact absurd hRelative (by decide)
  · intro line hLine c hChar
    rcases List.mem_map.mp hLine with ⟨name, _, rfl⟩
    rw [RawByte.toList_hold] at hChar
    rcases List.mem_flatMap.mp hChar with ⟨d, hPrinted, hIn⟩
    exact
      isLineBreak_of_mem_holdChar
        (isLineBreak_of_mem_printedName hPrinted) hIn

------------------------------------------------------------
-- The Query
------------------------------------------------------------

section

variable {σ : Type}
variable {host : Host σ} {session : Session} {state after : σ}
variable {top : Path} {names : List String} {stderr : List UInt8}

/- The query finds the printed names, seen from the top. -/
theorem query_of_printed
    (hAbsolute : top.isAbsolute = true)
    (hNormal : top.normalize = top)
    (hNames : ∀ name ∈ names, Path.IsRelative name)
    (hStart :
      host.start (invocation session top) state =
        (some ⟨some 0, printed names, stderr⟩, after)) :
    query host session top state =
      (.ok (names.map fun name => pathOf top (printedName name)),
        after) := by
  rcases Path.exists_place_of_isAbsolute hAbsolute with
    ⟨place, hPlace, hTop⟩
  rw [hNormal] at hTop
  have hResolved :
      PathSet.resolved top
          (names.map fun name => RawByte.hold (printedName name)) =
        names.map fun name => pathOf top (printedName name) := by
    unfold PathSet.resolved
    rw [List.map_map]
    apply List.map_congr_left
    intro name hName
    rw [hTop]
    exact
      Path.resolve_relative hPlace
        (isRelative_printedName (hNames name hName)).hold
  unfold query
  rw [hStart]
  simp only [ofCompleted, printed, Utf8.decode?_encode, parseNames,
    nonemptyLines_printed hNames, hResolved]
  rfl

end

------------------------------------------------------------
-- Counting Quotes
------------------------------------------------------------

/- How many quotes a text holds. -/
def quotes (text : String) : Nat :=
  text.toList.count '"'

theorem quotes_append
    (before after : String) :
    quotes (before ++ after) = quotes before + quotes after := by
  unfold quotes
  rw [String.toList_append, List.count_append]

/- A spelling that keeps the quotes of each character keeps all. -/
theorem quotes_respelled
    {write : Char → List Char}
    (hWrite : ∀ c, (write c).count '"' = if c = '"' then 1 else 0)
    (text : String) :
    quotes (Path.respelled write text) = quotes text := by
  unfold quotes
  rw [Path.toList_respelled]
  induction text.toList with
  | nil => rfl
  | cons c rest ih =>
    rw [List.flatMap_cons, List.count_append, ih, hWrite,
      List.count_cons, Nat.add_comm]
    simp

theorem quotes_hold
    (text : String) :
    quotes (RawByte.hold text) = quotes text := by
  rw [Path.hold_eq_respelled]
  apply quotes_respelled
  intro c
  rcases RawByte.holdChar_cases c with hSelf | ⟨hBase, _, hBytes⟩
  · rw [hSelf]
    simp [List.count_singleton]
  · have hNe : c ≠ '"' := by
      rintro rfl
      exact absurd hBase (by decide)
    rw [if_neg hNe, List.count_eq_zero]
    intro hIn
    exact absurd (hBytes '"' hIn) (by decide)

/- A name that is quoted holds two more quotes when printed. -/
theorem quotes_printedName
    {name : String}
    (hQuoted : isQuoted name = true) :
    quotes (printedName name) = quotes name + 2 := by
  have hEscaped :
      quotes (Path.respelled escapedChar name) = quotes name := by
    apply quotes_respelled
    intro c
    rcases escapedChar_cases c with ⟨hSelf, _⟩ | ⟨code, hEq, hCode⟩
    · rw [hSelf]
      simp [List.count_singleton]
    · rw [hEq, List.count_cons, hCode.2]
      simp
  unfold quotes at hEscaped ⊢
  rw [toList_printedName_of_quoted hQuoted, List.count_append,
    List.count_cons, hEscaped]
  simp

/- The path of a file holds the quotes of its name. -/
theorem quotes_pathOf
    {top : Path}
    {name : String}
    (hAbsolute : top.isAbsolute = true)
    (hName : Path.IsRelative name) :
    quotes (pathOf top name) = quotes top + quotes name := by
  have hFilled : top.isEmpty = false := by
    apply Path.isEmpty_eq_false
    rintro rfl
    cases hAbsolute
  have hSlash : quotes "/" = 0 := by decide
  unfold pathOf Path.join
  rw [hName.hold.isAbsolute_eq_false, hFilled]
  simp only [Bool.or_self, Bool.false_eq_true, if_false]
  split
  · rw [quotes_append, quotes_hold]
  · rw [quotes_append, quotes_append, quotes_hold, hSlash,
      Nat.add_zero]

/- A name with a quote in it is quoted. -/
theorem isQuoted_of_quotes_pos
    {name : String}
    (hSome : 0 < quotes name) :
    isQuoted name = true :=
  List.any_eq_true.mpr ⟨'"', List.count_pos_iff.mp hSome, rfl⟩

/-
  If the path of each printed name were that of a name, then
  from a quoted name there would be an endless way to names
  with more and more quotes.
-/
theorem not_isQuoted_of_forall_printed
    {top : Path}
    {names : List String}
    (hAbsolute : top.isAbsolute = true)
    (hNames : ∀ name ∈ names, Path.IsRelative name)
    (hPrinted :
      ∀ name ∈ names, ∃ other ∈ names,
        pathOf top (printedName name) = pathOf top other)
    {name : String}
    (hName : name ∈ names) :
    isQuoted name = false := by
  cases hQuoted : isQuoted name with
  | false => rfl
  | true =>
    have hMore :
        ∀ n, ∃ other ∈ names,
          isQuoted other = true ∧ n ≤ quotes other := by
      intro n
      induction n with
      | zero => exact ⟨name, hName, hQuoted, Nat.zero_le _⟩
      | succ n ih =>
        rcases ih with ⟨old, hOld, hOldQuoted, hLe⟩
        rcases hPrinted old hOld with ⟨other, hOther, hPath⟩
        have hCount := congrArg quotes hPath
        rw [quotes_pathOf hAbsolute
            (isRelative_printedName (hNames old hOld)),
          quotes_pathOf hAbsolute (hNames other hOther),
          quotes_printedName hOldQuoted] at hCount
        refine ⟨other, hOther, isQuoted_of_quotes_pos ?_, ?_⟩
        · omega
        · omega
    rcases hMore ((names.map quotes).foldr max 0 + 1) with
      ⟨other, hOther, _, hLe⟩
    have hMax : quotes other ≤ (names.map quotes).foldr max 0 :=
      FileTree.length_le_foldr_max
        (List.mem_map.mpr ⟨other, hOther, rfl⟩)
    omega

------------------------------------------------------------
-- What The Query Finds
------------------------------------------------------------

/-
  Asked at the top of a work tree, where the given names have
  changed, the query finds the paths of the printed names.
  These are the paths of the names exactly if no name has to
  be quoted.
-/
theorem finds_changed_names_iff
    {σ : Type}
    (host : Host σ)
    (session : Session)
    (state after : σ)
    (top : Path)
    (names : List String)
    (stderr : List UInt8)
    (hAbsolute : top.isAbsolute = true)
    (hNormal : top.normalize = top)
    (hNames : ∀ name ∈ names, Path.IsRelative name)
    (hStart :
      host.start (invocation session top) state =
        (some ⟨some 0, printed names, stderr⟩, after)) :
    ∃ changed,
      query host session top state = (.ok changed, after) ∧
      (∀ p, p ∈ changed ↔
        ∃ name ∈ names, p = pathOf top (printedName name)) ∧
      ((∀ p, p ∈ changed ↔ ∃ name ∈ names, p = pathOf top name) ↔
        ∀ name ∈ names, isQuoted name = false) := by
  refine
    ⟨_, query_of_printed hAbsolute hNormal hNames hStart, ?_, ?_, ?_⟩
  · intro p
    simp [eq_comm]
  · intro hSame name hName
    refine
      not_isQuoted_of_forall_printed hAbsolute hNames ?_ hName
    intro printedOne hPrinted
    exact
      (hSame _).mp (List.mem_map.mpr ⟨printedOne, hPrinted, rfl⟩)
  · intro hPlain p
    rw [List.mem_map]
    constructor
    · rintro ⟨name, hName, rfl⟩
      refine ⟨name, hName, ?_⟩
      rw [printedName_of_not_quoted (hPlain name hName)]
    · rintro ⟨name, hName, rfl⟩
      refine ⟨name, hName, ?_⟩
      rw [printedName_of_not_quoted (hPlain name hName)]

/- A computer on which two files have changed, one with a tab. -/
def tabHost : Host Unit where
  files := fun _ => { nodes := [] }
  start := fun _ state =>
    (some ⟨some 0, printed ["plain.h", "a\tb.h"], []⟩, state)

theorem plain_name_found_without_tab_name :
    ∃ changed,
      query tabHost ⟨[], []⟩ "/r" () = (.ok changed, ()) ∧
      "/r/plain.h" ∈ changed ∧
      ¬ (∀ p, p ∈ changed ↔
        ∃ name ∈ ["plain.h", "a\tb.h"], p = pathOf "/r" name) := by
  rcases finds_changed_names_iff tabHost ⟨[], []⟩ () () "/r"
      ["plain.h", "a\tb.h"] [] (by decide) (by decide) (by decide)
      rfl with
    ⟨changed, hQuery, hChanged, hSame⟩
  refine ⟨changed, hQuery, ?_, ?_⟩
  · exact (hChanged _).mpr ⟨"plain.h", by decide, by decide⟩
  · intro hAll
    exact absurd (hSame.mp hAll "a\tb.h" (by decide)) (by decide)

/- The name with the tab is taken for its quoted spelling. -/
theorem tab_name_found_as_quoted :
    query tabHost ⟨[], []⟩ "/r" () =
        (.ok ["/r/plain.h", "/r/\"a\\tb.h\""], ()) ∧
      pathOf "/r" "a\tb.h" = "/r/a\tb.h" ∧
      "/r/a\tb.h" ∉ ["/r/plain.h", "/r/\"a\\tb.h\""] := by
  have hNames :
      ∀ name ∈ ["plain.h", "a\tb.h"], Path.IsRelative name := by
    decide
  have hPaths :
      ["plain.h", "a\tb.h"].map
          (fun name => pathOf "/r" (printedName name)) =
        ["/r/plain.h", "/r/\"a\\tb.h\""] := by
    decide
  refine ⟨?_, by decide, by decide⟩
  rw [query_of_printed (by decide) (by decide) hNames rfl, hPaths]

end Changes

end TreeLint
