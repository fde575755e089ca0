import Mathlib.Data.List.TakeWhile
import TreeLint.Command.Options

/-
  The words in which options are written.

  Key definitions include:
    * `OptionName.spellings`
    * `OptionName.letters`
    * `Mention`
    * `Options.mentionAll`
    * `WritesWord`
    * `Writes`

  Key theorems include:
    * `Reading.argument_of_writesWord`
    * `Reading.arguments_of_writes`
    * `Reading.exists_writes_of_arguments`

  A command line is a sequence of words, and each word
  mentions options.  Which words mention which options is a
  relation here that knows nothing of how words are read.
  Reading words comes down to mentioning their options one
  after the other, and no other words are accepted.
-/

------------------------------------------------------------
-- Names
------------------------------------------------------------

namespace TreeLint

namespace OptionName

/- The long names under which an option may be written. -/
def spellings : OptionName → List String
  | .flag .cpp => ["cc", "cpp", "cxx", "c++"]
  | .flag .javaScript => ["js", "javascript", "es"]
  | .flag .python => ["py", "python"]
  | .flag .changed => ["changed"]
  | .flag .dryRun => ["dry-run"]
  | .flag .list => ["list"]
  | .flag .verbose => ["verbose"]
  | .flag .quiet => ["quiet"]
  | .flag .help => ["help"]
  | .flag .version => ["version"]
  | .setting .directory => ["directory"]
  | .setting .config => ["config"]

/- The short names under which an option may be written. -/
def letters : OptionName → List Char
  | .flag .changed => ['c']
  | .flag .verbose => ['v']
  | .flag .quiet => ['q']
  | .flag .help => ['h']
  | .flag .version => ['V']
  | .setting .directory => ['C']
  | _ => []

theorem ofLong?_eq_some_iff
    {name : String}
    {option : OptionName} :
    ofLong? name = some option ↔ name ∈ option.spellings := by
  constructor
  · intro hName
    rcases List.lookup_eq_some_iff.1 hName with
      ⟨before, behind, hTable, -⟩
    have hEntry : (name, option) ∈ longNames := by
      simp [hTable]
    have hAll :
        ∀ entry ∈ longNames, entry.1 ∈ entry.2.spellings := by
      decide
    exact hAll _ hEntry
  · have hAll :
        ∀ name ∈ option.spellings, ofLong? name = some option := by
      cases option with
      | flag f => cases f <;> decide
      | setting s => cases s <;> decide
    exact hAll name

/- The only setting with a short name is the directory. -/
theorem eq_directory_of_mem_letters
    {c : Char}
    {s : ValueOption}
    (hLetter : c ∈ (OptionName.setting s).letters) :
    s = .directory ∧ c = 'C' := by
  cases s with
  | directory => exact ⟨rfl, by simpa [letters] using hLetter⟩
  | config => simp [letters] at hLetter

theorem ofShort?_eq_some_iff
    {c : Char}
    {option : OptionName} :
    ofShort? c = some option ↔ c ∈ option.letters := by
  constructor
  · intro hName
    rcases List.lookup_eq_some_iff.1 hName with
      ⟨before, behind, hTable, -⟩
    have hEntry : (c, option) ∈ shortNames := by
      simp [hTable]
    have hAll :
        ∀ entry ∈ shortNames, entry.1 ∈ entry.2.letters := by
      decide
    exact hAll _ hEntry
  · intro hLetter
    cases option with
    | flag f =>
      cases f <;> simp [letters] at hLetter <;> subst hLetter <;> rfl
    | setting s =>
      rcases eq_directory_of_mem_letters hLetter with ⟨rfl, rfl⟩
      rfl

/- No long name is empty, and none contains an equals sign. -/
theorem plain_of_mem_spellings
    {name : String}
    {option : OptionName}
    (hName : name ∈ option.spellings) :
    name.toList ≠ [] ∧ '=' ∉ name.toList := by
  have hAll :
      ∀ name ∈ option.spellings,
        name.toList ≠ [] ∧ '=' ∉ name.toList := by
    cases option with
    | flag f => cases f <;> decide
    | setting s => cases s <;> decide
  exact hAll name hName

theorem bne_equals_of_mem_spellings
    {name : String}
    {option : OptionName}
    (hName : name ∈ option.spellings) :
    ∀ c ∈ name.toList, (c != '=') = true := by
  intro c hMem
  rw [bne_iff_ne]
  rintro rfl
  exact (plain_of_mem_spellings hName).2 hMem

theorem ne_dash_of_mem_letters
    {c : Char}
    {option : OptionName}
    (hLetter : c ∈ option.letters) :
    c ≠ '-' := by
  rintro rfl
  have hDash : ofShort? '-' = none := by decide
  simp [ofShort?_eq_some_iff.2 hLetter] at hDash

end OptionName

------------------------------------------------------------
-- Mentions
------------------------------------------------------------

/- An option that is mentioned, with its value if it takes one. -/
inductive Mention where
  | flag (f : Flag)
  | setting (s : ValueOption) (value : String)
deriving DecidableEq, Repr

namespace Options

/- Take account of a mention. -/
def mention
    (options : Options) : Mention → Except UsageError Options
  | .flag f => options.applyFlag f
  | .setting s value => options.applyValue s value

/- Take account of mentions, one after the other. -/
def mentionAll
    (options : Options) : List Mention → Except UsageError Options
  | [] => .ok options
  | m :: rest =>
    (options.mention m).bind fun options => options.mentionAll rest

end Options

------------------------------------------------------------
-- Words
------------------------------------------------------------

/- A word that may be the value of the option in front of it. -/
def StandsAlone (word : String) : Prop :=
  word = "-" ∨ word.toList.head? ≠ some '-'

theorem toList_dashes_append
    (text : String) :
    ("--" ++ text).toList = '-' :: '-' :: text.toList := by
  rw [String.toList_append]
  rfl

theorem StandsAlone.toList_ne
    {word : String}
    (hAlone : StandsAlone word)
    (c : Char)
    (text : List Char) :
    word.toList ≠ '-' :: c :: text := by
  intro hText
  rcases hAlone with rfl | hFirst
  · cases hText
  · simp [hText] at hFirst

/-
  A text of short names, what it mentions, and the setting
  whose value it leaves to the next word.
-/
inductive ShortNames :
    List Char → List Mention → Option ValueOption → Prop
  | nil : ShortNames [] [] none
  | flag
      {c : Char}
      {f : Flag}
      {text : List Char}
      {mentions : List Mention}
      {awaited : Option ValueOption}
      (hLetter : c ∈ (OptionName.flag f).letters)
      (hText : ShortNames text mentions awaited) :
      ShortNames (c :: text) (.flag f :: mentions) awaited
  | glued
      {c : Char}
      {s : ValueOption}
      {value : List Char}
      (hLetter : c ∈ (OptionName.setting s).letters)
      (hNonempty : value ≠ [])
      (hEquals : value.head? ≠ some '=') :
      ShortNames (c :: value) [.setting s (String.ofList value)] none
  | attached
      {c : Char}
      {s : ValueOption}
      {value : List Char}
      (hLetter : c ∈ (OptionName.setting s).letters) :
      ShortNames (c :: '=' :: value)
        [.setting s (String.ofList value)] none
  | awaiting
      {c : Char}
      {s : ValueOption}
      (hLetter : c ∈ (OptionName.setting s).letters) :
      ShortNames [c] [] (some s)

theorem ShortNames.head?_ne_dash
    {text : List Char}
    {mentions : List Mention}
    {awaited : Option ValueOption}
    (hText : ShortNames text mentions awaited) :
    text.head? ≠ some '-' := by
  cases hText with
  | nil => simp
  | flag hLetter => simp [OptionName.ne_dash_of_mem_letters hLetter]
  | glued hLetter => simp [OptionName.ne_dash_of_mem_letters hLetter]
  | attached hLetter =>
    simp [OptionName.ne_dash_of_mem_letters hLetter]
  | awaiting hLetter =>
    simp [OptionName.ne_dash_of_mem_letters hLetter]

/-
  A word, what it mentions, and the setting whose value it
  leaves to the next word.
-/
inductive WritesWord :
    String → List Mention → Option ValueOption → Prop
  | flag
      {f : Flag}
      {name : String}
      (hName : name ∈ (OptionName.flag f).spellings) :
      WritesWord ("--" ++ name) [.flag f] none
  | attached
      {s : ValueOption}
      {name : String}
      (value : String)
      (hName : name ∈ (OptionName.setting s).spellings) :
      WritesWord ("--" ++ name ++ "=" ++ value)
        [.setting s value] none
  | awaiting
      {s : ValueOption}
      {name : String}
      (hName : name ∈ (OptionName.setting s).spellings) :
      WritesWord ("--" ++ name) [] (some s)
  | short
      {text : List Char}
      {mentions : List Mention}
      {awaited : Option ValueOption}
      (hNonempty : text ≠ [])
      (hText : ShortNames text mentions awaited) :
      WritesWord (String.ofList ('-' :: text)) mentions awaited

/-
  Words, and what they mention in this order.  The last of
  them may be two dashes, which mention nothing.
-/
inductive Writes : List String → List Mention → Prop
  | nil : Writes [] []
  | dashes : Writes ["--"] []
  | word
      {word : String}
      {words : List String}
      {here mentions : List Mention}
      (hWord : WritesWord word here none)
      (hWords : Writes words mentions) :
      Writes (word :: words) (here ++ mentions)
  | value
      {word value : String}
      {words : List String}
      {s : ValueOption}
      {here mentions : List Mention}
      (hWord : WritesWord word here (some s))
      (hAlone : StandsAlone value)
      (hWords : Writes words mentions) :
      Writes (word :: value :: words)
        (here ++ .setting s value :: mentions)

------------------------------------------------------------
-- Reading One Word
------------------------------------------------------------

namespace Options

theorem mentionAll_singleton
    (options : Options)
    (m : Mention) :
    options.mentionAll [m] = options.mention m := by
  simp only [mentionAll]
  cases options.mention m <;> rfl

theorem mentionAll_append
    {options : Options}
    (before behind : List Mention) :
    options.mentionAll (before ++ behind) =
      (options.mentionAll before).bind
        fun options => options.mentionAll behind := by
  induction before generalizing options with
  | nil => rfl
  | cons m before ih =>
    simp only [List.cons_append, mentionAll]
    cases options.mention m with
    | error e => rfl
    | ok next => exact ih

end Options

namespace Reading

/- Nothing is left to be applied, but a value may be awaited. -/
def standing
    (awaited : Option ValueOption)
    (options : Options) : Reading :=
  ⟨options, awaited.map fun s => (s, none)⟩

theorem flag_eq
    (reading : Reading)
    (f : Flag) :
    reading.flag f =
      reading.settle.bind fun options =>
        (options.mention (.flag f)).map (standing none) := by
  unfold flag
  cases reading.settle <;> rfl

theorem setting_eq
    (reading : Reading)
    (s : ValueOption)
    (value : String) :
    reading.setting s value =
      reading.settle.bind fun options =>
        (options.mention (.setting s value)).map (standing none) := by
  unfold setting
  cases reading.settle <;> rfl

theorem await_eq
    (reading : Reading)
    (s : ValueOption) :
    reading.await s = reading.settle.map (standing (some s)) := by
  unfold await
  cases reading.settle <;> rfl

/-
  The first short name settles what is pending, and the rest
  is read from there.
-/
theorem short_of_shortNames
    {reading : Reading}
    {text : List Char}
    {mentions : List Mention}
    {awaited : Option ValueOption}
    (hText : ShortNames text mentions awaited)
    (hNonempty : text ≠ []) :
    reading.short text =
      reading.settle.bind fun options =>
        (options.mentionAll mentions).map (standing awaited) := by
  induction hText generalizing reading with
  | nil => exact absurd rfl hNonempty
  | @flag c f text mentions awaited hLetter hText ih =>
    simp only [short, OptionName.ofShort?_eq_some_iff.2 hLetter,
      flag_eq]
    cases reading.settle with
    | error e => rfl
    | ok options =>
      simp only [Except.bind, Options.mentionAll]
      cases options.mention (.flag f) with
      | error e => rfl
      | ok next =>
        cases hText with
        | nil => rfl
        | flag => exact ih (by simp)
        | glued => exact ih (by simp)
        | attached => exact ih (by simp)
        | awaiting => exact ih (by simp)
  | @glued c s value hLetter hValue hEquals =>
    simp only [short, OptionName.ofShort?_eq_some_iff.2 hLetter,
      Options.mentionAll_singleton]
    split
    · exact absurd rfl hValue
    · exact absurd rfl hEquals
    · exact setting_eq reading s (String.ofList value)
  | @attached c s value hLetter =>
    simp only [short, OptionName.ofShort?_eq_some_iff.2 hLetter,
      Options.mentionAll_singleton]
    exact setting_eq reading s (String.ofList value)
  | @awaiting c s hLetter =>
    simp only [short, OptionName.ofShort?_eq_some_iff.2 hLetter,
      await_eq]
    rfl

/- A long name stands for its option. -/
theorem long_name
    (reading : Reading)
    {option : OptionName}
    {name : String}
    (hName : name ∈ option.spellings) :
    reading.long name.toList =
      match option with
      | .flag f => reading.flag f
      | .setting s => reading.await s := by
  have hAll := OptionName.bne_equals_of_mem_spellings hName
  simp only [long, List.takeWhile_eq_self_iff.2 hAll,
    List.dropWhile_eq_nil_iff.2 hAll, String.ofList_toList,
    OptionName.ofLong?_eq_some_iff.2 hName]
  cases option <;> rfl

/- The value of a long name begins behind the first equals sign. -/
theorem long_attached
    (reading : Reading)
    {s : ValueOption}
    {name : String}
    (value : List Char)
    (hName : name ∈ (OptionName.setting s).spellings) :
    reading.long (name.toList ++ '=' :: value) =
      reading.setting s (String.ofList value) := by
  have hAll := OptionName.bne_equals_of_mem_spellings hName
  simp only [long, List.takeWhile_append_of_pos hAll,
    List.dropWhile_append_of_pos hAll, bne_self_eq_false,
    List.takeWhile_cons, List.dropWhile_cons, Bool.false_eq_true,
    if_false, List.append_nil, String.ofList_toList,
    OptionName.ofLong?_eq_some_iff.2 hName]

theorem argument_long
    (reading : Reading)
    (text : String) :
    reading.argument ("--" ++ text) = reading.long text.toList := by
  simp only [argument, toList_dashes_append]

theorem argument_short
    (reading : Reading)
    {text : List Char}
    (hNonempty : text ≠ [])
    (hDash : text.head? ≠ some '-') :
    reading.argument (String.ofList ('-' :: text)) =
      reading.short text := by
  simp only [argument, String.toList_ofList]
  cases text with
  | nil => exact absurd rfl hNonempty
  | cons c text =>
    have hFirst : c ≠ '-' := by simpa using hDash
    split
    · next hText => exact absurd (List.cons.inj hText).2 (by simp [hFirst])
    · next hText => simp at hText
    · next hText => rw [(List.cons.inj hText).2]
    · next hText => exact absurd rfl (hText _)

theorem argument_of_writesWord
    (reading : Reading)
    {word : String}
    {mentions : List Mention}
    {awaited : Option ValueOption}
    (hWord : WritesWord word mentions awaited) :
    reading.argument word =
      reading.settle.bind fun options =>
        (options.mentionAll mentions).map (standing awaited) := by
  cases hWord with
  | @flag f name hName =>
    rw [argument_long, long_name reading hName]
    simp only [Options.mentionAll_singleton]
    exact flag_eq reading f
  | @attached s name value hName =>
    have hText :
        (name ++ ("=" ++ value)).toList =
          name.toList ++ '=' :: value.toList := by
      rw [String.toList_append, String.toList_append]
      rfl
    rw [String.append_assoc, String.append_assoc, argument_long,
      hText, long_attached reading _ hName, String.ofList_toList]
    simp only [Options.mentionAll_singleton]
    exact setting_eq reading s value
  | @awaiting s name hName =>
    rw [argument_long, long_name reading hName]
    exact await_eq reading s
  | short hNonempty hText =>
    rw [argument_short reading hNonempty hText.head?_ne_dash]
    exact short_of_shortNames hText hNonempty

------------------------------------------------------------
-- Reading All Words
------------------------------------------------------------

/- What stands alone is taken as the value that is awaited. -/
theorem argument_of_standsAlone
    {options : Options}
    {s : ValueOption}
    {value : String}
    (hAlone : StandsAlone value) :
    (standing (some s) options).argument value =
      .ok ⟨options, some (s, some value)⟩ := by
  have hTaken :
      (standing (some s) options).takeValue value =
        .ok ⟨options, some (s, some value)⟩ := rfl
  rcases hAlone with rfl | hFirst
  · exact hTaken
  · rw [argument]
    split
    · next hText => simp [hText] at hFirst
    · exact hTaken
    · next hText => simp [hText] at hFirst
    · exact hTaken

theorem ne_dashes_of_standsAlone
    {value : String}
    (hAlone : StandsAlone value) :
    value ≠ "--" := by
  rintro rfl
  exact hAlone.toList_ne '-' [] rfl

theorem ne_dashes_of_writesWord
    {word : String}
    {mentions : List Mention}
    {awaited : Option ValueOption}
    (hWord : WritesWord word mentions awaited) :
    word ≠ "--" := by
  intro hDashes
  have hList : word.toList = ['-', '-'] := by
    rw [hDashes]
    rfl
  cases hWord with
  | flag hName =>
    have hPlain := OptionName.plain_of_mem_spellings hName
    simp [String.toList_append, hPlain.1] at hList
  | attached value hName => simp [String.toList_append] at hList
  | awaiting hName =>
    have hPlain := OptionName.plain_of_mem_spellings hName
    simp [String.toList_append, hPlain.1] at hList
  | short hNonempty hText =>
    rw [String.toList_ofList, List.cons.injEq] at hList
    have hHead := hText.head?_ne_dash
    simp [hList.2] at hHead

/- Words amount to their mentions behind what is pending. -/
theorem arguments_of_writes
    {words : List String}
    {mentions : List Mention}
    (hWords : Writes words mentions)
    (reading : Reading) :
    reading.arguments words =
      reading.settle.bind fun options =>
        options.mentionAll mentions := by
  induction hWords generalizing reading with
  | nil =>
    rw [arguments]
    cases reading.settle <;> rfl
  | dashes =>
    simp only [arguments, beq_self_eq_true, if_true]
    cases reading.settle <;> rfl
  | @word word words here mentions hWord hWords ih =>
    simp only [arguments, beq_iff_eq,
      ne_dashes_of_writesWord hWord, if_false,
      argument_of_writesWord reading hWord,
      Options.mentionAll_append]
    cases reading.settle with
    | error e => rfl
    | ok options =>
      simp only [Except.bind]
      cases options.mentionAll here with
      | error e => rfl
      | ok next => exact ih (standing none next)
  | @value word value words s here mentions hWord hAlone hWords ih =>
    simp only [arguments, beq_iff_eq,
      ne_dashes_of_writesWord hWord, if_false,
      argument_of_writesWord reading hWord,
      Options.mentionAll_append]
    cases reading.settle with
    | error e => rfl
    | ok options =>
      simp only [Except.bind]
      cases options.mentionAll here with
      | error e => rfl
      | ok next =>
        simp only [Except.map, argument_of_standsAlone hAlone,
          ne_dashes_of_standsAlone hAlone, if_false]
        exact ih ⟨next, some (s, some value)⟩

/- Only short names can be read as short names. -/
theorem exists_shortNames_of_short
    {reading next : Reading}
    {text : List Char}
    (hRead : reading.short text = .ok next) :
    ∃ mentions awaited, ShortNames text mentions awaited := by
  induction text generalizing reading with
  | nil => exact ⟨[], none, .nil⟩
  | cons c rest ih =>
    rw [short.eq_def] at hRead
    simp only at hRead
    split at hRead
    · next f hLetter =>
      rw [OptionName.ofShort?_eq_some_iff] at hLetter
      split at hRead
      · cases hRead
      · rcases ih hRead with ⟨mentions, awaited, hRest⟩
        exact ⟨_, _, .flag hLetter hRest⟩
    · next s hLetter =>
      rw [OptionName.ofShort?_eq_some_iff] at hLetter
      cases rest with
      | nil => exact ⟨_, _, .awaiting hLetter⟩
      | cons first value =>
        by_cases hFirst : first = '='
        · subst hFirst
          exact ⟨_, _, .attached hLetter⟩
        · exact ⟨_, _, .glued hLetter (by simp) (by simp [hFirst])⟩
    · cases hRead

theorem exists_writesWord_of_long
    {reading next : Reading}
    {text : List Char}
    (hRead : reading.long text = .ok next) :
    ∃ mentions awaited,
      WritesWord (String.ofList ('-' :: '-' :: text)) mentions
        awaited := by
  have hText := @List.takeWhile_append_dropWhile _ (· != '=') text
  have hHead := List.head?_dropWhile_not (· != '=') text
  simp only [long] at hRead
  generalize text.takeWhile (· != '=') = name at hRead hText
  generalize text.dropWhile (· != '=') = behind
    at hRead hText hHead
  subst hText
  cases behind with
  | nil =>
    have hWord :
        String.ofList ('-' :: '-' :: (name ++ [])) =
          "--" ++ String.ofList name := by
      rw [← String.toList_inj]
      simp [String.toList_append]
    rw [hWord]
    simp only at hRead
    split at hRead
    · next f hName _ =>
      exact ⟨_, _, .flag (OptionName.ofLong?_eq_some_iff.1 hName)⟩
    · next hValue => cases hValue
    · next hValue => cases hValue
    · next s hName _ =>
      exact ⟨_, _, .awaiting (OptionName.ofLong?_eq_some_iff.1 hName)⟩
    · cases hRead
  | cons c value =>
    have hEquals : c = '=' := by simpa using hHead
    have hWord :
        String.ofList ('-' :: '-' :: (name ++ c :: value)) =
          "--" ++ String.ofList name ++ "=" ++ String.ofList value := by
      rw [← String.toList_inj]
      simp [String.toList_append, hEquals]
    rw [hWord]
    simp only at hRead
    split at hRead
    · next hValue => cases hValue
    · cases hRead
    · next s _ hName _ =>
      exact
        ⟨_, _, .attached _ (OptionName.ofLong?_eq_some_iff.1 hName)⟩
    · next hValue => cases hValue
    · cases hRead

/- A word that is read is a value that was awaited, or options. -/
theorem cases_of_argument
    {reading next : Reading}
    {word : String}
    (hRead : reading.argument word = .ok next) :
    (StandsAlone word ∧ reading.awaitsValue = true) ∨
      ∃ mentions awaited, WritesWord word mentions awaited := by
  have hTaken
      (hTaken : reading.takeValue word = .ok next) :
      reading.awaitsValue = true := by
    unfold takeValue at hTaken
    unfold awaitsValue
    split at hTaken
    · rfl
    · cases hTaken
  unfold argument at hRead
  split at hRead
  · next text hWord =>
    rw [← String.ofList_toList (s := word), hWord]
    exact .inr (exists_writesWord_of_long hRead)
  · next hWord =>
    have hDash : word = "-" := by
      rw [← String.toList_inj, hWord]
      rfl
    exact .inl ⟨.inl hDash, hTaken hRead⟩
  · next text hLong hDash hWord =>
    rcases exists_shortNames_of_short hRead with
      ⟨mentions, awaited, hText⟩
    rw [← String.ofList_toList (s := word), hWord]
    refine .inr ⟨mentions, awaited, .short ?_ hText⟩
    intro hText
    exact hDash (by rw [hText])
  · next hFirst =>
    refine .inl ⟨.inr ?_, hTaken hRead⟩
    intro hHead
    rcases List.head?_eq_some_iff.1 hHead with ⟨text, hText⟩
    exact hFirst text hText

theorem awaitsValue_of_settle
    {reading : Reading}
    {options : Options}
    (hSettle : reading.settle = .ok options) :
    reading.awaitsValue = false := by
  unfold settle at hSettle
  unfold awaitsValue
  split at hSettle
  · next hPending => simp [hPending]
  · next hPending => simp [hPending]
  · cases hSettle

theorem eq_standing_of_awaitsValue
    {reading : Reading}
    (hAwaits : reading.awaitsValue = true) :
    ∃ s, reading = standing (some s) reading.options := by
  unfold awaitsValue at hAwaits
  split at hAwaits
  · next s hPending =>
    refine ⟨s, ?_⟩
    cases reading
    cases hPending
    rfl
  · cases hAwaits

/- A word of options settles what is pending in front of it. -/
theorem exists_standing_of_argument
    {reading next : Reading}
    {word : String}
    {mentions : List Mention}
    {awaited : Option ValueOption}
    (hWord : WritesWord word mentions awaited)
    (hRead : reading.argument word = .ok next) :
    reading.awaitsValue = false ∧
      ∃ options, next = standing awaited options := by
  rw [argument_of_writesWord reading hWord] at hRead
  cases hSettle : reading.settle with
  | error e => simp [hSettle, Except.bind] at hRead
  | ok options =>
    refine ⟨awaitsValue_of_settle hSettle, ?_⟩
    simp only [hSettle, Except.bind] at hRead
    cases hAll : options.mentionAll mentions with
    | error e => simp [hAll, Except.map] at hRead
    | ok next =>
      simp only [hAll, Except.map, Except.ok.injEq] at hRead
      exact ⟨next, hRead.symm⟩

/-
  Words that are accepted mention options.  The induction is
  on the words; where a value is awaited, the first of them is
  that value, and what follows mentions options.
-/
theorem exists_writes_of_arguments
    {reading : Reading}
    {words : List String}
    {options : Options}
    (hRead : reading.arguments words = .ok options) :
    (reading.awaitsValue = false ∧
        ∃ mentions, Writes words mentions) ∨
      (reading.awaitsValue = true ∧
        ∃ value behind mentions,
          words = value :: behind ∧
          StandsAlone value ∧
          Writes behind mentions) := by
  induction words generalizing reading with
  | nil => exact .inl ⟨awaitsValue_of_settle hRead, [], .nil⟩
  | cons word words ih =>
    rw [arguments.eq_def] at hRead
    simp only at hRead
    split at hRead
    · next hDashes =>
      rw [beq_iff_eq] at hDashes
      subst hDashes
      cases words with
      | nil => exact .inl ⟨awaitsValue_of_settle hRead, [], .dashes⟩
      | cons extra words => cases hRead
    · split at hRead
      · cases hRead
      · next next hWord =>
        rcases cases_of_argument hWord with
          ⟨hAlone, hAwaits⟩ | ⟨here, awaited, hHere⟩
        · rcases eq_standing_of_awaitsValue hAwaits with ⟨s, hStanding⟩
          rw [hStanding, argument_of_standsAlone hAlone] at hWord
          cases hWord
          rcases ih hRead with ⟨-, mentions, hWords⟩ | ⟨hNext, -⟩
          · exact .inr ⟨hAwaits, _, _, mentions, rfl, hAlone, hWords⟩
          · cases hNext
        · rcases exists_standing_of_argument hHere hWord with
            ⟨hAwaits, stood, rfl⟩
          refine .inl ⟨hAwaits, ?_⟩
          rcases ih hRead with
            ⟨hNext, mentions, hWords⟩ |
            ⟨hNext, value, behind, mentions, rfl, hAlone, hBehind⟩
          · cases awaited with
            | none => exact ⟨_, .word hHere hWords⟩
            | some s => cases hNext
          · cases awaited with
            | none => cases hNext
            | some s => exact ⟨_, .value hHere hAlone hBehind⟩

/- What is accepted, and what comes of it. -/
theorem arguments_eq_ok_iff
    {words : List String}
    {options : Options} :
    start.arguments words = .ok options ↔
      ∃ mentions,
        Writes words mentions ∧
        Options.none.mentionAll mentions = .ok options := by
  constructor
  · intro hRead
    rcases exists_writes_of_arguments hRead with
      ⟨-, mentions, hWords⟩ | ⟨hAwaits, -⟩
    · refine ⟨mentions, hWords, ?_⟩
      rw [arguments_of_writes hWords] at hRead
      exact hRead
    · cases hAwaits
  · rintro ⟨mentions, hWords, hMentions⟩
    rw [arguments_of_writes hWords]
    exact hMentions

end Reading

end TreeLint
