import Mathlib.Data.List.Count
import TreeLint.Proofs.Command.Writing

/-
  Options and the mentions that amount to them.

  Key definitions include:
    * `Options.isOn`
    * `Options.IsWrittenBy`

  Key theorems include:
    * `Options.IsWrittenBy.mentionAll_eq_ok_iff`
    * `Options.arguments_eq_ok_iff`
    * `written_options_read_back`

  Mentions write options when they count up to them, in any
  order.  Taking account of one more mention keeps this, and a
  mention that the count leaves room for is not refused, so
  what comes of mentions are the options that they write.
-/

------------------------------------------------------------
-- Options Written By Mentions
------------------------------------------------------------

namespace TreeLint

/- The value that a mention gives a setting. -/
def Mention.valueFor? (s : ValueOption) : Mention → Option String
  | .flag _ => none
  | .setting mentioned value =>
    if mentioned = s then some value else none

namespace Options

/- Whether a flag has been given. -/
def isOn (options : Options) : Flag → Bool
  | .cpp => options.cpp
  | .javaScript => options.javaScript
  | .python => options.python
  | .changed => options.changed
  | .dryRun => options.dryRun
  | .list => options.list
  | .verbose => options.verbose != 0
  | .quiet => options.quiet
  | .help => false
  | .version => false

/- The value of a setting. -/
def valueOf? (options : Options) : ValueOption → Option String
  | .directory => options.directory
  | .config => options.config

/-
  The mentions of exactly these options, in any order.  Each
  flag that is on is mentioned once, except that the
  verbosity counts its mentions up to 255.  Each setting that
  has a value is mentioned once, with this value, which is a
  text.
-/
structure IsWrittenBy
    (options : Options)
    (mentions : List Mention) : Prop where
  flags :
    ∀ f, f ≠ .verbose →
      mentions.count (.flag f) = (options.isOn f).toNat
  verbose :
    options.verbose = min 255 (mentions.count (.flag .verbose))
  settings :
    ∀ s,
      mentions.filterMap (Mention.valueFor? s) =
        (options.valueOf? s).toList
  texts :
    ∀ s, ∀ value ∈ options.valueOf? s, RawByte.isText value = true

------------------------------------------------------------
-- Single Mentions
------------------------------------------------------------

/- The options behind a flag that they did not refuse. -/
def switched (options : Options) : Flag → Options
  | .cpp => { options with cpp := true }
  | .javaScript => { options with javaScript := true }
  | .python => { options with python := true }
  | .changed => { options with changed := true }
  | .dryRun => { options with dryRun := true }
  | .list => { options with list := true }
  | .verbose => { options with verbose := min 255 (options.verbose + 1) }
  | .quiet => { options with quiet := true }
  | .help => options
  | .version => options

/- The options behind a setting that they did not refuse. -/
def withValue
    (options : Options)
    (s : ValueOption)
    (value : String) : Options :=
  match s with
  | .directory => { options with directory := some value }
  | .config => { options with config := some value }

variable {options next written : Options}
variable {before behind : List Mention}

theorem switchOn_eq_ok_iff
    {f : Flag}
    {isOn : Bool} :
    switchOn f isOn options = .ok next ↔
      isOn = false ∧ next = options := by
  cases isOn <;> simp [switchOn, eq_comm]

/- The flags that ask for something else are never accepted. -/
theorem applyFlag_eq_ok_iff
    {f : Flag} :
    options.applyFlag f = .ok next ↔
      f ≠ .help ∧ f ≠ .version ∧
        (f ≠ .verbose → options.isOn f = false) ∧
        next = options.switched f := by
  cases f with
  | verbose => simpa [applyFlag, switched] using eq_comm
  | help => simp [applyFlag]
  | version => simp [applyFlag]
  | _ => simp [applyFlag, switchOn_eq_ok_iff, isOn, switched]

theorem applyValue_eq_ok_iff
    {s : ValueOption}
    {value : String} :
    options.applyValue s value = .ok next ↔
      options.valueOf? s = .none ∧
        RawByte.isText value = true ∧
        next = options.withValue s value := by
  cases s with
  | directory =>
    cases hValue : options.directory <;>
      by_cases hText : RawByte.isText value = true <;>
      simp [applyValue, textValue, valueOf?, withValue, hValue, hText,
        Except.map, eq_comm]
  | config =>
    cases hValue : options.config <;>
      by_cases hText : RawByte.isText value = true <;>
      simp [applyValue, textValue, valueOf?, withValue, hValue, hText,
        Except.map, eq_comm]

theorem toNat_isOn_switched
    {f g : Flag}
    (hOff : f ≠ .verbose → options.isOn f = false)
    (hOnce : g ≠ .verbose)
    (hHelp : f ≠ .help)
    (hVersion : f ≠ .version) :
    ((options.switched f).isOn g).toNat =
      (options.isOn g).toNat + if f = g then 1 else 0 := by
  cases f <;> cases g <;> simp_all [isOn, switched]

theorem verbose_switched
    (f : Flag) :
    (options.switched f).verbose =
      if f = .verbose then min 255 (options.verbose + 1)
      else options.verbose := by
  cases f <;> rfl

theorem valueOf?_switched
    (f : Flag)
    (s : ValueOption) :
    (options.switched f).valueOf? s = options.valueOf? s := by
  cases f <;> rfl

theorem isOn_withValue
    (s : ValueOption)
    (value : String) :
    (options.withValue s value).isOn = options.isOn := by
  cases s <;> rfl

theorem verbose_withValue
    (s : ValueOption)
    (value : String) :
    (options.withValue s value).verbose = options.verbose := by
  cases s <;> rfl

theorem valueOf?_withValue
    (s asked : ValueOption)
    (value : String) :
    (options.withValue s value).valueOf? asked =
      if s = asked then some value else options.valueOf? asked := by
  cases s <;> cases asked <;> rfl

/- Options are told by their flags, verbosity and values. -/
theorem eq_of_isOn_eq
    (hFlags : ∀ f, f ≠ .verbose → options.isOn f = next.isOn f)
    (hVerbose : options.verbose = next.verbose)
    (hValues : ∀ s, options.valueOf? s = next.valueOf? s) :
    options = next := by
  have hCpp := hFlags .cpp (by decide)
  have hJavaScript := hFlags .javaScript (by decide)
  have hPython := hFlags .python (by decide)
  have hChanged := hFlags .changed (by decide)
  have hDryRun := hFlags .dryRun (by decide)
  have hList := hFlags .list (by decide)
  have hQuiet := hFlags .quiet (by decide)
  have hDirectory := hValues .directory
  have hConfig := hValues .config
  cases options
  cases next
  simp_all [isOn, valueOf?]

------------------------------------------------------------
-- One More Mention
------------------------------------------------------------

/- What is mentioned is taken account of. -/
theorem IsWrittenBy.mention
    {m : Mention}
    (hWritten : options.IsWrittenBy before)
    (hMention : options.mention m = .ok next) :
    next.IsWrittenBy (before ++ [m]) := by
  cases m with
  | flag f =>
    rcases applyFlag_eq_ok_iff.1 hMention with
      ⟨hHelp, hVersion, hOff, rfl⟩
    constructor
    · intro g hOnce
      rw [toNat_isOn_switched hOff hOnce hHelp hVersion,
        ← hWritten.flags g hOnce]
      simp [List.count_append, List.count_singleton]
    · rw [verbose_switched, hWritten.verbose]
      by_cases hVerbose : f = .verbose
      · subst hVerbose
        simp [List.count_append]
        omega
      · simp [List.count_append, hVerbose]
    · intro s
      rw [valueOf?_switched, ← hWritten.settings s]
      simp [List.filterMap_append, Mention.valueFor?]
    · intro s
      rw [valueOf?_switched]
      exact hWritten.texts s
  | setting s value =>
    rcases applyValue_eq_ok_iff.1 hMention with ⟨hUnset, hText, rfl⟩
    constructor
    · intro g hOnce
      rw [isOn_withValue, ← hWritten.flags g hOnce]
      simp [List.count_append]
    · rw [verbose_withValue, hWritten.verbose]
      simp [List.count_append]
    · intro asked
      rw [valueOf?_withValue, List.filterMap_append,
        hWritten.settings asked]
      by_cases hAsked : s = asked
      · subst hAsked
        simp [hUnset, Mention.valueFor?]
      · simp [hAsked, Mention.valueFor?]
    · intro asked other hOther
      rw [valueOf?_withValue] at hOther
      split at hOther
      · rwa [← Option.some.inj hOther]
      · exact hWritten.texts asked other hOther

/- What may still be mentioned is accepted. -/
theorem IsWrittenBy.exists_mention
    {m : Mention}
    (hWritten : options.IsWrittenBy before)
    (hWhole : written.IsWrittenBy (before ++ m :: behind)) :
    ∃ next, options.mention m = .ok next := by
  cases m with
  | flag f =>
    have hCount
        (hOnce : f ≠ .verbose) :
        before.count (.flag f) + 1 ≤ (written.isOn f).toNat := by
      rw [← hWhole.flags f hOnce]
      simp [List.count_append]
    refine ⟨_, applyFlag_eq_ok_iff.2 ⟨?_, ?_, ?_, rfl⟩⟩
    · rintro rfl
      have hNone := hCount (by decide)
      simp [isOn] at hNone
    · rintro rfl
      have hNone := hCount (by decide)
      simp [isOn] at hNone
    · intro hOnce
      have hLess := hCount hOnce
      have hMost := Bool.toNat_le (written.isOn f)
      rw [hWritten.flags f hOnce] at hLess
      rw [← Bool.toNat_eq_zero]
      omega
  | setting s value =>
    have hValues := hWhole.settings s
    rw [List.filterMap_append, hWritten.settings s] at hValues
    refine ⟨_, applyValue_eq_ok_iff.2 ⟨?_, ?_, rfl⟩⟩
    · cases hUnset : options.valueOf? s with
      | none => rfl
      | some old =>
        have hLength := congrArg List.length hValues
        have hMost : (written.valueOf? s).toList.length ≤ 1 :=
          Option.length_toList_le
        simp [hUnset, Mention.valueFor?] at hLength
        omega
    · apply hWhole.texts s value
      apply Option.mem_toList.mp
      rw [← hValues]
      simp [Mention.valueFor?]

/- The mentions tell the options. -/
theorem IsWrittenBy.unique
    (hWritten : options.IsWrittenBy before)
    (hNext : next.IsWrittenBy before) :
    options = next := by
  apply eq_of_isOn_eq
  · intro f hOnce
    rw [Bool.eq_iff_iff, ← Bool.toNat_eq_one, ← Bool.toNat_eq_one,
      ← hWritten.flags f hOnce, ← hNext.flags f hOnce]
  · rw [hWritten.verbose, hNext.verbose]
  · intro s
    have hValues := hWritten.settings s
    rw [hNext.settings s] at hValues
    simpa using (congrArg List.head? hValues).symm

------------------------------------------------------------
-- All Mentions
------------------------------------------------------------

theorem isWrittenBy_none : none.IsWrittenBy [] := by
  constructor
  · intro f hOnce
    cases f <;> rfl
  · rfl
  · intro s
    cases s <;> rfl
  · intro s value hValue
    cases s <;> cases hValue

theorem IsWrittenBy.mentionAll_eq_ok_iff
    (hWritten : options.IsWrittenBy before) :
    options.mentionAll behind = .ok written ↔
      written.IsWrittenBy (before ++ behind) := by
  induction behind generalizing options before with
  | nil =>
    rw [List.append_nil, mentionAll, Except.ok.injEq]
    constructor
    · rintro rfl
      exact hWritten
    · exact hWritten.unique
  | cons m behind ih =>
    rw [mentionAll]
    constructor
    · intro hAll
      cases hMention : options.mention m with
      | error e => simp [hMention, Except.bind] at hAll
      | ok next =>
        simp only [hMention, Except.bind] at hAll
        have hBehind := (ih (hWritten.mention hMention)).1 hAll
        rwa [List.append_assoc] at hBehind
    · intro hWhole
      rcases hWritten.exists_mention hWhole with ⟨next, hMention⟩
      simp only [hMention, Except.bind]
      rw [ih (hWritten.mention hMention), List.append_assoc]
      exact hWhole

theorem mentionAll_none_eq_ok_iff
    {mentions : List Mention} :
    none.mentionAll mentions = .ok written ↔
      written.IsWrittenBy mentions :=
  isWrittenBy_none.mentionAll_eq_ok_iff

/- Exactly the words that write options are accepted. -/
theorem arguments_eq_ok_iff
    {words : List String} :
    Reading.start.arguments words = .ok options ↔
      ∃ mentions,
        Writes words mentions ∧ options.IsWrittenBy mentions := by
  simp only [Reading.arguments_eq_ok_iff, mentionAll_none_eq_ok_iff]

end Options

------------------------------------------------------------
-- Reading Options Back
------------------------------------------------------------

/- The flag that asks for a language. -/
def Language.flag : Language → Flag
  | .cpp => .cpp
  | .python => .python
  | .javaScript => .javaScript

/-
  Words that write exactly some options are accepted, and the
  options are what is read, whatever the order of the words,
  the names that are used and the way values are attached.
-/
theorem written_options_read_back
    {env : List (String × String)}
    {options : Options}
    {words : List String}
    {mentions : List Mention}
    (hUnset : env.lookup Options.configVariable = none)
    (hWords : Writes words mentions)
    (hWritten : options.IsWrittenBy mentions) :
    Options.parse env words = .ok options ∧
      options.languages.Nodup ∧
      ∀ language,
        language ∈ options.languages ↔
          options.isOn language.flag = true := by
  have hRead : Reading.start.arguments words = .ok options :=
    Options.arguments_eq_ok_iff.2 ⟨mentions, hWords, hWritten⟩
  refine ⟨?_, ?_, ?_⟩
  · unfold Options.parse Options.completed
    simp only [hRead, hUnset]
    split
    · next hValue => cases hValue
    · rfl
  · unfold Options.languages
    cases options.cpp <;> cases options.python <;>
      cases options.javaScript <;> decide
  · intro language
    unfold Options.languages
    cases language <;>
      simp [Options.isOn, Language.flag]

/-
  A bundle that ends in a setting, a lone dash as its value,
  an alias, an empty value and a repeated flag.
-/
theorem bundled_options_read_back :
    Options.parse []
        ["-qvC", "-", "--c++", "--config=", "-v"] =
      .ok
        { Options.none with
          quiet := true
          verbose := 2
          directory := some "-"
          cpp := true
          config := some "" } := by
  have hBundle :
      WritesWord "-qvC" [.flag .quiet, .flag .verbose]
        (some .directory) :=
    .short (by decide)
      (.flag (by decide) (.flag (by decide) (.awaiting (by decide))))
  have hCpp : WritesWord "--c++" [.flag .cpp] none :=
    @WritesWord.flag .cpp "c++" (by decide)
  have hConfig : WritesWord "--config=" [.setting .config ""] none :=
    @WritesWord.attached .config "config" "" (by decide)
  have hVerbose : WritesWord "-v" [.flag .verbose] none :=
    .short (by decide) (.flag (by decide) .nil)
  have hWords :=
    Writes.value hBundle (.inl rfl)
      (.word hCpp (.word hConfig (.word hVerbose .nil)))
  refine (written_options_read_back rfl hWords ?_).1
  constructor
  · intro f hOnce
    cases f <;> first | decide | exact absurd rfl hOnce
  · decide
  · intro s
    cases s <;> decide
  · intro s value hValue
    cases s with
    | directory =>
      cases hValue
      rfl
    | config =>
      cases hValue
      rfl

end TreeLint
