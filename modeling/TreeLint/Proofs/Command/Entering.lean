import TreeLint.Command.Process
import TreeLint.Proofs.Command.Written
import TreeLint.Proofs.Config.Priority
import TreeLint.Proofs.FileTree.Grounded

/-
  Entering a directory, and starting there.

  Key definitions include:
    * `cutDirectory`
    * `withoutDirectory`

  Key theorems include:
    * `writes_withoutDirectory`
    * `Options.parse_withoutDirectory`
    * `directory_option_starts_there`

  The directory can be cut out of the words of a command line,
  wherever it stands in them.  What is left asks for the same
  options but for the directory.
-/

------------------------------------------------------------
-- Words Without The Directory
------------------------------------------------------------

namespace TreeLint

/- What is left of short names, cut in front of the directory. -/
def cutShort (text : List Char) : List String × Bool :=
  let flags := text.takeWhile (· != 'C')
  (if flags.isEmpty then [] else [String.ofList ('-' :: flags)],
    text.dropWhile (· != 'C') == ['C'])

/-
  What is left of a word without the directory, and whether
  the next word is the directory.
-/
def cutDirectory (word : String) : List String × Bool :=
  if word = "--directory" then
    ([], true)
  else
    match word.toList with
    | '-' :: '-' :: text =>
      if "directory=".toList.isPrefixOf text then ([], false)
      else ([word], false)
    | '-' :: c :: text => cutShort (c :: text)
    | _ => ([word], false)

/- A command line without its directory. -/
def withoutDirectory : List String → List String
  | [] => []
  | [word] => (cutDirectory word).1
  | word :: next :: words =>
    match cutDirectory word with
    | (left, true) => left ++ withoutDirectory words
    | (left, false) => left ++ withoutDirectory (next :: words)

/- Whether a mention is not of the directory. -/
def Mention.isOther : Mention → Bool
  | .setting .directory _ => false
  | _ => true

/- At most one word, and what it mentions by itself. -/
inductive WritesLeft : List String → List Mention → Prop
  | none : WritesLeft [] []
  | word
      {word : String}
      {mentions : List Mention}
      (hWord : WritesWord word mentions .none) :
      WritesLeft [word] mentions

theorem WritesLeft.append
    {left words : List String}
    {here mentions : List Mention}
    (hLeft : WritesLeft left here)
    (hWords : Writes words mentions) :
    Writes (left ++ words) (here ++ mentions) := by
  cases hLeft with
  | none => exact hWords
  | word hWord => exact .word hWord hWords

------------------------------------------------------------
-- Cutting Single Words
------------------------------------------------------------

theorem ne_of_mem_letters
    {c : Char}
    {f : Flag}
    (hLetter : c ∈ (OptionName.flag f).letters) :
    c ≠ 'C' := by
  rintro rfl
  have hDirectory : OptionName.ofShort? 'C' = some (.setting .directory) := by
    decide
  rw [OptionName.ofShort?_eq_some_iff.2 hLetter] at hDirectory
  cases hDirectory

/- Short names in front of the directory are flags. -/
theorem shortNames_takeWhile
    {text : List Char}
    {mentions : List Mention}
    {awaited : Option ValueOption}
    (hText : ShortNames text mentions awaited) :
    ShortNames (text.takeWhile (· != 'C'))
        (mentions.filter Mention.isOther) none ∧
      ((text.dropWhile (· != 'C') = [] ∧ awaited = none) ∨
        (text.dropWhile (· != 'C') = ['C'] ∧
          awaited = some .directory) ∨
        ∃ value,
          value ≠ [] ∧ text.dropWhile (· != 'C') = 'C' :: value ∧
            awaited = none) := by
  induction hText with
  | nil => exact ⟨.nil, .inl ⟨rfl, rfl⟩⟩
  | @flag c f text mentions awaited hLetter hText ih =>
    have hOther : (c != 'C') = true := by
      simpa using ne_of_mem_letters hLetter
    have hKept : (Mention.flag f).isOther = true := rfl
    simp only [List.takeWhile_cons, List.dropWhile_cons, hOther,
      if_true, List.filter_cons, hKept]
    exact ⟨.flag hLetter ih.1, ih.2⟩
  | @glued c s value hLetter hNonempty hEquals =>
    rcases OptionName.eq_directory_of_mem_letters hLetter with ⟨rfl, rfl⟩
    exact ⟨.nil, .inr (.inr ⟨value, hNonempty, rfl, rfl⟩)⟩
  | @attached c s value hLetter =>
    rcases OptionName.eq_directory_of_mem_letters hLetter with ⟨rfl, rfl⟩
    exact ⟨.nil, .inr (.inr ⟨'=' :: value, by simp, rfl, rfl⟩)⟩
  | @awaiting c s hLetter =>
    rcases OptionName.eq_directory_of_mem_letters hLetter with ⟨rfl, rfl⟩
    exact ⟨.nil, .inr (.inl ⟨rfl, rfl⟩)⟩

theorem cutShort_of_shortNames
    {text : List Char}
    {mentions : List Mention}
    {awaited : Option ValueOption}
    (hText : ShortNames text mentions awaited) :
    awaited ≠ some .config ∧
      ∃ left,
        cutShort text = (left, awaited == some .directory) ∧
        WritesLeft left (mentions.filter Mention.isOther) := by
  rcases shortNames_takeWhile hText with ⟨hFlags, hBehind⟩
  have hLeft :
      WritesLeft (cutShort text).1 (mentions.filter Mention.isOther) := by
    unfold cutShort
    generalize mentions.filter Mention.isOther = others at hFlags
    cases hCut : text.takeWhile (· != 'C') with
    | nil =>
      rw [hCut] at hFlags
      cases hFlags
      exact .none
    | cons c flags =>
      rw [hCut] at hFlags
      exact .word (.short (List.cons_ne_nil _ _) hFlags)
  rcases hBehind with ⟨hNone, rfl⟩ | ⟨hLast, rfl⟩ |
    ⟨value, hSome, hValue, rfl⟩
  · exact ⟨by simp, _, Prod.ext rfl (by simp [cutShort, hNone]), hLeft⟩
  · exact ⟨by simp, _, Prod.ext rfl (by simp [cutShort, hLast]), hLeft⟩
  · exact
      ⟨by simp, _, Prod.ext rfl (by simp [cutShort, hValue, hSome]),
        hLeft⟩

theorem cutDirectory_long
    (text : String) :
    cutDirectory ("--" ++ text) =
      if text = "directory" then ([], true)
      else if "directory=".toList.isPrefixOf text.toList then ([], false)
      else (["--" ++ text], false) := by
  have hWhole : "--" ++ text = "--directory" ↔ text = "directory" := by
    rw [← String.toList_inj, ← String.toList_inj, toList_dashes_append]
    simp
  simp only [cutDirectory, toList_dashes_append, hWhole]

/- A long name without a value is cut only from the directory. -/
theorem cutDirectory_name
    {option : OptionName}
    {name : String}
    (hName : name ∈ option.spellings)
    (hOther : option ≠ .setting .directory) :
    cutDirectory ("--" ++ name) = (["--" ++ name], false) := by
  have hNe : name ≠ "directory" := by
    rintro rfl
    have hDirectory :
        OptionName.ofLong? "directory" =
          some (.setting .directory) := by
      decide
    rw [OptionName.ofLong?_eq_some_iff.2 hName] at hDirectory
    exact hOther (Option.some.inj hDirectory)
  have hFront :
      ¬ "directory=".toList.isPrefixOf name.toList = true := by
    intro hPrefix
    have hEquals : '=' ∈ name.toList :=
      (List.isPrefixOf_iff_prefix.1 hPrefix).subset (by decide)
    exact (OptionName.plain_of_mem_spellings hName).2 hEquals
  rw [cutDirectory_long, if_neg hNe, if_neg hFront]

theorem cutDirectory_short
    {text : List Char}
    (hNonempty : text ≠ [])
    (hDash : text.head? ≠ some '-') :
    cutDirectory (String.ofList ('-' :: text)) = cutShort text := by
  have hOther : String.ofList ('-' :: text) ≠ "--directory" := by
    intro hWord
    rw [← String.toList_inj, String.toList_ofList] at hWord
    rw [(List.cons.inj hWord).2] at hDash
    exact hDash (by decide)
  rw [cutDirectory, if_neg hOther, String.toList_ofList]
  split
  · next hText => simp [(List.cons.inj hText).2] at hDash
  · next hText => rw [(List.cons.inj hText).2]
  · next hText =>
    cases text with
    | nil => exact absurd rfl hNonempty
    | cons c text => exact absurd rfl (hText c text)

/- A word whose value is the configuration is left as it is. -/
theorem cutDirectory_of_writesWord
    {word : String}
    {mentions : List Mention}
    {awaited : Option ValueOption}
    (hWord : WritesWord word mentions awaited) :
    (awaited = some .config ∧ cutDirectory word = ([word], false) ∧
        mentions = []) ∨
      (awaited ≠ some .config ∧
        ∃ left,
          cutDirectory word = (left, awaited == some .directory) ∧
          WritesLeft left (mentions.filter Mention.isOther)) := by
  cases hWord with
  | @flag f name hName =>
    exact
      .inr ⟨by simp, _, cutDirectory_name hName (by simp),
        .word (.flag hName)⟩
  | @attached s name value hName =>
    refine .inr ⟨by simp, ?_⟩
    cases s with
    | directory =>
      have hDirectory : name = "directory" := by
        simpa [OptionName.spellings] using hName
      subst hDirectory
      refine ⟨[], ?_, .none⟩
      rw [String.append_assoc, String.append_assoc, cutDirectory_long]
      simp [← String.toList_inj, String.toList_append]
    | config =>
      have hConfig : name = "config" := by
        simpa [OptionName.spellings] using hName
      subst hConfig
      refine ⟨_, ?_, .word (.attached value hName)⟩
      rw [String.append_assoc, String.append_assoc, cutDirectory_long]
      simp [← String.toList_inj, String.toList_append]
  | @awaiting s name hName =>
    cases s with
    | directory =>
      have hDirectory : name = "directory" := by
        simpa [OptionName.spellings] using hName
      subst hDirectory
      exact .inr ⟨by simp, [], by decide, .none⟩
    | config =>
      exact .inl ⟨rfl, cutDirectory_name hName (by simp), rfl⟩
  | @short text mentions awaited hNonempty hText =>
    rw [cutDirectory_short hNonempty hText.head?_ne_dash]
    exact .inr (cutShort_of_shortNames hText)

theorem cutDirectory_of_standsAlone
    {value : String}
    (hAlone : StandsAlone value) :
    cutDirectory value = ([value], false) := by
  have hOther : value ≠ "--directory" := by
    rintro rfl
    exact hAlone.toList_ne '-' "directory".toList rfl
  rw [cutDirectory, if_neg hOther]
  split
  · next hText => exact absurd hText (hAlone.toList_ne _ _)
  · next hText => exact absurd hText (hAlone.toList_ne _ _)
  · rfl

------------------------------------------------------------
-- Cutting Command Lines
------------------------------------------------------------

theorem withoutDirectory_cons
    {word : String}
    {left : List String}
    (words : List String)
    (hCut : cutDirectory word = (left, false)) :
    withoutDirectory (word :: words) =
      left ++ withoutDirectory words := by
  cases words with
  | nil => simp [withoutDirectory, hCut]
  | cons next words => simp only [withoutDirectory, hCut]

/- What is left of words mentions what else they mention. -/
theorem writes_withoutDirectory
    {words : List String}
    {mentions : List Mention}
    (hWords : Writes words mentions) :
    Writes (withoutDirectory words)
      (mentions.filter Mention.isOther) := by
  induction hWords with
  | nil => exact .nil
  | dashes => exact .dashes
  | @word word words here mentions hWord hWords ih =>
    rcases cutDirectory_of_writesWord hWord with
      ⟨hConfig, -⟩ | ⟨-, left, hCut, hLeft⟩
    · cases hConfig
    · rw [withoutDirectory_cons words hCut, List.filter_append]
      exact hLeft.append ih
  | @value word value words s here mentions hWord hAlone hWords ih =>
    rcases cutDirectory_of_writesWord hWord with
      ⟨hConfig, hCut, hNone⟩ | ⟨hOther, left, hCut, hLeft⟩
    · cases hConfig
      subst hNone
      rw [withoutDirectory_cons _ hCut,
        withoutDirectory_cons _ (cutDirectory_of_standsAlone hAlone)]
      exact .value hWord hAlone ih
    · have hDirectory : s = .directory := by
        cases s with
        | directory => rfl
        | config => exact absurd rfl hOther
      subst hDirectory
      rw [withoutDirectory]
      simp only [hCut, beq_self_eq_true, List.filter_append]
      exact hLeft.append ih

------------------------------------------------------------
-- Options Without The Directory
------------------------------------------------------------

namespace Options

theorem IsWrittenBy.without_directory
    {options : Options}
    {mentions : List Mention}
    (hWritten : options.IsWrittenBy mentions) :
    { options with directory := .none }.IsWrittenBy
      (mentions.filter Mention.isOther) := by
  have hCount
      (f : Flag) :
      (mentions.filter Mention.isOther).count (.flag f) =
        mentions.count (.flag f) :=
    List.count_filter rfl
  constructor
  · intro f hOnce
    rw [hCount, hWritten.flags f hOnce]
    cases f <;> rfl
  · rw [hCount]
    exact hWritten.verbose
  · intro s
    rw [List.filterMap_filter]
    cases s with
    | directory =>
      apply List.filterMap_eq_nil_iff.2
      intro m _
      cases m with
      | flag f => rfl
      | setting s value => cases s <;> rfl
    | config =>
      have hSettings := hWritten.settings .config
      rw [valueOf?] at hSettings ⊢
      rw [← hSettings]
      apply List.filterMap_congr
      intro m _
      cases m with
      | flag f => rfl
      | setting s value => cases s <;> rfl
  · intro s value hValue
    cases s with
    | directory => cases hValue
    | config => exact hWritten.texts .config value hValue

/- The variable counts alike with and without a directory. -/
theorem completed_without_directory
    {env : List (String × String)}
    {written options : Options}
    (hCompleted : written.completed env = .ok options) :
    { written with directory := .none }.completed env =
      .ok { options with directory := .none } := by
  unfold completed at hCompleted ⊢
  split at hCompleted
  · next value hConfig hValue =>
    simp only [hConfig, hValue]
    cases hText : textValue value with
    | error error => simp [hText, Except.map] at hCompleted
    | ok value =>
      rw [hText] at hCompleted
      rw [← Except.ok.inj hCompleted]
      rfl
  · rw [Except.ok.inj hCompleted]

theorem parse_withoutDirectory
    {env : List (String × String)}
    {args : List String}
    {options : Options}
    (hParsed : parse env args = .ok options) :
    parse env (withoutDirectory args) =
      .ok { options with directory := .none } := by
  unfold parse at hParsed ⊢
  cases hRead : Reading.start.arguments args with
  | error e => simp [hRead] at hParsed
  | ok written =>
    simp only [hRead] at hParsed
    rcases arguments_eq_ok_iff.1 hRead with ⟨mentions, hWords, hWritten⟩
    have hLeft :
        Reading.start.arguments (withoutDirectory args) =
          .ok { written with directory := .none } :=
      arguments_eq_ok_iff.2
        ⟨_, writes_withoutDirectory hWords, hWritten.without_directory⟩
    simp only [hLeft]
    exact completed_without_directory hParsed

/- Once it is entered, the directory asked for is forgotten. -/
theorem run_of_directory
    {σ : Type}
    {host : Host σ}
    {session : Session}
    {state : σ}
    {options : Options}
    {directory : String}
    {loc : Location}
    (hDirectory : options.directory = some directory)
    (hLoc :
      (host.files state).directory? session.cwd directory = some loc) :
    options.run host session state =
      { options with directory := .none }.run host
        { session with cwd := loc } state := by
  have hEnter :
      options.enter (host.files state) session =
        .ok { session with cwd := loc } := by
    simp [enter, hDirectory, hLoc]
  unfold run
  rw [hEnter]
  rfl

end Options

------------------------------------------------------------
-- Starting There
------------------------------------------------------------

/-
  A command line with a directory does in the working
  directory what it does without the directory in the place
  that the directory is, seen from the working directory.
-/
theorem directory_option_starts_there
    {σ : Type}
    {host : Host σ}
    {session : Session}
    {state : σ}
    {args : List String}
    {options : Options}
    {directory : Path}
    {loc : Location}
    (hParsed : Options.parse session.env args = .ok options)
    (hDirectory : options.directory = some directory)
    (hSome : directory ≠ "")
    (hGrounded : (host.files state).IsGrounded session.cwd)
    (hLoc :
      (host.files state).directory? []
        (session.directory.join directory) = some loc) :
    let plain := { options with directory := .none }
    let there := { session with cwd := loc }
    Options.parse there.env (withoutDirectory args) = .ok plain ∧
      options.run host session state = plain.run host there state ∧
      Exit.ofTrace (options.console session.wantsStyles)
          (options.run host session state) =
        Exit.ofTrace (plain.console there.wantsStyles)
          (plain.run host there state) := by
  have hEntered :=
    FileTree.directory?_of_join hGrounded hSome hLoc
  have hRun := Options.run_of_directory hDirectory hEntered
  refine ⟨Options.parse_withoutDirectory hParsed, hRun, ?_⟩
  rw [hRun]
  rfl

------------------------------------------------------------
-- A Directory Behind A Link
------------------------------------------------------------

namespace LinkedDirectory

/- Settings that leave no linter. -/
def text : String := "linters = []\n"

/- The settings lie in the place that the link leads to. -/
def tree : FileTree where
  nodes :=
    [ (["w"], .directory),
      (["w", "link"], .link "../srv"),
      (["srv"], .directory),
      (["srv", "lint.toml"], .file (Utf8.encode text) false) ]

def host : Host Unit where
  files := fun _ => tree
  start := fun _ state => (none, state)

def session : Session where
  cwd := ["w"]
  env := []

/- The session in the place that the link leads to. -/
def there : Session where
  cwd := ["srv"]
  env := []

/- The options of a line that asks for a list quietly. -/
def options : Options :=
  { Options.none with
    quiet := true
    list := true
    directory := some "link"
    config := some "lint.toml" }

def config : Config :=
  { Config.defaults with linters := [] }

theorem directory?_link :
    tree.directory? [] (session.directory.join "link") =
      some ["srv"] := by
  have hPath :
      session.directory.join "link" = Location.toPath ["w", "link"] :=
    Location.join_toPath (by decide) (by decide)
  have hFit : FileTree.IsFit ["w", "link"] := by decide
  have hPlain : tree.IsPlain (["w"] ++ ["link"]) := by decide
  have hLink :
      tree.advance true FileTree.linkLimit [] ["w", "link"] =
        tree.advance true 39 ["w"] ["..", "srv"] :=
    FileTree.advance_link 39 hPlain rfl rfl rfl
  have hTarget :
      tree.advance true 39 ["w"] ["..", "srv"] = .ok ["srv"] := by
    simp [FileTree.advance, FileTree.node?, tree, List.lookup_cons,
      Path.isIdle, Path.parent, Path.current]
  rw [hPath, FileTree.directory?, FileTree.resolved?,
    FileTree.locate_toPath hFit, hLink, hTarget]
  rfl

/- From the working directory the settings are not found. -/
theorem findFile?_session :
    Config.findFile? tree session.cwd "lint.toml" = none :=
  Config.findFile?_of_missing rfl (by decide) rfl (by decide)

theorem resolved?_there :
    tree.resolved? ["srv"] "lint.toml" =
      some (["srv", "lint.toml"], .file (Utf8.encode text) false) :=
  FileTree.resolved?_of_name (by decide) (by decide) rfl rfl rfl

theorem readLayer_there :
    Config.readLayer tree there "lint.toml" =
      .ok (.table [("linters", .array [])]) := by
  have hRead : tree.read? ["srv"] "lint.toml" = some (Utf8.encode text) :=
    by rw [FileTree.read?, resolved?_there]
  have hFound :
      Config.findFile? tree there.cwd "lint.toml" =
        some (Utf8.encode text) :=
    Config.findFile?_of_read? rfl rfl hRead
  exact Config.readLayer_of_text hFound (by cbv) rfl

/- No other file of settings is there. -/
theorem readLayer_others
    {name : Path}
    (hName :
      name = Config.userFile there ∨ name = Config.repositoryFile) :
    Config.readLayer tree there name = .ok (.table []) := by
  have hNone : Config.findFile? tree there.cwd name = none := by
    rcases hName with rfl | rfl
    · exact Config.findFile?_of_missing rfl (by decide) rfl (by decide)
    · exact Config.findFile?_of_missing rfl (by decide) rfl (by decide)
  rw [Config.readLayer, hNone]
  rfl

theorem load_there :
    Config.load tree there (some "lint.toml") = ⟨[], .ok config⟩ := by
  have hWarnings :
      (Config.load tree there (some "lint.toml")).warnings = [] := by
    simp [Config.load, Config.customWarning?, FileTree.pathExists, there,
      resolved?_there]
  have hResult :
      (Config.load tree there (some "lint.toml")).result = .ok config := by
    have hGiven :
        Config.customLayer tree there (some "lint.toml") =
          .ok (.table [("linters", .array [])]) :=
      readLayer_there
    rw [Config.result_load_of_read (readLayer_others (.inl rfl))
      (readLayer_others (.inr rfl)) hGiven]
    exact Config.ofLayers_eq_ok (by decide +kernel)
  exact congr (congrArg Config.Loaded.mk hWarnings) hResult

/- A run there finds the settings, and no linter in them. -/
theorem run_there :
    { options with directory := .none }.run host there () =
      ⟨[.warned "No linters configured"], .ok true, ()⟩ := by
  have hRegistry (root : Path) : Registry.ofConfig config root = .ok [] :=
    rfl
  have hEnter :
      { options with directory := .none }.enter (host.files ()) there =
        .ok there :=
    rfl
  have hLoad :
      Config.load (host.files ()) there options.config =
        ⟨[], .ok config⟩ :=
    load_there
  unfold Options.run Options.runHere
  simp only [hEnter, hLoad, hRegistry]
  rfl

end LinkedDirectory

/- The settings beyond the link are the ones that count. -/
open LinkedDirectory in
theorem linked_directory_starts_there :
    Options.parse [] ["-qC", "link", "--list", "--config=lint.toml"] =
        .ok options ∧
      withoutDirectory
          ["-qC", "link", "--list", "--config=lint.toml"] =
        ["-q", "--list", "--config=lint.toml"] ∧
      Config.findFile? tree session.cwd "lint.toml" = none ∧
      options.run host session () =
        ⟨[.warned "No linters configured"], .ok true, ()⟩ := by
  have hParsed :
      Options.parse session.env
          ["-qC", "link", "--list", "--config=lint.toml"] =
        .ok options :=
    rfl
  have hGrounded : (host.files ()).IsGrounded session.cwd := by decide
  have hRun :=
    (directory_option_starts_there hParsed rfl (by decide) hGrounded
      directory?_link).2.1
  exact
    ⟨hParsed, by decide, findFile?_session, hRun.trans run_there⟩

end TreeLint
