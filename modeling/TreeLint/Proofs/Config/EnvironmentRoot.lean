import TreeLint.Proofs.Config.Priority
import TreeLint.Proofs.Config.Records
import TreeLint.Proofs.Text.SeenLines

/-
  A source root that the environment sets.

  Key definitions include:
    * `Variable.sourceRootName`
    * `Variable.SetNothing`
    * `Config.rootLayer`
    * `Config.fileLayers`

  Key theorems include:
    * `Variable.value_of_isAbsolute`
    * `Variable.layer_of_one`
    * `Config.decode_merge_rootLayer`
    * `absolute_root_arrives_unchanged`

  The value of a variable is read in a grammar of its own, in
  which a text may stand for a number, a list or a table.  An
  absolute path is none of these: either it is read to its end
  as a text, or a separator in it makes it no value, and then
  it is taken as it stands.  As the last layer it replaces the
  source root, and nothing else.
-/

------------------------------------------------------------
-- Texts Without White Space At Their Ends
------------------------------------------------------------

namespace TreeLint

namespace Text

/- Nothing is trimmed where both ends are seen. -/
theorem trim_of_ends
    {text : List Char}
    (hStart : ∀ c ∈ text.head?, isBlankChar c = false)
    (hEnd : ∀ c ∈ text.getLast?, isBlankChar c = false) :
    trim text = text := by
  have hFront : trimStart text = text := by
    cases text with
    | nil => rfl
    | cons c rest =>
      exact List.dropWhile_cons_of_neg (by simp [hStart c rfl])
  rw [trim, hFront]
  cases hLast : text.getLast? with
  | none =>
    rw [List.getLast?_eq_none_iff.mp hLast]
    rfl
  | some last =>
    rcases List.getLast?_eq_some_iff.mp hLast with ⟨front, rfl⟩
    have hSeen : isBlankChar last = false := hEnd last hLast
    rw [trimEnd_append_of_not_isBlank front (by simp [isBlank, hSeen])]
    simp [trimEnd, hSeen]

end Text

------------------------------------------------------------
-- Values That Are Absolute Paths
------------------------------------------------------------

namespace Variable

/- Behind a slash a value is read up to a separator. -/
theorem readValue?_slash
    (fuel : Nat)
    (rest : List Char) :
    readValue? (fuel + 1) ('/' :: rest) =
      some
        (ofBare
          (Text.trim
            (('/' :: rest).takeWhile fun c => !isSeparator c)),
          skipSpace (('/' :: rest).dropWhile fun c => !isSeparator c)) :=
  rfl

/- A text that starts with a slash is no number. -/
theorem ofBare_slash
    (rest : List Char) :
    ofBare ('/' :: rest) = .text (String.ofList ('/' :: rest)) := by
  have hFraction : Numeral.hasFraction ('/' :: rest) = false := rfl
  have hNumber : Numeral.signed? ('/' :: rest) = none := rfl
  unfold ofBare
  rw [hFraction, hNumber, Bool.and_false]
  rfl

/- A separator is no white space. -/
theorem skipSpace_of_isSeparator
    {c : Char}
    (hSeparator : isSeparator c = true)
    (rest : List Char) :
    skipSpace (c :: rest) = c :: rest := by
  have hSpace : isSpace c = false := by
    unfold isSeparator at hSeparator
    simp only [Bool.or_eq_true, beq_iff_eq] at hSeparator
    rcases hSeparator with (((rfl | rfl) | rfl) | rfl) | rfl <;> rfl
  exact List.dropWhile_cons_of_neg (by simp [hSpace])

/-
  An absolute path is a text, whatever it holds.  Where it has
  a separator, the reading ends there and counts for nothing.
-/
theorem value_of_isAbsolute
    {text : String}
    (hAbsolute : Path.isAbsolute text = true)
    (hEnd : ∀ c ∈ text.toList.getLast?, Text.isBlankChar c = false) :
    value text = .text text := by
  rcases Path.isAbsolute_iff.mp hAbsolute with ⟨rest, hChars⟩
  unfold value
  rw [hChars, readValue?_slash]
  cases hBehind : ('/' :: rest).dropWhile fun c => !isSeparator c with
  | nil =>
    have hWhole :
        (('/' :: rest).takeWhile fun c => !isSeparator c) =
          '/' :: rest := by
      have hBoth :=
        List.takeWhile_append_dropWhile (p := fun c => !isSeparator c)
          (l := '/' :: rest)
      rwa [hBehind, List.append_nil] at hBoth
    have hTrim : Text.trim ('/' :: rest) = '/' :: rest := by
      refine Text.trim_of_ends ?_ (hChars ▸ hEnd)
      rintro c ⟨⟩
      rfl
    have hText : String.ofList ('/' :: rest) = text := by
      rw [← hChars, String.ofList_toList]
    rw [hWhole, hTrim, ofBare_slash, hText]
    rfl
  | cons c behind =>
    have hSeparator : isSeparator c = true := by
      have hHead :=
        List.head?_dropWhile_not (fun c => !isSeparator c) ('/' :: rest)
      rw [hBehind] at hHead
      simpa using hHead
    rw [skipSpace_of_isSeparator hSeparator]

------------------------------------------------------------
-- One Variable
------------------------------------------------------------

/- The variable that sets the source root. -/
def sourceRootName : String := "POLYLINT_GENERAL__SOURCE_ROOT"

theorem keys?_sourceRootName :
    keys? (RawByte.mended sourceRootName) =
      some ["general", "source_root"] :=
  rfl

/- The variables that set nothing of a configuration. -/
def SetNothing (env : List (String × String)) : Prop :=
  ∀ entry ∈ env, keys? (RawByte.mended entry.1) = none

section

variable {before behind : List (String × String)}

theorem filterMap_contribution?_eq_nil
    {env : List (String × String)}
    (hEnv : SetNothing env) :
    env.filterMap (fun (name, text) => contribution? name text) = [] := by
  rw [List.filterMap_eq_nil_iff]
  intro entry hEntry
  simp [contribution?, hEnv entry hEntry]

/- Where no variable sets anything, the layer is empty. -/
theorem layer_of_none
    {env : List (String × String)}
    (hEnv : SetNothing env) :
    layer env = .table [] := by
  rw [layer, filterMap_contribution?_eq_nil hEnv]
  rfl

/- The layer of the one variable that sets something. -/
theorem layer_of_one
    {name text key : String}
    {rest : List String}
    (hBefore : SetNothing before)
    (hBehind : SetNothing behind)
    (hName : keys? (RawByte.mended name) = some (key :: rest)) :
    layer (before ++ (name, text) :: behind) =
      Value.nest (key :: rest) (value (RawByte.mended text)) := by
  have hOne :
      contribution? name text =
        some
          (Value.nest (key :: rest) (value (RawByte.mended text))) := by
    rw [contribution?, hName, Option.map_some]
  rw [layer, List.filterMap_append, List.filterMap_cons,
    filterMap_contribution?_eq_nil hBefore,
    filterMap_contribution?_eq_nil hBehind]
  simp only [hOne, List.nil_append]
  rw [Value.mergeLayers, List.foldl_cons, List.foldl_nil, Value.nest,
    Value.merge, Value.mergeEntries, Value.mergeEntries]
  rfl

end

end Variable

------------------------------------------------------------
-- A Source Root On Top
------------------------------------------------------------

namespace Config

/- The layer that sets the source root and nothing else. -/
def rootLayer (root : String) : Value :=
  .table [("general", .table [("source_root", .text root)])]

theorem layer_of_sourceRoot
    {root : String}
    {before behind : List (String × String)}
    (hText : RawByte.isText root = true)
    (hRoot : Path.isAbsolute root = true)
    (hEnd : ∀ c ∈ root.toList.getLast?, Text.isBlankChar c = false)
    (hBefore : Variable.SetNothing before)
    (hBehind : Variable.SetNothing behind) :
    Variable.layer
        (before ++ (Variable.sourceRootName, root) :: behind) =
      rootLayer root := by
  have hSeen : RawByte.mended root = root := beq_iff_eq.mp hText
  rw [Variable.layer_of_one hBefore hBehind Variable.keys?_sourceRootName,
    hSeen, Variable.value_of_isAbsolute hRoot hEnd]
  rfl

section

variable {α : Type} {decode : Decoder α} {name : String}

theorem field?_put_self
    {value : Value}
    {a : α}
    (hValue : decode value = .ok a)
    (entries : List (String × Value)) :
    Decode.field? (Entries.put name value entries) name decode =
      .ok (some a) := by
  unfold Decode.field?
  rw [Entries.find?_put_self]
  simp only [hValue]
  rfl

theorem field?_put_of_ne
    {key : String}
    (hNe : name ≠ key)
    (value : Value)
    (entries : List (String × Value)) :
    Decode.field? (Entries.put key value entries) name decode =
      Decode.field? entries name decode := by
  unfold Decode.field?
  rw [Entries.find?_put_of_ne hNe]

end

/- Merging one entry into a table puts it under its key. -/
theorem exists_merge_entry
    (entries : List (String × Value))
    (key : String)
    (value : Value) :
    ∃ new,
      Value.merge (.table entries) (.table [(key, value)]) =
        .table (Entries.put key new entries) ∧
      (new = value ∨ ∃ old : Value, new = old.merge value) := by
  rw [Value.merge, Value.mergeEntries, Value.mergeEntries]
  refine ⟨_, rfl, ?_⟩
  cases Entries.find? key entries with
  | none => exact .inl rfl
  | some old => exact .inr ⟨old, rfl⟩

/- Whatever the general settings were, the root is the new one. -/
theorem decodeGeneral_merge
    (earlier : Value)
    (root : String) :
    decodeGeneral
        (earlier.merge (.table [("source_root", .text root)])) =
      .ok root := by
  by_cases hTable : earlier.IsTable
  · obtain ⟨entries, rfl⟩ := hTable
    rcases exists_merge_entry entries "source_root" (.text root) with
      ⟨new, hMerged, hNew⟩
    have hText : new = .text root := by
      rcases hNew with hNew | ⟨old, hNew⟩
      · exact hNew
      · exact hNew.trans (Value.merge_of_not_isTable (.inr nofun))
    have hRoot : Decode.text new = .ok root := hText ▸ rfl
    rw [hMerged, decodeGeneral, field?_put_self hRoot]
    rfl
  · rw [Value.merge_of_not_isTable (.inl hTable)]
    rfl

/- A source root on top of all layers replaces theirs. -/
theorem decode_merge_rootLayer
    {merged : Value}
    {config : Config}
    (hTable : merged.IsTable)
    (hConfig : decode merged = .ok config)
    (root : String) :
    decode (merged.merge (rootLayer root)) =
      .ok { config with sourceRoot := root } := by
  obtain ⟨entries, rfl⟩ := hTable
  rcases decode_table_eq_ok hConfig with
    ⟨blacklist, general, linters, hBlacklist, -, hLinters, rfl⟩
  rcases exists_merge_entry entries "general"
      (.table [("source_root", .text root)]) with
    ⟨new, hMerged, hNew⟩
  have hGeneral : decodeGeneral new = .ok root := by
    rcases hNew with rfl | ⟨old, rfl⟩
    · rfl
    · exact decodeGeneral_merge old root
  have hApart : "blacklist" ≠ "general" ∧ "linters" ≠ "general" := by
    decide
  rw [rootLayer, hMerged, decode, field?_put_self hGeneral,
    field?_put_of_ne hApart.1, field?_put_of_ne hApart.2, hBlacklist,
    hLinters]
  rfl

------------------------------------------------------------
-- Loading With And Without The Variable
------------------------------------------------------------

theorem ofLayers_eq_ok_iff
    {layers : List Value}
    {config : Config} :
    ofLayers layers = .ok config ↔
      decode (Value.mergeLayers layers) = .ok config ∧
        config.validate = .ok () := by
  constructor
  · intro hConfig
    have hDecoded := decode_of_ofLayers_eq_ok hConfig
    refine ⟨hDecoded, ?_⟩
    unfold ofLayers at hConfig
    simp only [hDecoded] at hConfig
    split at hConfig
    · cases hConfig
    · next hValid => exact hValid
  · rintro ⟨hDecoded, hValid⟩
    unfold ofLayers
    simp only [hDecoded, hValid]

/- The layer of the file given by name is a table, if there is one. -/
theorem isTable_of_customLayer
    {t : FileTree}
    {session : Session}
    {custom : Option Path}
    {given : Value}
    (hGiven : customLayer t session custom = .ok given) :
    given.IsTable := by
  cases custom with
  | none =>
    cases hGiven
    exact ⟨[], rfl⟩
  | some name => exact (isTable_and_distinct_of_readLayer hGiven).1

/- What is loaded is made of the layers of all files. -/
theorem exists_layers_of_result_load
    {t : FileTree}
    {session : Session}
    {custom : Option Path}
    {config : Config}
    (hLoaded : (load t session custom).result = .ok config) :
    ∃ user repository given,
      readLayer t session (userFile session) = .ok user ∧
      readLayer t session repositoryFile = .ok repository ∧
      customLayer t session custom = .ok given ∧
      ofLayers (fiveLayers session user repository given) =
        .ok config := by
  rw [result_load] at hLoaded
  simp only [Decode.bind_eq_ok_iff] at hLoaded
  rcases hLoaded with
    ⟨user, hUser, repository, hRepository, given, hGiven, hConfig⟩
  exact ⟨user, repository, given, hUser, hRepository, hGiven, hConfig⟩

/- The file of the user is found by another variable. -/
theorem userFile_of_other_variable
    {name : String}
    (hName : name ≠ "HOME")
    (text : String)
    (cwd : Location)
    (before behind : List (String × String)) :
    userFile ⟨cwd, before ++ (name, text) :: behind⟩ =
      userFile ⟨cwd, before ++ behind⟩ := by
  have hLookup :
      (before ++ (name, text) :: behind).lookup "HOME" =
        (before ++ behind).lookup "HOME" := by
    have hOther : ("HOME" == name) = false :=
      beq_eq_false_iff_ne.mpr hName.symm
    rw [List.lookup_append, List.lookup_append, List.lookup_cons, hOther]
  unfold userFile Session.textOf? Session.valueOf?
  rw [hLookup]

end Config

namespace Value

theorem IsTable.mergeLayers
    {layers : List Value}
    (hLayers : ∀ layer ∈ layers, layer.IsTable) :
    (Value.mergeLayers layers).IsTable := by
  induction layers using List.reverseRecOn with
  | nil => exact ⟨[], rfl⟩
  | append_singleton before last ih =>
    rw [mergeLayers_concat]
    have hBefore : (Value.mergeLayers before).IsTable :=
      ih fun layer hLayer => hLayers layer (List.mem_append_left _ hLayer)
    exact
      hBefore.merge
        (hLayers last (List.mem_append_right _ List.mem_cons_self))

end Value

namespace Config

/- What the files make up, before the environment is merged. -/
def fileLayers (user repository given : Value) : List Value :=
  [defaults.encode, user, repository, given]

theorem mergeLayers_fiveLayers
    (session : Session)
    (user repository given : Value) :
    Value.mergeLayers (fiveLayers session user repository given) =
      (Value.mergeLayers (fileLayers user repository given)).merge
        (Variable.layer session.env) :=
  Value.mergeLayers_concat (fileLayers user repository given) _

section

variable {t : FileTree} {cwd : Location} {custom : Option Path}
variable {user repository given : Value}
variable {before behind : List (String × String)}

theorem isTable_mergeLayers_fileLayers
    {session : Session}
    (hUser : readLayer t session (userFile session) = .ok user)
    (hRepository : readLayer t session repositoryFile = .ok repository)
    (hGiven : customLayer t session custom = .ok given) :
    (Value.mergeLayers (fileLayers user repository given)).IsTable := by
  refine Value.IsTable.mergeLayers ?_
  simp only [fileLayers, List.forall_mem_cons]
  exact
    ⟨⟨_, rfl⟩, (isTable_and_distinct_of_readLayer hUser).1,
      (isTable_and_distinct_of_readLayer hRepository).1,
      isTable_of_customLayer hGiven, nofun⟩

/- The layers of the files are the same under one more variable. -/
theorem result_load_of_other_variable
    {name : String}
    (hName : name ≠ "HOME")
    (text : String)
    (hUser :
      readLayer t ⟨cwd, before ++ behind⟩
          (userFile ⟨cwd, before ++ behind⟩) =
        .ok user)
    (hRepository :
      readLayer t ⟨cwd, before ++ behind⟩ repositoryFile =
        .ok repository)
    (hGiven :
      customLayer t ⟨cwd, before ++ behind⟩ custom = .ok given) :
    (load t ⟨cwd, before ++ (name, text) :: behind⟩ custom).result =
      ofLayers
        (fiveLayers ⟨cwd, before ++ (name, text) :: behind⟩ user
          repository given) := by
  have hUserNow :
      readLayer t ⟨cwd, before ++ (name, text) :: behind⟩
          (userFile ⟨cwd, before ++ (name, text) :: behind⟩) =
        .ok user := by
    rw [userFile_of_other_variable hName text cwd before behind]
    exact hUser
  exact result_load_of_read hUserNow hRepository hGiven

/-
  An absolute root in the environment replaces the root that
  is loaded without it.
-/
theorem result_load_of_variable
    {root : String}
    {config : Config}
    (hText : RawByte.isText root = true)
    (hRoot : Path.isAbsolute root = true)
    (hEnd : ∀ c ∈ root.toList.getLast?, Text.isBlankChar c = false)
    (hBefore : Variable.SetNothing before)
    (hBehind : Variable.SetNothing behind)
    (hLoaded :
      (load t ⟨cwd, before ++ behind⟩ custom).result = .ok config) :
    (load t
        ⟨cwd, before ++ (Variable.sourceRootName, root) :: behind⟩
        custom).result =
      .ok { config with sourceRoot := root } := by
  rcases exists_layers_of_result_load hLoaded with
    ⟨user, repository, given, hUser, hRepository, hGiven, hConfig⟩
  obtain ⟨hDecoded, hValid⟩ := ofLayers_eq_ok_iff.mp hConfig
  have hTable :=
    isTable_mergeLayers_fileLayers hUser hRepository hGiven
  have hNone : Variable.layer (before ++ behind) = .table [] :=
    Variable.layer_of_none (List.forall_mem_append.mpr ⟨hBefore, hBehind⟩)
  rw [mergeLayers_fiveLayers, hNone, hTable.merge_empty] at hDecoded
  have hName : Variable.sourceRootName ≠ "HOME" := by decide
  rw [result_load_of_other_variable hName root hUser hRepository hGiven]
  refine ofLayers_eq_ok_iff.mpr ⟨?_, hValid⟩
  rw [mergeLayers_fiveLayers,
    layer_of_sourceRoot hText hRoot hEnd hBefore hBehind]
  exact decode_merge_rootLayer hTable hDecoded root

end

------------------------------------------------------------
-- An Absolute Root From The Environment
------------------------------------------------------------

/- An absolute root is taken from wherever it is looked for. -/
theorem findSourceRoot_of_isAbsolute
    {config : Config}
    (hRoot : Path.isAbsolute config.sourceRoot = true)
    (hEnd :
      ∀ c ∈ config.sourceRoot.toList.getLast?,
        Text.isBlankChar c = false)
    (t : FileTree)
    (session : Session)
    (start : Path) :
    config.findSourceRoot t session start =
      Path.normalize config.sourceRoot := by
  obtain ⟨rest, hChars⟩ := Path.isAbsolute_iff.mp hRoot
  have hStart :
      ∀ c ∈ config.sourceRoot.toList.head?,
        Text.isBlankChar c = false := by
    rw [hChars]
    rintro c ⟨⟩
    rfl
  have hSeen : Text.isBlankText config.sourceRoot = false := by
    rw [Text.isBlankText, hChars]
    rfl
  have hTrim : Text.trimText config.sourceRoot = config.sourceRoot := by
    rw [Text.trimText, Text.trim_of_ends hStart hEnd,
      String.ofList_toList]
  rw [findSourceRoot, hSeen, hTrim, if_neg Bool.false_ne_true,
    Path.resolve, if_pos hRoot]

end Config

/-
  An absolute source root that the environment sets, and that
  is a text, arrives unchanged, whatever the files say.
  Nothing else that is loaded is touched by it.
-/
theorem absolute_root_arrives_unchanged
    (t : FileTree)
    (cwd : Location)
    (before behind : List (String × String))
    (custom : Option Path)
    (root : String)
    (config : Config)
    (hText : RawByte.isText root = true)
    (hRoot : Path.isAbsolute root = true)
    (hEnd : ∀ c ∈ root.toList.getLast?, Text.isBlankChar c = false)
    (hBefore : Variable.SetNothing before)
    (hBehind : Variable.SetNothing behind)
    (hLoaded :
      (Config.load t ⟨cwd, before ++ behind⟩ custom).result =
        .ok config) :
    let session : Session :=
      ⟨cwd, before ++ (Variable.sourceRootName, root) :: behind⟩
    let rooted : Config := { config with sourceRoot := root }
    Config.load t session custom =
      { Config.load t ⟨cwd, before ++ behind⟩ custom with
        result := .ok rooted } ∧
    ∀ start : Path,
      rooted.findSourceRoot t session start = Path.normalize root := by
  intro session rooted
  refine ⟨?_, fun start => ?_⟩
  · have hWith :
        (Config.load t session custom).result = .ok rooted :=
      Config.result_load_of_variable hText hRoot hEnd hBefore hBehind
        hLoaded
    rw [← hWith]
    rfl
  · have hFound :
        rooted.findSourceRoot t session start =
          Path.normalize rooted.sourceRoot :=
      Config.findSourceRoot_of_isAbsolute hRoot hEnd t session start
    exact hFound

namespace LayeredSettings

/- The session without a variable that sets something. -/
def plainSession : Session where
  cwd := []
  env := [("LANG", "C")]

/- What is loaded without a root in the environment. -/
def plainConfig : Config :=
  { Config.defaults with sourceRoot := "src", blacklist := ["new.h"] }

theorem result_load_plainSession :
    (Config.load tree plainSession (some "given.toml")).result =
      .ok plainConfig := by
  have hUser :
      Config.readLayer tree plainSession
          (Config.userFile plainSession) =
        .ok (.table []) :=
    readLayer_user
  have hGiven :
      Config.customLayer tree plainSession (some "given.toml") =
        .ok givenLayer :=
    readLayer_given
  rw [Config.result_load_of_read hUser readLayer_repository hGiven]
  exact Config.ofLayers_eq_ok (by decide +kernel)

/- A root that nearly reads as a list, a table and a number. -/
def mixedRoot : String := "/a,\x7bb\x7d/[1]/../.5"

/- The session with the root in its environment. -/
def rootedSession : Session where
  cwd := []
  env := [("LANG", "C"), (Variable.sourceRootName, mixedRoot)]

def rootedConfig : Config :=
  { plainConfig with sourceRoot := mixedRoot }

end LayeredSettings

/- The root of the environment arrives over that of a file. -/
open LayeredSettings in
theorem root_of_many_signs_arrives :
    RawByte.isText mixedRoot = true ∧
    Path.isAbsolute mixedRoot = true ∧
    (∀ c ∈ mixedRoot.toList.getLast?, Text.isBlankChar c = false) ∧
    (Config.load tree plainSession (some "given.toml")).result =
      .ok plainConfig ∧
    (Config.load tree rootedSession (some "given.toml")).result =
      .ok rootedConfig ∧
    rootedConfig.findSourceRoot tree rootedSession "/w" =
      "/a,\x7bb\x7d/.5" := by
  have hText : RawByte.isText mixedRoot = true := rfl
  have hRoot : Path.isAbsolute mixedRoot = true := by decide
  have hEnd :
      ∀ c ∈ mixedRoot.toList.getLast?, Text.isBlankChar c = false := by
    rintro c ⟨⟩
    rfl
  have hBefore : Variable.SetNothing [("LANG", "C")] := by
    rintro entry hEntry
    rw [List.mem_singleton.mp hEntry]
    rfl
  obtain ⟨hLoad, hFound⟩ :=
    absolute_root_arrives_unchanged tree [] [("LANG", "C")] []
      (some "given.toml") mixedRoot plainConfig hText hRoot hEnd hBefore
      nofun result_load_plainSession
  have hNormal : Path.normalize mixedRoot = "/a,\x7bb\x7d/.5" := by
    decide
  exact
    ⟨hText, hRoot, hEnd, result_load_plainSession,
      congrArg Config.Loaded.result hLoad, (hFound "/w").trans hNormal⟩

end TreeLint
