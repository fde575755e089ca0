import Mathlib
import TreeLint.Proofs.Config.FileSearch
import TreeLint.Proofs.Config.LayerKeys
import TreeLint.Proofs.Text.Utf8

/-
  Which layer a setting of a configuration comes from.

  Key definitions include:
    * `Config.customLayer`
    * `Config.fiveLayers`
    * `Config.ReadFrom`

  Key theorems include:
    * `Config.result_load`
    * `Config.readFrom_of_decode_eq_ok`
    * `settings_come_from_last_touching_layer`

  Loading merges five layers.  Where no file is given by name,
  the fourth one is empty, and merging it changes nothing.  A
  setting is that of the last layer which touches its path, so
  what is no table is replaced as a whole and what stands
  beside it survives.
-/

------------------------------------------------------------
-- Merging Tables
------------------------------------------------------------

namespace TreeLint

namespace Value

theorem IsTable.merge
    {earlier later : Value}
    (hEarlier : earlier.IsTable)
    (hLater : later.IsTable) :
    (earlier.merge later).IsTable := by
  obtain ⟨old, rfl⟩ := hEarlier
  obtain ⟨new, rfl⟩ := hLater
  rw [Value.merge]
  exact ⟨_, rfl⟩

/- An empty table says nothing. -/
theorem IsTable.merge_empty
    {earlier : Value}
    (hEarlier : earlier.IsTable) :
    earlier.merge (.table []) = earlier := by
  obtain ⟨old, rfl⟩ := hEarlier
  rw [Value.merge, mergeEntries]

end Value

------------------------------------------------------------
-- The Five Layers
------------------------------------------------------------

namespace Config

/- The layer of the file given by name, empty without a name. -/
def customLayer
    (t : FileTree)
    (session : Session) :
    Option Path → Except LoadError Value
  | none => .ok (.table [])
  | some name => readLayer t session name

/- All layers, as they are merged. -/
def fiveLayers
    (session : Session)
    (user repository given : Value) : List Value :=
  [defaults.encode, user, repository, given,
    Variable.layer session.env]

/- The layer of a file that holds a text. -/
theorem readLayer_of_text
    {t : FileTree}
    {session : Session}
    {name : Path}
    {text : String}
    {document layer : Value}
    (hFound :
      findFile? t session.cwd name = some (Utf8.encode text))
    (hDocument :
      Toml.readDocument? (RawByte.hold text) = some document)
    (hLayer : document.ofDocument? = some layer) :
    readLayer t session name = .ok layer := by
  unfold readLayer layerOfContent
  rw [hFound]
  simp only [Utf8.decode?_encode, Option.bind_some, hDocument, hLayer]

/- The layers matter for what they are when they are merged. -/
theorem ofLayers_congr
    {before after : List Value}
    (hMerged : Value.mergeLayers before = Value.mergeLayers after) :
    ofLayers before = ofLayers after := by
  unfold ofLayers
  rw [hMerged]

/- An empty layer behind the files changes nothing. -/
theorem mergeLayers_without_custom
    {user repository last : Value}
    (hUser : user.IsTable)
    (hRepository : repository.IsTable) :
    Value.mergeLayers
        [defaults.encode, user, repository, .table [], last] =
      Value.mergeLayers [defaults.encode, user, repository, last] := by
  have hDefaults : (Value.merge (.table []) defaults.encode).IsTable :=
    Value.IsTable.merge ⟨_, rfl⟩ ⟨_, rfl⟩
  simp only [Value.mergeLayers, List.foldl_cons, List.foldl_nil]
  rw [((hDefaults.merge hUser).merge hRepository).merge_empty]

/-
  A configuration is made of the five layers, where all files
  can be read.
-/
theorem result_load
    (t : FileTree)
    (session : Session)
    (custom : Option Path) :
    (load t session custom).result =
      (do
        let user ← readLayer t session (userFile session)
        let repository ← readLayer t session repositoryFile
        let given ← customLayer t session custom
        ofLayers (fiveLayers session user repository given)) := by
  unfold load layers files
  cases hUser : readLayer t session (userFile session) with
  | error error =>
    simp only [List.cons_append, readLayers, hUser]
    rfl
  | ok user =>
    cases hRepository : readLayer t session repositoryFile with
    | error error =>
      simp only [List.cons_append, readLayers, hUser, hRepository]
      rfl
    | ok repository =>
      cases custom with
      | none =>
        simp only [List.cons_append, readLayers, hUser, hRepository]
        refine ofLayers_congr (mergeLayers_without_custom ?_ ?_).symm
        · exact (isTable_and_distinct_of_readLayer hUser).1
        · exact (isTable_and_distinct_of_readLayer hRepository).1
      | some name =>
        cases hGiven : readLayer t session name with
        | error error =>
          simp only [List.cons_append, readLayers, hUser, hRepository,
            Option.toList, List.nil_append, hGiven, customLayer]
          rfl
        | ok given =>
          simp only [List.cons_append, readLayers, hUser, hRepository,
            Option.toList, List.nil_append, hGiven, customLayer]
          rfl

/- The same where it is known what the files are. -/
theorem result_load_of_read
    {t : FileTree}
    {session : Session}
    {custom : Option Path}
    {user repository given : Value}
    (hUser : readLayer t session (userFile session) = .ok user)
    (hRepository : readLayer t session repositoryFile = .ok repository)
    (hGiven : customLayer t session custom = .ok given) :
    (load t session custom).result =
      ofLayers (fiveLayers session user repository given) := by
  rw [result_load, hUser, hRepository, hGiven]
  rfl

theorem distinct_of_customLayer
    {t : FileTree}
    {session : Session}
    {custom : Option Path}
    {given : Value}
    (hGiven : customLayer t session custom = .ok given) :
    given.Distinct := by
  cases custom with
  | none =>
    cases hGiven
    exact .empty
  | some name => exact (isTable_and_distinct_of_readLayer hGiven).2

/- None of the five layers has a key twice. -/
theorem distinct_of_mem_fiveLayers
    {t : FileTree}
    {session : Session}
    {custom : Option Path}
    {user repository given layer : Value}
    (hUser : readLayer t session (userFile session) = .ok user)
    (hRepository : readLayer t session repositoryFile = .ok repository)
    (hGiven : customLayer t session custom = .ok given)
    (hLayer : layer ∈ fiveLayers session user repository given) :
    layer.Distinct := by
  simp only [fiveLayers, List.mem_cons, List.not_mem_nil, or_false]
    at hLayer
  rcases hLayer with rfl | rfl | rfl | rfl | rfl
  · exact distinct_encode defaults
  · exact (isTable_and_distinct_of_readLayer hUser).2
  · exact (isTable_and_distinct_of_readLayer hRepository).2
  · exact distinct_of_customLayer hGiven
  · exact Variable.distinct_layer session.env

------------------------------------------------------------
-- Settings
------------------------------------------------------------

/- Whether a configuration is what stands at certain paths. -/
structure ReadFrom (config : Config) (merged : Value) : Prop where
  sourceRoot :
    ∀ value,
      merged.atPath? ["general", "source_root"] = some value →
      Decode.text value = .ok config.sourceRoot
  blacklist :
    ∀ value,
      merged.atPath? ["blacklist"] = some value →
      Decode.texts value = .ok config.blacklist
  linters :
    ∀ value,
      merged.atPath? ["linters"] = some value →
      Decode.listOf LinterConfig.decode value = .ok config.linters

/- What stands under the name of a field is read as the field. -/
theorem field?_eq_ok
    {α : Type}
    {entries : List (String × Value)}
    {name : String}
    {value : Value}
    {decode : Decoder α}
    {found : Option α}
    (hField : Decode.field? entries name decode = .ok found)
    (hValue : Entries.find? name entries = some value) :
    ∃ a, decode value = .ok a ∧ found = some a := by
  unfold Decode.field? at hField
  rw [hValue] at hField
  cases hDecode : decode value with
  | error error => simp [hDecode, Decode.within, Except.map] at hField
  | ok a =>
    simp only [hDecode, Decode.within, Except.map, Except.ok.injEq] at hField
    exact ⟨a, rfl, hField.symm⟩

theorem decode_table_eq_ok
    {entries : List (String × Value)}
    {config : Config}
    (hConfig : decode (.table entries) = .ok config) :
    ∃ blacklist general linters,
      Decode.field? entries "blacklist" Decode.texts = .ok blacklist ∧
      Decode.field? entries "general" decodeGeneral = .ok general ∧
      Decode.field? entries "linters"
          (Decode.listOf LinterConfig.decode) =
        .ok linters ∧
      config =
        ⟨general.getD "", blacklist.getD [], linters.getD []⟩ := by
  unfold decode at hConfig
  cases hBlacklist : Decode.field? entries "blacklist" Decode.texts with
  | error error => simp [hBlacklist, bind, Except.bind] at hConfig
  | ok blacklist =>
    cases hGeneral : Decode.field? entries "general" decodeGeneral with
    | error error =>
      simp [hBlacklist, hGeneral, bind, Except.bind] at hConfig
    | ok general =>
      cases hLinters :
          Decode.field? entries "linters"
            (Decode.listOf LinterConfig.decode) with
      | error error =>
        simp [hBlacklist, hGeneral, hLinters, bind, Except.bind]
          at hConfig
      | ok linters =>
        simp only [hBlacklist, hGeneral, hLinters, bind, Except.bind,
          pure, Except.pure, Except.ok.injEq] at hConfig
        exact ⟨blacklist, general, linters, rfl, rfl, rfl, hConfig.symm⟩

theorem decodeGeneral_table_eq_ok
    {entries : List (String × Value)}
    {value : Value}
    {sourceRoot : String}
    (hGeneral : decodeGeneral (.table entries) = .ok sourceRoot)
    (hValue : Entries.find? "source_root" entries = some value) :
    Decode.text value = .ok sourceRoot := by
  unfold decodeGeneral at hGeneral
  cases hField : Decode.field? entries "source_root" Decode.text with
  | error error => simp [hField, bind, Except.bind] at hGeneral
  | ok root =>
    rcases field?_eq_ok hField hValue with ⟨s, hText, rfl⟩
    simp only [hField, bind, Except.bind, pure, Except.pure,
      Option.getD_some, Except.ok.injEq] at hGeneral
    rw [hText, hGeneral]

/- What a value is decoded to stands at the paths of its settings. -/
theorem readFrom_of_decode_eq_ok
    {merged : Value}
    {config : Config}
    (hConfig : decode merged = .ok config) :
    config.ReadFrom merged := by
  by_cases hTable : merged.IsTable
  · obtain ⟨entries, rfl⟩ := hTable
    rcases decode_table_eq_ok hConfig with
      ⟨blacklist, general, linters, hBlacklist, hGeneral, hLinters, rfl⟩
    refine ⟨?_, ?_, ?_⟩
    · intro value hValue
      rcases Option.bind_eq_some_iff.mp hValue with
        ⟨held, hHeld, hInner⟩
      rcases field?_eq_ok hGeneral hHeld with ⟨root, hRoot, rfl⟩
      by_cases hInnerTable : held.IsTable
      · obtain ⟨inner, rfl⟩ := hInnerTable
        rcases Option.bind_eq_some_iff.mp hInner with
          ⟨found, hFound, hEnd⟩
        cases hEnd
        exact decodeGeneral_table_eq_ok hRoot hFound
      · cases Value.eq_nil_of_atPath? hInnerTable hInner
    · intro value hValue
      rcases Option.bind_eq_some_iff.mp hValue with ⟨held, hHeld, hEnd⟩
      cases hEnd
      rcases field?_eq_ok hBlacklist hHeld with ⟨texts, hTexts, rfl⟩
      exact hTexts
    · intro value hValue
      rcases Option.bind_eq_some_iff.mp hValue with ⟨held, hHeld, hEnd⟩
      cases hEnd
      rcases field?_eq_ok hLinters hHeld with ⟨found, hFound, rfl⟩
      exact hFound
  · refine ⟨?_, ?_, ?_⟩
    · intro value hValue
      cases Value.eq_nil_of_atPath? hTable hValue
    · intro value hValue
      cases Value.eq_nil_of_atPath? hTable hValue
    · intro value hValue
      cases Value.eq_nil_of_atPath? hTable hValue

theorem decode_of_ofLayers_eq_ok
    {layers : List Value}
    {config : Config}
    (hConfig : ofLayers layers = .ok config) :
    decode (Value.mergeLayers layers) = .ok config := by
  unfold ofLayers at hConfig
  split at hConfig
  · cases hConfig
  · next decoded hDecoded =>
    split at hConfig
    · cases hConfig
    · cases hConfig
      exact hDecoded

end Config

------------------------------------------------------------
-- Layer Priority
------------------------------------------------------------

/-
  Whatever the files and the environment hold, a path of the
  merged layers has a value that is no table exactly if the
  last layer that touches the path has it, and what is loaded
  is read from there.
-/
theorem settings_come_from_last_touching_layer
    {t : FileTree}
    {session : Session}
    {custom : Option Path}
    {user repository given : Value}
    (hUser :
      Config.readLayer t session (Config.userFile session) = .ok user)
    (hRepository :
      Config.readLayer t session Config.repositoryFile =
        .ok repository)
    (hGiven : Config.customLayer t session custom = .ok given) :
    let layers := Config.fiveLayers session user repository given
    let merged := Value.mergeLayers layers
    (Config.load t session custom).result = Config.ofLayers layers ∧
    (∀ config,
      (Config.load t session custom).result = .ok config →
      Config.decode merged = .ok config ∧ config.ReadFrom merged) ∧
    ∀ path value,
      ¬ value.IsTable →
      (merged.atPath? path = some value ↔
        ∃ layer : Value,
          layer.IsLastTouching layers path ∧
          layer.atPath? path = some value) := by
  intro layers merged
  have hLoaded :
      (Config.load t session custom).result = Config.ofLayers layers :=
    Config.result_load_of_read hUser hRepository hGiven
  refine ⟨hLoaded, ?_, ?_⟩
  · intro config hConfig
    have hDecoded : Config.decode merged = .ok config :=
      Config.decode_of_ofLayers_eq_ok (hLoaded ▸ hConfig)
    exact ⟨hDecoded, Config.readFrom_of_decode_eq_ok hDecoded⟩
  · intro path value hPlain
    have hDistinct : ∀ layer ∈ layers, layer.Distinct :=
      fun layer hLayer =>
        Config.distinct_of_mem_fiveLayers hUser hRepository hGiven hLayer
    exact Value.atPath?_mergeLayers_iff hDistinct hPlain path

------------------------------------------------------------
-- Three Layers Over What Is Built In
------------------------------------------------------------

namespace LayeredSettings

/- What the repository says. -/
def repositoryText : String :=
  "blacklist = [\"gen.h\", \"old.h\"]\n[general]\nsource_root = \"src\"\n"

/- What the file given by name says. -/
def givenText : String := "blacklist = [\"new.h\"]\n"

def tree : FileTree where
  nodes :=
    [ (["polylint.toml"], .file (Utf8.encode repositoryText) false),
      (["given.toml"], .file (Utf8.encode givenText) false) ]

def session : Session where
  cwd := []
  env := [("POLYLINT_GENERAL__SOURCE_ROOT", "/w")]

def repositoryLayer : Value :=
  .table
    [ ("blacklist", .array [.text "gen.h", .text "old.h"]),
      ("general", .table [("source_root", .text "src")]) ]

def givenLayer : Value :=
  .table [("blacklist", .array [.text "new.h"])]

/- The root of the environment, the list of the given file. -/
def config : Config :=
  { Config.defaults with sourceRoot := "/w", blacklist := ["new.h"] }

theorem readLayer_user :
    Config.readLayer tree session (Config.userFile session) =
      .ok (.table []) := by
  have hNone :
      Config.findFile? tree session.cwd (Config.userFile session) =
        none :=
    Config.findFile?_of_missing rfl (by decide) rfl (by decide)
  rw [Config.readLayer, hNone]
  rfl

theorem readLayer_repository :
    Config.readLayer tree session Config.repositoryFile =
      .ok repositoryLayer := by
  have hFile :
      tree.resolved? [] Config.repositoryFile =
        some (["polylint.toml"],
          .file (Utf8.encode repositoryText) false) :=
    FileTree.resolved?_of_name (by decide) (by decide)
      rfl rfl rfl
  have hRead :
      tree.read? [] Config.repositoryFile =
        some (Utf8.encode repositoryText) := by
    rw [FileTree.read?, hFile]
  exact
    Config.readLayer_of_text (Config.findFile?_of_read? rfl rfl hRead)
      (by cbv) rfl

theorem readLayer_given :
    Config.readLayer tree session "given.toml" = .ok givenLayer := by
  have hFile :
      tree.resolved? [] "given.toml" =
        some (["given.toml"], .file (Utf8.encode givenText) false) :=
    FileTree.resolved?_of_name (by decide) (by decide)
      rfl rfl rfl
  have hRead :
      tree.read? [] "given.toml" = some (Utf8.encode givenText) := by
    rw [FileTree.read?, hFile]
  exact
    Config.readLayer_of_text (Config.findFile?_of_read? rfl rfl hRead)
      (by cbv) rfl

theorem ofLayers_tree :
    Config.ofLayers
        (Config.fiveLayers session (.table []) repositoryLayer
          givenLayer) =
      .ok config :=
  Config.ofLayers_eq_ok (by decide +kernel)

end LayeredSettings

/-
  The environment sets the root beside the lists of the files,
  and the list of the given file replaces that of the
  repository.
-/
open LayeredSettings in
theorem given_list_replaces_repository_list :
    Config.readLayer tree session (Config.userFile session) =
      .ok (.table []) ∧
    Config.readLayer tree session Config.repositoryFile =
      .ok repositoryLayer ∧
    Config.customLayer tree session (some "given.toml") =
      .ok givenLayer ∧
    (Config.load tree session (some "given.toml")).result =
      .ok config ∧
    (Value.mergeLayers
        (Config.fiveLayers session (.table []) repositoryLayer
          givenLayer)).atPath? ["blacklist"] =
      some (.array [.text "new.h"]) ∧
    (Value.mergeLayers
        (Config.fiveLayers session (.table []) repositoryLayer
          givenLayer)).atPath? ["general", "source_root"] =
      some (.text "/w") := by
  have hEnv :
      Variable.layer session.env =
        .table [("general", .table [("source_root", .text "/w")])] := by
    rfl
  have hGiven :
      Config.customLayer tree session (some "given.toml") =
        .ok givenLayer :=
    readLayer_given
  rcases settings_come_from_last_touching_layer readLayer_user
      readLayer_repository hGiven with
    ⟨hLoaded, _, hSettings⟩
  refine
    ⟨readLayer_user, readLayer_repository, hGiven,
      hLoaded.trans ofLayers_tree, ?_, ?_⟩
  · have hPlain : ¬ (Value.array [.text "new.h"]).IsTable := nofun
    refine (hSettings _ _ hPlain).mpr ⟨givenLayer, ?_, rfl⟩
    refine
      ⟨[Config.defaults.encode, .table [], repositoryLayer],
        [Variable.layer session.env], rfl,
        Value.touches_of_atPath? rfl, ?_⟩
    intro later hLater
    rw [List.mem_singleton.mp hLater, hEnv,
      Value.touches_table_cons_iff]
    rintro ⟨value, hValue, -⟩
    cases hValue
  · have hPlain : ¬ (Value.text "/w").IsTable := nofun
    refine
      (hSettings _ _ hPlain).mpr ⟨Variable.layer session.env, ?_, rfl⟩
    exact
      ⟨[Config.defaults.encode, .table [], repositoryLayer, givenLayer],
        [], rfl, Value.touches_of_atPath? rfl, nofun⟩

end TreeLint
