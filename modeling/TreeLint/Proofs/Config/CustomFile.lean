import TreeLint.Proofs.Config.Priority

/-
  Whether the warning about a missing file tells the truth.

  Key definitions include:
    * `Config.missingWarning`

  Key theorems include:
    * `Config.result_load_of_not_found`
    * `missing_file_warning_true_iff`

  The warning asks whether the path itself leads to anything.
  The layer asks for a regular file, and where the path does
  not lead to one, also in the directories above.  The two
  disagree about a file that only stands further up, and about
  what is there without being a regular file.
-/

------------------------------------------------------------
-- Warning And Layer
------------------------------------------------------------

namespace TreeLint

namespace Config

/- The warning that a file given by name is not there. -/
def missingWarning (name : Path) : String :=
  "Config file " ++ name ++ " not found, ignoring it"

theorem warnings_load_eq_iff
    (t : FileTree)
    (session : Session)
    (name : Path) :
    (load t session (some name)).warnings = [missingWarning name] ↔
      t.pathExists session.cwd name = false := by
  unfold load customWarning? missingWarning
  cases hExists : t.pathExists session.cwd name with
  | true => simp [hExists]
  | false => simp [hExists]

/- A file that is not found is as good as none given. -/
theorem result_load_of_not_found
    {t : FileTree}
    {session : Session}
    {name : Path}
    (hNone : findFile? t session.cwd name = none) :
    (load t session (some name)).result = (load t session none).result := by
  have hGiven :
      customLayer t session (some name) = customLayer t session none := by
    simp only [customLayer, readLayer, hNone, layerOfContent]
  rw [result_load, result_load, hGiven]

/- A file that is found is the layer before the environment. -/
theorem result_load_of_found
    {t : FileTree}
    {session : Session}
    {name : Path}
    {content : List UInt8}
    (hFound : findFile? t session.cwd name = some content) :
    (load t session (some name)).result =
      (do
        let user ← readLayer t session (userFile session)
        let repository ← readLayer t session repositoryFile
        let given ← layerOfContent (some content)
        ofLayers (fiveLayers session user repository given)) := by
  have hGiven :
      customLayer t session (some name) =
        layerOfContent (some content) := by
    rw [customLayer, readLayer, hFound]
  rw [result_load, hGiven]

end Config

------------------------------------------------------------
-- The Truth Of The Warning
------------------------------------------------------------

/-
  The warning is given exactly if no file is read, where the
  path leads to a regular file, or where it leads to something
  and a file of its name is found further up, or where neither
  is so.  Whatever the warning says, a file that is not found
  changes nothing, and one that is found is merged.
-/
theorem missing_file_warning_true_iff
    (t : FileTree)
    (session : Session)
    (name : Path) :
    (((Config.load t session (some name)).warnings =
          [Config.missingWarning name] ↔
        Config.findFile? t session.cwd name = none) ↔
      t.isFile session.cwd name = true ∨
      (t.pathExists session.cwd name = true ↔
        Config.IsFileAbove t session.cwd name)) ∧
    (Config.findFile? t session.cwd name = none →
      (Config.load t session (some name)).result =
        (Config.load t session none).result) ∧
    ∀ content,
      Config.findFile? t session.cwd name = some content →
      (Config.load t session (some name)).result =
        (do
          let user ←
            Config.readLayer t session (Config.userFile session)
          let repository ←
            Config.readLayer t session Config.repositoryFile
          let given ← Config.layerOfContent (some content)
          Config.ofLayers
            (Config.fiveLayers session user repository given)) := by
  refine
    ⟨?_, Config.result_load_of_not_found,
      fun content hFound => Config.result_load_of_found hFound⟩
  rw [Config.warnings_load_eq_iff, Config.findFile?_eq_none_iff]
  by_cases hFile : t.isFile session.cwd name = true
  · have hExists : t.pathExists session.cwd name = true :=
      FileTree.pathExists_of_isFile hFile
    simp [hFile, hExists]
  · by_cases hAbove : Config.IsFileAbove t session.cwd name
    · simp [hFile, hAbove]
    · simp [hFile, hAbove]

------------------------------------------------------------
-- A File Above The Working Directory
------------------------------------------------------------

namespace CustomFileAbove

def text : String := "blacklist = [\"gen/out.h\"]\n"

/- A file beside a directory. -/
def tree : FileTree where
  nodes :=
    [ (["custom.toml"], .file (Utf8.encode text) false),
      (["sub"], .directory) ]

/- Seen from the top, where the file is. -/
def atTop : Session where
  cwd := []
  env := []

/- Seen from the directory beside the file. -/
def below : Session where
  cwd := ["sub"]
  env := []

def layer : Value :=
  .table [("blacklist", .array [.text "gen/out.h"])]

def config : Config :=
  { Config.defaults with blacklist := ["gen/out.h"] }

theorem resolved?_top :
    tree.resolved? [] "custom.toml" =
      some (["custom.toml"], .file (Utf8.encode text) false) :=
  FileTree.resolved?_of_name (by decide) (by decide)
    rfl rfl rfl

theorem resolved?_sub :
    tree.resolved? ["sub"] "custom.toml" = none :=
  FileTree.resolved?_of_missing rfl (by decide) rfl rfl rfl

theorem read?_top :
    tree.read? [] "custom.toml" = some (Utf8.encode text) := by
  rw [FileTree.read?, resolved?_top]

/- No other file of settings is in either directory. -/
theorem readLayer_others
    {session : Session}
    {name : Path}
    (hSession : session = atTop ∨ session = below)
    (hName :
      name = Config.userFile session ∨ name = Config.repositoryFile) :
    Config.readLayer tree session name = .ok (.table []) := by
  have hNone : Config.findFile? tree session.cwd name = none := by
    rcases hSession with rfl | rfl
    · rcases hName with rfl | rfl
      · exact Config.findFile?_of_missing rfl (by decide) rfl (by decide)
      · exact Config.findFile?_of_missing rfl (by decide) rfl (by decide)
    · rcases hName with rfl | rfl
      · exact Config.findFile?_of_missing rfl (by decide) rfl (by decide)
      · exact Config.findFile?_of_missing rfl (by decide) rfl (by decide)
  rw [Config.readLayer, hNone]
  rfl

theorem findFile?_top :
    Config.findFile? tree atTop.cwd "custom.toml" =
      some (Utf8.encode text) :=
  Config.findFile?_of_read? rfl rfl read?_top

/- The file is found from below, where the path leads nowhere. -/
theorem findFile?_below :
    Config.findFile? tree below.cwd "custom.toml" =
      some (Utf8.encode text) := by
  have hHere : tree.read? ["sub"] "custom.toml" = none := by
    rw [FileTree.read?, resolved?_sub]
  have hRelative : Path.isAbsolute "custom.toml" = false := rfl
  simp [Config.findFile?, hRelative, below, Config.searchUp, hHere,
    read?_top]

/- Only the file given by name adds to what is built in. -/
theorem result_load_tree
    {session : Session}
    {custom : Option Path}
    {given : Value}
    {loaded : Config}
    (hSession : session = atTop ∨ session = below)
    (hGiven : Config.customLayer tree session custom = .ok given)
    (hLoaded :
      Config.ofLayers
          [Config.defaults.encode, .table [], .table [], given,
            .table []] =
        .ok loaded) :
    (Config.load tree session custom).result = .ok loaded := by
  have hEnv : Variable.layer session.env = .table [] := by
    rcases hSession with rfl | rfl
    · rfl
    · rfl
  rw [Config.result_load_of_read
      (readLayer_others hSession (.inl rfl))
      (readLayer_others hSession (.inr rfl)) hGiven,
    Config.fiveLayers, hEnv]
  exact hLoaded

theorem result_load_found
    {session : Session}
    (hSession : session = atTop ∨ session = below)
    (hFound :
      Config.findFile? tree session.cwd "custom.toml" =
        some (Utf8.encode text)) :
    (Config.load tree session (some "custom.toml")).result =
      .ok config := by
  have hLayer :
      Config.readLayer tree session "custom.toml" = .ok layer :=
    Config.readLayer_of_text hFound (by cbv) rfl
  exact
    result_load_tree hSession hLayer
      (Config.ofLayers_eq_ok (by decide +kernel))

theorem result_load_none
    {session : Session}
    (hSession : session = atTop ∨ session = below) :
    (Config.load tree session none).result = .ok Config.defaults :=
  result_load_tree hSession rfl
    (Config.ofLayers_eq_ok (by decide +kernel))

end CustomFileAbove

/- A file in the working directory is merged without a warning. -/
open CustomFileAbove in
theorem file_at_path_merged_without_warning :
    tree.isFile atTop.cwd "custom.toml" = true ∧
    (Config.load tree atTop (some "custom.toml")).warnings ≠
      [Config.missingWarning "custom.toml"] ∧
    (Config.load tree atTop (some "custom.toml")).result =
      .ok config := by
  have hFile : tree.isFile atTop.cwd "custom.toml" = true := by
    rw [FileTree.isFile]
    exact congrArg Option.isSome read?_top
  rcases missing_file_warning_true_iff tree atTop "custom.toml" with
    ⟨hTrue, _, _⟩
  refine ⟨hFile, ?_, result_load_found (.inl rfl) findFile?_top⟩
  intro hWarned
  have hNone := (hTrue.mpr (.inl hFile)).mp hWarned
  rw [findFile?_top] at hNone
  cases hNone

/-
  A file further up is merged while the warning says that it
  is ignored, and a directory is ignored without a warning.
-/
open CustomFileAbove in
theorem file_above_merged_with_warning :
    Config.load tree below (some "custom.toml") =
      ⟨["Config file custom.toml not found, ignoring it"],
        .ok config⟩ ∧
    (Config.load tree below none).result = .ok Config.defaults ∧
    config ≠ Config.defaults ∧
    Config.load tree atTop (some "sub") =
      ⟨[], .ok Config.defaults⟩ := by
  have hMissing : tree.pathExists below.cwd "custom.toml" = false := by
    rw [FileTree.pathExists]
    exact congrArg Option.isSome resolved?_sub
  have hDirectory :
      tree.resolved? [] "sub" = some (["sub"], .directory) :=
    FileTree.resolved?_of_name (by decide) (by decide)
      rfl rfl rfl
  have hNoFile : Config.findFile? tree atTop.cwd "sub" = none := by
    have hRelative : Path.isAbsolute "sub" = false := rfl
    simp [Config.findFile?, hRelative, atTop, Config.searchUp,
      FileTree.read?, hDirectory]
  have hDiffer : config ≠ Config.defaults := by decide +kernel
  have hWarned :
      (Config.load tree below (some "custom.toml")).warnings =
        [Config.missingWarning "custom.toml"] :=
    (Config.warnings_load_eq_iff tree below _).mpr hMissing
  have hMerged :
      (Config.load tree below (some "custom.toml")).result =
        .ok config :=
    result_load_found (.inr rfl) findFile?_below
  have hQuiet : (Config.load tree atTop (some "sub")).warnings = [] := by
    simp [Config.load, Config.customWarning?, FileTree.pathExists, atTop,
      hDirectory]
  have hIgnored :
      (Config.load tree atTop (some "sub")).result =
        .ok Config.defaults :=
    (Config.result_load_of_not_found hNoFile).trans
      (result_load_none (.inl rfl))
  exact
    ⟨congr (congrArg Config.Loaded.mk hWarned) hMerged,
      result_load_none (.inr rfl), hDiffer,
      congr (congrArg Config.Loaded.mk hQuiet) hIgnored⟩

end TreeLint
