import TreeLint.Config.Decode
import TreeLint.Config.Defaults
import TreeLint.Config.Encode
import TreeLint.Config.Validation
import TreeLint.Config.Variable
import TreeLint.Host
import TreeLint.Repository.Discovery
import TreeLint.Toml.Document

/-
  Loading the configuration of a run.

  Key definitions include:
    * `Config.findFile?`
    * `Config.readLayer`
    * `Config.layers`
    * `Config.load`
    * `Config.findSourceRoot`

  Key theorems include:
    * `Config.ofLayers_eq_ok`
    * `Config.layers_of_no_files`
    * `Config.result_load_of_no_files`

  Five layers are merged, the later ones winning: what is
  built in, the file of the user, the file of the repository,
  a file given by name, and the environment.  A file with a
  relative name is looked for in the working directory and in
  every directory above it.  A missing file says nothing.
-/

------------------------------------------------------------
-- Files
------------------------------------------------------------

namespace TreeLint

namespace Config

/- The file of a repository. -/
def repositoryFile : Path := "polylint.toml"

/-
  The file of a user, below the home directory.  Where this is
  not set, or is no text, a name that is not expanded stands
  for it, and the file is looked for like any relative one.
-/
def userFile (session : Session) : Path :=
  (session.textOf? "HOME").getD "~"
    ++ "/.config/polylint/config.toml"

/-
  Look for a regular file in a directory and then in those
  above it.  The number counts the directories to look in.
-/
def searchUp (t : FileTree) (name : Path) :
    Nat → Location → Option (List UInt8)
  | 0, _ => none
  | levels + 1, directory =>
    match t.read? directory name with
    | some content => some content
    | none => searchUp t name levels directory.dropLast

/- The content of a file, which a relative name is searched for. -/
def findFile?
    (t : FileTree)
    (cwd : Location)
    (name : Path) : Option (List UInt8) :=
  if name.isAbsolute then
    t.read? [] name
  else if name.isEmpty then
    none
  else
    searchUp t name (cwd.length + 1) cwd

------------------------------------------------------------
-- Layers
------------------------------------------------------------

/- Why there is no configuration. -/
inductive LoadError where
  /- A file is no text, or no document. -/
  | notDocument
  | notConfig (error : DecodeError)
  | invalid (linter : InvalidLinter)
deriving DecidableEq, Repr

namespace LoadError

/- The wording of the error. -/
def message : LoadError → String
  | notDocument => "Invalid polylint configuration"
  | notConfig _ => "Invalid polylint configuration"
  | invalid linter => linter.message

end LoadError

/- The layer that the content of a file makes up. -/
def layerOfContent : Option (List UInt8) → Except LoadError Value
  | none => .ok (.table [])
  | some content =>
    match (Utf8.decode? content).bind
        (fun text => Toml.readDocument? (RawByte.hold text)) with
    | some document =>
      match document.ofDocument? with
      | some layer => .ok layer
      | none => .error .notDocument
    | none => .error .notDocument

/- The layer that a file makes up. -/
def readLayer
    (t : FileTree)
    (session : Session)
    (name : Path) : Except LoadError Value :=
  layerOfContent (findFile? t session.cwd name)

/- The files of a run in the order in which they are merged. -/
def files (session : Session) (custom : Option Path) : List Path :=
  [userFile session, repositoryFile] ++ custom.toList

/- The layers that files make up. -/
def readLayers
    (t : FileTree)
    (session : Session) : List Path → Except LoadError (List Value)
  | [] => .ok []
  | name :: rest =>
    match readLayer t session name with
    | .error e => .error e
    | .ok layer =>
      match readLayers t session rest with
      | .error e => .error e
      | .ok layers => .ok (layer :: layers)

/- All layers in the order in which they are merged. -/
def layers
    (t : FileTree)
    (session : Session)
    (custom : Option Path) : Except LoadError (List Value) :=
  (readLayers t session (files session custom)).map fun read =>
    defaults.encode :: read ++ [Variable.layer session.env]

/- The configuration that layers make up. -/
def ofLayers (layers : List Value) : Except LoadError Config :=
  match Config.decode (Value.mergeLayers layers) with
  | .error e => .error (.notConfig e)
  | .ok config =>
    match config.validate with
    | .error invalid => .error (.invalid invalid)
    | .ok () => .ok config

------------------------------------------------------------
-- Loading
------------------------------------------------------------

/-
  The warning about a file given by name.  It looks at the
  path itself, and not at the directories above.
-/
def customWarning?
    (t : FileTree)
    (session : Session)
    (custom : Option Path) : Option String :=
  match custom with
  | some name =>
    if t.pathExists session.cwd name then
      none
    else
      some ("Config file " ++ name ++ " not found, ignoring it")
  | none => none

/- A configuration, or none, with the warnings on the way. -/
structure Loaded where
  warnings : List String
  result : Except LoadError Config

/- Load the configuration of a session. -/
def load
    (t : FileTree)
    (session : Session)
    (custom : Option Path) : Loaded where
  warnings := (customWarning? t session custom).toList
  result :=
    match layers t session custom with
    | .error e => .error e
    | .ok layers => ofLayers layers

/- A configuration can be compared with another, an error not. -/
theorem ofLayers_eq_ok
    {layers : List Value}
    {config : Config}
    (hSome : (ofLayers layers).toOption = some config) :
    ofLayers layers = .ok config := by
  cases hLayers : ofLayers layers with
  | error error =>
    rw [hLayers] at hSome
    cases hSome
  | ok loaded =>
    rw [hLayers] at hSome
    exact congrArg Except.ok (Option.some.inj hSome)

/- What is built in survives being written as a layer. -/
theorem decode_encode_defaults :
    decode defaults.encode = .ok defaults := by
  with_unfolding_all rfl

/- Where no file is found, only the first and last layer count. -/
theorem layers_of_no_files
    {t : FileTree}
    {session : Session}
    {custom : Option Path}
    (hFiles :
      ∀ name ∈ files session custom,
        findFile? t session.cwd name = none) :
    layers t session custom =
      .ok (defaults.encode
        :: (files session custom).map (fun _ => .table [])
        ++ [Variable.layer session.env]) := by
  have hRead :
      ∀ names : List Path,
        (∀ name ∈ names, findFile? t session.cwd name = none) →
        readLayers t session names =
          .ok (names.map fun _ => .table []) := by
    intro names hNames
    induction names with
    | nil => rfl
    | cons name rest ih =>
      have hName : readLayer t session name = .ok (.table []) := by
        rw [readLayer, hNames name List.mem_cons_self]
        rfl
      have hRest :=
        ih fun other hOther => hNames other (List.mem_cons_of_mem _ hOther)
      simp [readLayers, hName, hRest]
  unfold layers
  rw [hRead _ hFiles]
  rfl

/-
  Where no file is found and no variable counts, what is built
  in is all there is, and it can be run.
-/
theorem result_load_of_no_files
    {t : FileTree}
    {session : Session}
    {custom : Option Path}
    (hFiles :
      ∀ name ∈ files session custom,
        findFile? t session.cwd name = none)
    (hVariables : Variable.layer session.env = .table []) :
    (load t session custom).result = .ok defaults := by
  have hMerged :
      Value.mergeLayers
          (defaults.encode
            :: (files session custom).map (fun _ => .table [])
            ++ [.table []]) =
        defaults.encode := by
    cases custom <;> rfl
  have hValid : defaults.validate = .ok () := rfl
  unfold load ofLayers
  simp only [layers_of_no_files hFiles, hVariables, hMerged,
    decode_encode_defaults, hValid]

/-
  The source root: the one that is configured, else the top
  of the work tree around the working directory, else the
  working directory.
-/
def findSourceRoot
    (config : Config)
    (t : FileTree)
    (session : Session)
    (start : Path) : Path :=
  if Text.isBlankText config.sourceRoot then
    match Repository.discover t session start with
    | .ok top => top
    | .error _ => Path.normalize start
  else
    Path.resolve start (Text.trimText config.sourceRoot)

end Config

end TreeLint
