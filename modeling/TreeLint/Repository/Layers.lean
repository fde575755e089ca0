import TreeLint.Host
import TreeLint.Path.Wildcard
import TreeLint.Repository.Settings

/-
  The settings that apply to a repository.

  Key definitions include:
    * `Repository.Reader`
    * `Repository.Reader.reading`
    * `Repository.Reader.settings?`
    * `Repository.layers?`

  Settings come from a file of the work tree, if the repository
  says that there is one, from one of the repository and from
  two files of the user, and the first of these that sets a
  name decides.  A file may include others,
  which are read in the place of the setting that names them,
  and some of them only under a condition.
-/

------------------------------------------------------------
-- Files Of Settings
------------------------------------------------------------

namespace TreeLint

namespace Repository

/- What files of settings are read with. -/
structure Reader where
  files : FileTree
  session : Session
  /- The administration directory, without a slash at its end. -/
  admin : Path

/- What is found under the name of a file of settings. -/
inductive Source where
  | missing
  | unreadable
  | text (content : String)

/- Look for a file of settings. -/
def source (t : FileTree) (cwd : Location) (p : Path) : Source :=
  match t.locate cwd p with
  | .error .notFound => .missing
  | .error .notDirectory => .missing
  | .error _ => .unreadable
  | .ok loc =>
    match t.node? loc with
    | some (.file content _) => .text (RawByte.decode content)
    | _ => .missing

/- The path to the directory of a path. -/
def directoryOf (p : Path) : Path :=
  let names := p.toList.reverse.dropWhile (· == '/')
  let above := names.dropWhile (· != '/')
  match above.dropWhile (· == '/') with
  | [] => if p.isAbsolute then "/" else Path.current
  | rest => String.ofList rest.reverse

/- A list of directories in the customary notation. -/
def directoryList (text : String) : List Path :=
  (Text.splitAt ':' text).filter (fun p => !p.isEmpty)

namespace Reader

/- A path in the home directory of the user, if that is there. -/
def atHome? (r : Reader) (p : Path) : Option Path :=
  ((directoryList ((r.session.valueOf? "HOME").getD "")).find?
    (r.files.pathExists r.session.cwd)).map fun home =>
      Path.join home (String.ofList (p.toList.dropWhile (· == '/')))

/- The path that a file of settings means by a path in it. -/
def includedPath? (r : Reader) (file p : Path) : Option Path :=
  if p.startsWith "~/" then r.atHome? (String.ofList (p.toList.drop 1))
  else some (Path.join (directoryOf file) p)

------------------------------------------------------------
-- Conditions
------------------------------------------------------------

/- A pattern, for all below it if the condition ends in a slash. -/
def completed (condition pattern : String) : String :=
  if condition.endsWith "/" then pattern ++ "**" else pattern

/- Whether the administration directory lies where a pattern says. -/
def liesIn (r : Reader) (foldsCase : Bool) (file : Path)
    (pattern : String) : Bool :=
  let whole :=
    if pattern.startsWith "./" then
      Path.join (directoryOf file) (String.ofList (pattern.toList.drop 2))
    else if pattern.startsWith "~/" then
      (r.atHome? (String.ofList (pattern.toList.drop 1))).getD ""
    else if Path.isAbsolute pattern then pattern
    else "**/" ++ pattern
  Wildcard.fits ⟨true, foldsCase⟩ (completed pattern whole) r.admin

/- What the name of a branch starts with in the head file. -/
def branchStart : String := "ref: refs/heads/"

/- Whether the branch has a name of the form of a pattern. -/
def isOnBranch (r : Reader) (pattern : String) : Bool :=
  match source r.files r.session.cwd (r.admin ++ "/HEAD") with
  | .text content =>
    let head := Settings.upToNull (Settings.trimEnd content.toList)
    branchStart.toList.isPrefixOf head
      && Wildcard.fits ⟨true, false⟩ (completed pattern pattern)
        (String.ofList (head.drop branchStart.length))
  | _ => false

/- A text without a beginning and an end that it is known to have. -/
def between? (front back text : String) : Option String :=
  if text.startsWith front && text.endsWith back
      && front.length + back.length ≤ text.length then
    some (String.ofList
      ((text.toList.drop front.length).take
        (text.length - front.length - back.length)))
  else
    none

/- Whether a condition for reading a file is met. -/
def holds (r : Reader) (file : Path) (condition : String) : Bool :=
  match between? "gitdir:" "" condition,
      between? "gitdir/i:" "" condition,
      between? "onbranch:" "" condition with
  | some pattern, _, _ => r.liesIn false file pattern
  | _, some pattern, _ => r.liesIn true file pattern
  | _, _, some pattern => r.isOnBranch pattern
  | _, _, _ => false

/- What a setting says about a file to be read in its place. -/
inductive Inclusion where
  | nothing
  | file (path : Path)
  /- The file is in a home directory that is not there. -/
  | homeless
deriving DecidableEq

/- The file that a setting says is to be read in its place. -/
def inclusion (r : Reader) (file : Path) (setting : Setting) :
    Inclusion :=
  let isMet :=
    setting.name == "include.path"
      || match between? "includeif." ".path" setting.name with
        | some condition => r.holds file condition
        | none => false
  match isMet, setting.value with
  | true, some value =>
    match r.includedPath? file value with
    | some path => .file path
    | none => .homeless
  | _, _ => .nothing

------------------------------------------------------------
-- Reading
------------------------------------------------------------

/- How deep files of settings may include each other. -/
def depthLimit : Nat := 10

/- What comes of reading a file of settings. -/
inductive Reading where
  | whole (settings : List Setting)
  /- The settings up to a file that cannot even be named. -/
  | cut (settings : List Setting)
  | broken

/- Put settings in front of what is read. -/
def Reading.behind (front : List Setting) : Reading → Reading
  | whole settings => whole (front ++ settings)
  | cut settings => cut (front ++ settings)
  | broken => broken

/- A file that is cut short is as good as any when it is included. -/
def Reading.included : Reading → Reading
  | cut settings => whole settings
  | reading => reading

/- Settings, each followed by what is read in its place. -/
def follow (read : Setting → Reading) : List Setting → Reading
  | [] => .whole []
  | setting :: rest =>
    match read setting with
    | .whole inner => (follow read rest).behind (setting :: inner)
    | .cut inner => .cut (setting :: inner)
    | .broken => .broken

/-
  The settings of a file with all that it includes.  A file
  that is not there has none.
-/
def reading (r : Reader) : Nat → Path → Reading
  | 0, file =>
    match source r.files r.session.cwd file with
    | .missing => .whole []
    | _ => .broken
  | depth + 1, file =>
    match source r.files r.session.cwd file with
    | .missing => .whole []
    | .unreadable => .broken
    | .text content =>
      match Settings.parse? content with
      | none => .broken
      | some settings =>
        follow
          (fun setting =>
            match r.inclusion file setting with
            | .nothing => .whole []
            | .file path => (reading r depth path).included
            | .homeless => .cut [])
          settings

/-
  The settings of a file that is not included in another one.
  A file that is cut short counts as if it were not there;
  `none` says that a file cannot be understood.
-/
def settings? (r : Reader) (file : Path) : Option (List Setting) :=
  match r.reading depthLimit file with
  | .whole settings => some settings
  | .cut _ => some []
  | .broken => none

end Reader

/- The files of settings of the user, the strongest first. -/
def userFiles (t : FileTree) (session : Session) : List Path :=
  let home? := session.valueOf? "HOME"
  let all (directories : Option String) (name : String) : List Path :=
    (directoryList (directories.getD "")).map (Path.join · name)
  let first (paths : List Path) : List Path :=
    (paths.filter (t.pathExists session.cwd)).take 1
  let own := all home? ".gitconfig"
  let shared := match session.valueOf? "XDG_CONFIG_HOME", home? with
    | some directory, _ => some (Path.join directory "git")
    | none, some home => some (Path.join home ".config/git")
    | none, none => none
  (first own ++ own).take 1 ++ first (all shared "config")

/- The setting that says whether a work tree has settings of its own. -/
def treeSettingsName : String := "extensions.worktreeconfig"

/- Whether a work tree has settings of its own, if that is clear. -/
def hasTreeSettings? (own : List Setting) : Option Bool :=
  match Settings.last? own treeSettingsName with
  | none => some false
  | some setting => Settings.boolean? setting.value

/-
  The settings for an administration directory and the one
  that holds its history, the strongest last; `none` if some
  of them cannot be understood.
-/
def layers?
    (t : FileTree)
    (session : Session)
    (admin common : Path) : Option (List Setting) := do
  let reader : Reader := ⟨t, session, admin⟩
  let own ← reader.settings? (common ++ "/config")
  let tree ← if ← hasTreeSettings? own then
      reader.settings? (admin ++ "/config.worktree")
    else some []
  let user ← (userFiles t session).reverse.mapM reader.settings?
  return user.flatten ++ own ++ tree

end Repository

end TreeLint
