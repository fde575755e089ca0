import Mathlib.Data.List.Induction
import TreeLint.Proofs.Config.Priority
import TreeLint.Proofs.FileTree.Footprint

/-
  Where the file of a repository is looked for.

  Key definitions include:
    * `Config.IsEntryAbove`

  Key theorems include:
    * `Config.searchUp_append`
    * `Config.findFile?_append`
    * `Config.load_congr`
    * `Config.load_append`
    * `repository_file_is_nearest_above`

  Of all that is loaded, only the file of the repository hangs
  on the working directory, and it is the nearest one on the
  way up.  Directories on the way that hold no such file can
  be left out, and what lies above the one that is found is
  not asked for.
-/

------------------------------------------------------------
-- The Search On The Way Up
------------------------------------------------------------

namespace TreeLint

namespace Config

variable {t other : FileTree} {cwd place : Location} {name : Path}

/-
  A search passes over directories without the file.  By
  induction on how far down it starts.
-/
theorem searchUp_append
    {directory below : Location}
    (hNone :
      ∀ names, names ≠ [] → names <+: below →
        t.isFile (directory ++ names) name = false) :
    searchUp t name ((directory ++ below).length + 1)
        (directory ++ below) =
      searchUp t name (directory.length + 1) directory := by
  induction below using List.reverseRecOn with
  | nil => rw [List.append_nil]
  | append_singleton front last ih =>
    have hRead : t.read? (directory ++ (front ++ [last])) name = none := by
      have hFile := hNone (front ++ [last]) (by simp) (List.prefix_refl _)
      simpa [FileTree.isFile] using hFile
    have hFront :=
      ih fun names hSome hPrefix =>
        hNone names hSome (hPrefix.trans (List.prefix_append _ _))
    rw [searchUp, hRead, ← hFront]
    simp only [← List.append_assoc, List.dropLast_concat,
      List.length_append, List.length_singleton]

theorem findFile?_append
    {directory below : Location}
    (hNone :
      ∀ names, names ≠ [] → names <+: below →
        t.isFile (directory ++ names) name = false) :
    findFile? t (directory ++ below) name =
      findFile? t directory name := by
  unfold findFile?
  rw [searchUp_append hNone]

/- An absolute name is found where it leads to, and nowhere else. -/
theorem findFile?_of_isAbsolute
    (hAbsolute : name.isAbsolute = true)
    (cwd : Location) :
    findFile? t cwd name = t.read? cwd name := by
  unfold findFile?
  rw [if_pos hAbsolute]
  exact FileTree.read?_of_isAbsolute hAbsolute cwd

/-
  The file of the user has an absolute name if the home has
  one that is a text.  For any other home a relative name
  stands in.
-/
theorem isAbsolute_userFile
    {session : Session}
    {home : String}
    (hHome : session.valueOf? "HOME" = some home)
    (hText : RawByte.isText home = true)
    (hAbsolute : Path.isAbsolute home = true) :
    (userFile session).isAbsolute = true := by
  have hSome : home ≠ "" := by
    rintro rfl
    cases hAbsolute
  have hRead : session.textOf? "HOME" = some home := by
    rw [Session.textOf?, hHome, Option.filter_some_pos hText]
  unfold userFile
  rw [hRead, Option.getD_some, Path.isAbsolute_append hSome, hAbsolute]

------------------------------------------------------------
-- What Loading Depends On
------------------------------------------------------------

variable {env : List (String × String)} {custom : Option Path}

theorem readLayers_congr
    {names : List Path}
    (hFiles :
      ∀ name ∈ names, findFile? other place name = findFile? t cwd name) :
    readLayers other ⟨place, env⟩ names =
      readLayers t ⟨cwd, env⟩ names := by
  induction names with
  | nil => rfl
  | cons name rest ih =>
    have hName :
        readLayer other ⟨place, env⟩ name = readLayer t ⟨cwd, env⟩ name := by
      unfold readLayer
      rw [hFiles name List.mem_cons_self]
    have hRest :=
      ih fun later hLater => hFiles later (List.mem_cons_of_mem _ hLater)
    rw [readLayers, readLayers, hName, hRest]

/-
  What is loaded depends on the content of the files that are
  found, and on whether the file given by name is there.
-/
theorem load_congr
    (hFiles :
      ∀ name ∈ files ⟨cwd, env⟩ custom,
        findFile? other place name = findFile? t cwd name)
    (hExists :
      ∀ name ∈ custom, other.pathExists place name = t.pathExists cwd name) :
    load other ⟨place, env⟩ custom = load t ⟨cwd, env⟩ custom := by
  have hWarning :
      customWarning? other ⟨place, env⟩ custom =
        customWarning? t ⟨cwd, env⟩ custom := by
    cases custom with
    | none => rfl
    | some name =>
      unfold customWarning?
      simp only [hExists name rfl]
  have hLayers :
      layers other ⟨place, env⟩ custom = layers t ⟨cwd, env⟩ custom := by
    unfold layers
    rw [← readLayers_congr hFiles]
    rfl
  unfold load
  rw [hWarning, hLayers]

------------------------------------------------------------
-- One Relative Name
------------------------------------------------------------

section

variable {home : String}
variable (hHome : env.lookup "HOME" = some home)
variable (hText : RawByte.isText home = true)
variable (hAbsolute : Path.isAbsolute home = true)
variable (hCustom : ∀ name ∈ custom, Path.isAbsolute name = true)

include hHome hText hAbsolute hCustom

/- Only the file of the repository has a relative name. -/
theorem eq_repositoryFile_or_isAbsolute
    (hName : name ∈ files ⟨cwd, env⟩ custom) :
    name = repositoryFile ∨ name.isAbsolute = true := by
  simp only [files, List.cons_append, List.nil_append, List.mem_cons,
    Option.mem_toList] at hName
  rcases hName with rfl | rfl | hGiven
  · exact .inr (isAbsolute_userFile hHome hText hAbsolute)
  · exact .inl rfl
  · exact .inr (hCustom name hGiven)

/- Without such a file on the way up, one loads the same further up. -/
theorem load_append
    {directory below : Location}
    (hNone :
      ∀ names, names ≠ [] → names <+: below →
        t.isFile (directory ++ names) repositoryFile = false) :
    load t ⟨directory ++ below, env⟩ custom =
      load t ⟨directory, env⟩ custom := by
  apply load_congr
  · intro name hName
    rcases
        eq_repositoryFile_or_isAbsolute hHome hText hAbsolute hCustom
          hName with
      rfl | hRooted
    · exact findFile?_append hNone
    · rw [findFile?_of_isAbsolute hRooted, findFile?_of_isAbsolute hRooted]
      exact FileTree.read?_of_isAbsolute hRooted _
  · intro name hName
    exact FileTree.pathExists_of_isAbsolute (hCustom name hName) _

/-
  Where the file of the repository is in the working directory
  itself, trees in which the names of the run lead to the same
  files load the same.
-/
theorem load_of_resolved?
    {content : List UInt8}
    (hRead : t.read? cwd repositoryFile = some content)
    (hSame :
      ∀ name ∈ files ⟨cwd, env⟩ custom,
        other.resolved? cwd name = t.resolved? cwd name) :
    load other ⟨cwd, env⟩ custom = load t ⟨cwd, env⟩ custom := by
  have hReads :
      ∀ name ∈ files ⟨cwd, env⟩ custom,
        other.read? cwd name = t.read? cwd name := by
    intro name hName
    unfold FileTree.read?
    rw [hSame name hName]
  apply load_congr
  · intro name hName
    rcases
        eq_repositoryFile_or_isAbsolute hHome hText hAbsolute hCustom
          hName with
      rfl | hRooted
    · rw [findFile?_of_read? rfl rfl hRead,
        findFile?_of_read? rfl rfl ((hReads _ hName).trans hRead)]
    · rw [findFile?_of_isAbsolute hRooted, findFile?_of_isAbsolute hRooted]
      exact hReads name hName
  · intro name hName
    have hFile : name ∈ files ⟨cwd, env⟩ custom := by
      simp [files, Option.mem_def.mp hName]
    unfold FileTree.pathExists
    rw [hSame name hFile]

end

------------------------------------------------------------
-- Entries Above A Place
------------------------------------------------------------

/- The entry of a repository's file in a directory above a place. -/
def IsEntryAbove (place loc : Location) : Prop :=
  ∃ n < place.length, loc = place.take n ++ [repositoryFile]

instance (place : Location) : DecidablePred (IsEntryAbove place) :=
  fun loc =>
    inferInstanceAs
      (Decidable (∃ n < place.length, loc = place.take n ++ _))

end Config

namespace NestedRepositories

/-
  An empty file of settings, with a directory of that name
  further down, and what there may be besides.
-/
def tree (besides : List (Location × Node)) : FileTree where
  nodes :=
    besides ++
      [ (["d"], .directory),
        (["d", "s"], .directory),
        (["d", "s", "polylint.toml"], .file [] false),
        (["d", "s", "x"], .directory),
        (["d", "s", "x", "polylint.toml"], .directory) ]

/- A file of settings further up, which is no document. -/
def above : List (Location × Node) :=
  [(["d", "polylint.toml"], .file [61] false)]

def env : List (String × String) :=
  [("HOME", "/h")]

theorem node?_tree
    {loc : Location}
    (hApart : ¬ Config.IsEntryAbove ["d", "s"] loc) :
    (tree []).node? loc = (tree above).node? loc := by
  have hOther : loc ≠ ["d", "polylint.toml"] := by
    rintro rfl
    exact hApart (by decide)
  have hDiffers : (loc == ["d", "polylint.toml"]) = false :=
    beq_eq_false_iff_ne.mpr hOther
  unfold FileTree.node? tree above
  rw [List.cons_append, List.lookup_cons, hDiffers]

theorem node?_inner :
    (tree above).node? ["d", "s", "polylint.toml"] =
      some (.file [] false) :=
  rfl

theorem read?_inner :
    (tree above).read? ["d", "s"] Config.repositoryFile = some [] := by
  rw [FileTree.read?,
    FileTree.resolved?_of_name (by decide) (by decide) rfl
      node?_inner rfl]

/- The directory of that name is no file. -/
theorem isFile_of_prefix
    {names : List String}
    (hSome : names ≠ [])
    (hPrefix : names <+: ["x"]) :
    (tree above).isFile (["d", "s"] ++ names) Config.repositoryFile =
      false := by
  obtain rfl : names = ["x"] := by
    rcases List.prefix_cons_iff.mp hPrefix with hNil | ⟨rest, rfl, hRest⟩
    · exact absurd hNil hSome
    · rw [List.prefix_nil.mp hRest]
  have hNode :
      (tree above).node? ["d", "s", "x", "polylint.toml"] =
        some .directory :=
    rfl
  rw [FileTree.isFile, FileTree.read?,
    FileTree.resolved?_of_name (by decide) (by decide) rfl
      hNode rfl]
  rfl

/- No file of a run is reached through a file further up. -/
theorem not_isEntryAbove_of_mem_footprint :
    ∀ name ∈ Config.files ⟨["d", "s"], env⟩ (some "/c.toml"),
      ∀ loc ∈ (tree above).footprint ["d", "s"] name,
        ¬ Config.IsEntryAbove ["d", "s"] loc := by
  have hUser :
      (tree above).footprint ["d", "s"]
          (Config.userFile ⟨["d", "s"], env⟩) =
        [[], ["h"]] := by
    cbv
  have hGiven :
      (tree above).footprint ["d", "s"] "/c.toml" =
        [[], ["c.toml"]] := by
    cbv
  have hRepository :
      (tree above).footprint ["d", "s"] Config.repositoryFile =
        [["d", "s"], ["d", "s", "polylint.toml"]] :=
    FileTree.footprint_of_name (by decide) rfl node?_inner rfl
  simp only [Config.files, List.cons_append, List.nil_append,
    Option.toList, List.forall_mem_cons, hUser, hGiven, hRepository]
  decide

end NestedRepositories

end TreeLint
