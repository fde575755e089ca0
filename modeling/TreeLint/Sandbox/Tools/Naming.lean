import TreeLint.FileTree.Edit
import TreeLint.Sandbox.Tools.Inputs

/-
  Programs about paths.

  Key definitions include:
    * `Tools.basename`
    * `Tools.dirname`
    * `Tools.Resolving`
    * `Tools.readlink`
    * `Tools.realpath`

  Some programs look at the text of a path only.  Others follow
  the links on the way; they differ in how much of the path has
  to be there.
-/

------------------------------------------------------------
-- Names
------------------------------------------------------------

namespace TreeLint

namespace Sandbox

namespace Tools

/- The end of the lines that a program about paths prints. -/
def lineEnd (options : Options) : String :=
  if options.has 'z' then "\x00" else "\n"

/- Print texts, each on a line. -/
def printTexts (world : World) (options : Options) (texts : List String) :
    Ran :=
  Ran.printing world 0
    (String.join (texts.map (· ++ lineEnd options)))

/- The last name of a path. -/
def lastNameOf (p : Path) : String :=
  match FileTree.splitLast p with
  | some (_, name) => name
  | none => if Path.isAbsolute p then "/" else p

/- A name without an ending, unless it is all of the name. -/
def withoutEnding (ending name : String) : String :=
  let ending := ending.toList
  if !ending.isEmpty && ending.isSuffixOf name.toList
      && name.length > ending.length then
    String.ofList (name.toList.take (name.length - ending.length))
  else
    name

/- Print the last names of paths. -/
def basename (world : World) (start : Start) : Ran :=
  withOptions "basename" 1
    ⟨"az", "s", [("multiple", 'a'), ("suffix", 's'), ("zero", 'z')]⟩
    world start fun options =>
      let isSeveral := options.has 'a' || (options.value? 's').isSome
      match isSeveral, options.words with
      | _, [] => .error "missing operand"
      | true, words =>
        .ok (printTexts world options
          (words.map fun p => withoutEnding
            ((options.value? 's').getD "") (lastNameOf p)))
      | false, [p] => .ok (printTexts world options [lastNameOf p])
      | false, [p, ending] =>
        .ok (printTexts world options [withoutEnding ending (lastNameOf p)])
      | false, _ :: _ :: extra :: _ =>
        .error ("extra operand " ++ quoted extra)

/- Print the paths to the directories of paths. -/
def dirname (world : World) (start : Start) : Ran :=
  withOptions "dirname" 1 ⟨"z", "", [("zero", 'z')]⟩ world start
    fun options =>
      if options.words.isEmpty then .error "missing operand"
      else
        .ok (printTexts world options (options.words.map fun p =>
          match FileTree.splitLast p with
          | some (directory, _) => directory
          | none => if Path.isAbsolute p then "/" else "."))

------------------------------------------------------------
-- Resolved Paths
------------------------------------------------------------

/- How much of a path has to be there. -/
inductive Resolving where
  | all
  | allButLast
  | nothing
deriving DecidableEq, Repr

/- How many names and links are followed. -/
def resolvingLimit : Nat := 4096

/-
  The location of a path with all links followed.  `done` is
  where the names so far have led.
-/
def resolveFrom (files : FileTree) (resolving : Resolving) :
    Nat → Nat → Location → List String → Except FileTree.PathError Location
  | 0, _, _, _ => .error .tooManyLinks
  | _, _, done, [] => .ok done
  | fuel + 1, links, done, name :: rest =>
    if name.isEmpty || name == "." then
      resolveFrom files resolving fuel links done rest
    else if name == ".." then
      resolveFrom files resolving fuel links done.dropLast rest
    else
      let loc := done ++ [name]
      let isLast := rest.all String.isEmpty
      match files.node? loc with
      | some (.link target) =>
        if links == 0 then .error .tooManyLinks
        else
          resolveFrom files resolving fuel (links - 1)
            (if Path.isAbsolute target then [] else done)
            (Path.segments target ++ rest)
      | some .directory => resolveFrom files resolving fuel links loc rest
      | some _ =>
        if rest.isEmpty || resolving == .nothing then
          resolveFrom files resolving fuel links loc rest
        else .error .notDirectory
      | none =>
        match resolving with
        | .nothing => resolveFrom files resolving fuel links loc rest
        | .allButLast =>
          if isLast then .ok loc else .error .notFound
        | .all => .error .notFound

/- The path with all links followed. -/
def resolvedPath (files : FileTree) (resolving : Resolving)
    (cwd : Location) (p : Path) : Except FileTree.PathError Path :=
  if p.isEmpty then .error .notFound
  else
    (resolveFrom files resolving resolvingLimit FileTree.linkLimit
      (FileTree.origin cwd p) (Path.segments p)).map
        fun (loc : Location) => loc.toPath

/- Print where links lead. -/
def readlink (world : World) (start : Start) : Ran :=
  withOptions "readlink" 1
    ⟨"femnqsvz", "",
      [("canonicalize", 'f'), ("canonicalize-existing", 'e'),
        ("canonicalize-missing", 'm'), ("no-newline", 'n'), ("quiet", 'q'),
        ("silent", 's'), ("verbose", 'v'), ("zero", 'z')]⟩
    world start fun options =>
      if options.words.isEmpty then .error "missing operand"
      else
        let answer (p : Path) : Except FileTree.PathError String :=
          match options.last "fem" with
          | some 'f' =>
            resolvedPath world.files .allButLast start.cwd p
          | some 'e' => resolvedPath world.files .all start.cwd p
          | some _ => resolvedPath world.files .nothing start.cwd p
          | none =>
            match world.files.locateEntry start.cwd p with
            | .error e => .error e
            | .ok loc =>
              match world.files.node? loc with
              | some (.link target) => .ok target
              | _ => .error .notPath
        let ending := if options.has 'n' && options.words.length == 1 then ""
          else lineEnd options
        let report := options.words.foldl
          (fun (report : Report) p =>
            match answer p with
            | .ok text => report.print (Octet.ofText (text ++ ending))
            | .error e =>
              if options.has 'v' then
                report.complain 1 ("readlink: " ++ p ++ ": " ++ reason e)
              else { report with status := 1 })
          .new
        .ok (report.finish world none)

/- A path as it is seen from a directory. -/
def relativeTo (base path : Location) : Path :=
  let shared := ((base.zip path).takeWhile fun (a, b) => a == b).length
  let up := List.replicate (base.length - shared) ".."
  let all := up ++ path.drop shared
  if all.isEmpty then "." else String.intercalate "/" all

/- Print paths with all links followed. -/
def realpath (world : World) (start : Start) : Ran :=
  withOptions "realpath" 1
    ⟨"ELPemqsz", "\x01\x02",
      [("canonicalize", 'E'), ("canonicalize-existing", 'e'),
        ("canonicalize-missing", 'm'), ("logical", 'L'), ("physical", 'P'),
        ("quiet", 'q'), ("relative-to", '\x01'), ("relative-base", '\x02'),
        ("strip", 's'), ("no-symlinks", 's'), ("zero", 'z')]⟩
    world start fun options =>
      if options.words.isEmpty then .error "missing operand"
      else
        let resolving := match options.last "Eem" with
          | some 'e' => Resolving.all
          | some 'm' => .nothing
          | _ => .allButLast
        let files := world.files
        let place (p : Path) : Except FileTree.PathError Location :=
          if p.isEmpty then .error .notFound
          else if options.has 's' then
            resolveFrom .empty .nothing resolvingLimit FileTree.linkLimit
              (FileTree.origin start.cwd p) (Path.segments p)
          else
            resolveFrom files resolving resolvingLimit FileTree.linkLimit
              (FileTree.origin start.cwd p) (Path.segments p)
        let base? (letter : Char) : Option Location :=
          (options.value? letter).bind fun p => (place p).toOption
        let shown (loc : Location) : Path :=
          match base? '\x01', base? '\x02' with
          | some base, none => relativeTo base loc
          | base?, some outer =>
            if outer.isPrefixOf loc then relativeTo (base?.getD outer) loc
            else loc.toPath
          | none, none => loc.toPath
        let report := options.words.foldl
          (fun (report : Report) p =>
            match place p with
            | .ok loc =>
              report.print (Octet.ofText (shown loc ++ lineEnd options))
            | .error e =>
              if options.has 'q' then { report with status := 1 }
              else
                report.complain 1 ("realpath: "
                  ++ (if p.isEmpty then "''" else p) ++ ": " ++ reason e))
          .new
        .ok (report.finish world none)

------------------------------------------------------------
-- Temporary Files
------------------------------------------------------------

/- The characters that names of temporary files are filled with. -/
def freshLetters : List Char :=
  "abcdefghijklmnopqrstuvwxyzABCDEFGHIJKLMNOPQRSTUVWXYZ0123456789".toList

/- The letters of a number, so many of them. -/
def freshName : Nat → Nat → List Char
  | 0, _ => []
  | count + 1, n =>
    (freshLetters[n % freshLetters.length]?).getD 'a'
      :: freshName count (n / freshLetters.length)

/- A name that nothing has yet: a template with its end filled in. -/
def freshPath (files : FileTree) (cwd : Location) (template ending : Path)
    (places : Nat) : Nat → Nat → Path
  | 0, n => template ++ String.ofList (freshName places n) ++ ending
  | fuel + 1, n =>
    let p := template ++ String.ofList (freshName places n) ++ ending
    if (files.locateEntry cwd p).toOption.isSome then
      freshPath files cwd template ending places fuel (n + 7919)
    else
      p

/- Make a temporary file or directory and print its path. -/
def mktemp (world : World) (start : Start) : Ran :=
  withOptions "mktemp" 1
    ⟨"dqtuV", "p\x01",
      [("directory", 'd'), ("quiet", 'q'), ("dry-run", 'u'),
        ("tmpdir", 'p'), ("suffix", '\x01')]⟩
    world start fun options =>
      let fail (why : String) : Except String Ran :=
        .ok (Ran.complaining world 1 ("mktemp: " ++ why))
      let variable_ := (start.env.lookup "TMPDIR").filter (!·.isEmpty)
      let home := variable_.getD "/tmp"
      match options.words with
      | _ :: _ :: _ => .error "too many templates"
      | words =>
        let template := words.head?.getD "tmp.XXXXXXXXXX"
        let directory? := if options.has 't' then some home
          else match options.value? 'p' with
            | some p => some (if p.isEmpty then home else p)
            | none => if words.isEmpty then some home else none
        let chars := template.toList
        let ending := match options.value? '\x01' with
          | some ending => ending.toList
          | none => (chars.reverse.takeWhile (· != 'X')).reverse
        let body := if (options.value? '\x01').isSome then chars
          else chars.take (chars.length - ending.length)
        let places := (body.reverse.takeWhile (· == 'X')).length
        let front := String.ofList (body.take (body.length - places))
        if places < 3 then
          fail ("too few X's in template " ++ quoted template)
        else
          let front := match directory? with
            | some directory => Path.join directory front
            | none => front
          let p := freshPath world.files start.cwd front
            (String.ofList ending) places 1000 918273645
          let made := if options.has 'u' then .ok world.files
            else
              world.files.putNew? start.cwd p
                (if options.has 'd' then .directory else .file [] false)
          match made with
          | .ok files =>
            .ok (Ran.printing (world.withFiles files) 0 (p ++ "\n"))
          | .error e =>
            if options.has 'q' then .ok (Ran.silent world 1)
            else
              fail ("failed to create "
                ++ (if options.has 'd' then "directory" else "file")
                ++ " via template "
                ++ quoted (front ++ String.ofList
                  (List.replicate places 'X' ++ ending))
                ++ ": " ++ reason e)

end Tools

end Sandbox

end TreeLint
