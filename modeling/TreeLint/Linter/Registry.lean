import TreeLint.Config.Validation
import TreeLint.Linter.Placeholder
import TreeLint.Path.Extension

/-
  Linters resolved against a source root.

  Key definitions include:
    * `Linter`
    * `Linter.accepts`
    * `Linter.commandLine`
    * `Linter.resolve`
    * `Registry`
    * `Registry.ofConfig`
    * `Registry.select`

  A registry holds the linters of a configuration in order,
  with every placeholder expanded and every root and working
  directory in normal form.
-/

------------------------------------------------------------
-- Linters
------------------------------------------------------------

namespace TreeLint

/- A linter that is ready to run. -/
structure Linter where
  key : Language
  roots : List Path
  extensions : List String
  program : String
  args : List String
  env : Dictionary
  cwd : Option Path
  policy : Policy
deriving DecidableEq

namespace Linter

/- Whether a linter wants a file. -/
def accepts (linter : Linter) (file : Path) : Bool :=
  file.hasExtension linter.extensions

/- The program with its arguments and files, for display. -/
def commandLine (linter : Linter) (files : List Path) : String :=
  Text.joinWith " " (linter.program :: linter.args ++ files)

/-
  Resolve a configured linter.  A program that does not
  mention the source root is kept as written, so that a bare
  name is looked up when the linter is started.
-/
def resolve (root : Path) (config : LinterConfig) : Linter where
  key := config.key
  roots := config.roots.map fun directory =>
    Path.resolve root (Placeholder.expand directory root)
  extensions := config.extensions
  program :=
    if Placeholder.occursIn config.command then
      Path.normalize (Placeholder.expand config.command root)
    else
      config.command
  args := config.args.map fun argument =>
    Placeholder.expandArgument argument root
  env := config.env.mapValues fun value =>
    Placeholder.expand value root
  cwd := config.cwd.map fun directory =>
    Path.resolve root (Placeholder.expand directory root)
  policy := config.policy

end Linter

------------------------------------------------------------
-- Registries
------------------------------------------------------------

/- The linters of a run in their order. -/
abbrev Registry := List Linter

namespace Registry

/- Resolve the linters of a configuration that can be run. -/
def ofConfig
    (config : Config)
    (root : Path) : Except InvalidLinter Registry :=
  match config.validate with
  | .error invalid => .error invalid
  | .ok () => .ok (config.linters.map (Linter.resolve root))

/- Whether a selection of languages covers a language. -/
def covers (selection : List Language) (key : Language) : Bool :=
  selection.isEmpty || selection.contains key

/-
  The linters of the languages selected, in registry order.
  An empty selection is every linter.
-/
def select
    (registry : Registry)
    (selection : List Language) : List Linter :=
  registry.filter (fun linter => covers selection linter.key)

end Registry

end TreeLint
