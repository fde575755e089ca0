import TreeLint.Config.Basic

/-
  Which configurations can be run.

  Key definitions include:
    * `Problem`
    * `LinterConfig.problem?`
    * `InvalidLinter`
    * `Config.validate`

  A linter needs a command, a root and an extension, and an
  extension is written without its dot.  Only the first
  problem of the first linter that has one is reported.
-/

------------------------------------------------------------
-- Problems Of One Linter
------------------------------------------------------------

namespace TreeLint

/- Why a linter cannot be run. -/
inductive Problem where
  | emptyCommand
  | noRoots
  | noExtensions
  | dottedExtension (extension : String)
deriving DecidableEq, Repr

namespace Problem

/- The wording of a problem. -/
def message : Problem → String
  | emptyCommand => "command is empty"
  | noRoots => "no roots configured"
  | noExtensions => "no extensions configured"
  | dottedExtension extension =>
    "extension '" ++ extension ++ "' must not start with a dot"

end Problem

/- An extension written with a dot in front. -/
def startsWithDot (extension : String) : Bool :=
  match extension.toList with
  | '.' :: _ => true
  | _ => false

namespace LinterConfig

/- The first problem of a linter. -/
def problem? (linter : LinterConfig) : Option Problem :=
  if Text.isBlankText linter.command then
    some .emptyCommand
  else if linter.roots.isEmpty then
    some .noRoots
  else if linter.extensions.isEmpty then
    some .noExtensions
  else
    (linter.extensions.find? startsWithDot).map .dottedExtension

end LinterConfig

------------------------------------------------------------
-- Problems Of A Configuration
------------------------------------------------------------

/- The linter that makes a configuration unusable. -/
structure InvalidLinter where
  index : Nat
  key : Language
  problem : Problem
deriving DecidableEq, Repr

namespace InvalidLinter

/- The wording of the report. -/
def message (invalid : InvalidLinter) : String :=
  "linters[" ++ toString invalid.index ++ "] ("
    ++ invalid.key.name ++ "): " ++ invalid.problem.message

end InvalidLinter

namespace Config

/- The first linter with a problem, counting from an index. -/
def firstInvalid? (index : Nat) : List LinterConfig → Option InvalidLinter
  | [] => none
  | linter :: rest =>
    match linter.problem? with
    | some problem => some ⟨index, linter.key, problem⟩
    | none => firstInvalid? (index + 1) rest

/- Accept the configurations that can be run. -/
def validate (config : Config) : Except InvalidLinter Unit :=
  match firstInvalid? 0 config.linters with
  | some invalid => .error invalid
  | none => .ok ()

end Config

end TreeLint
