import TreeLint.Config.Basic
import TreeLint.Config.Value

/-
  Writing a configuration as configuration data.

  Key definitions include:
    * `LinterConfig.encode`
    * `Config.encode`

  Every field is written, also one that holds its default.
-/

------------------------------------------------------------
-- Encoding
------------------------------------------------------------

namespace TreeLint

namespace Encode

/- An array of texts. -/
def texts (values : List String) : Value :=
  .array (values.map .text)

/- A table of texts. -/
def dictionary (d : Dictionary) : Value :=
  .table (d.entries.map (fun (name, value) => (name, .text value)))

/- A text that may be absent. -/
def textOrAbsent : Option String → Value
  | some s => .text s
  | none => .absent

end Encode

namespace LinterConfig

/- A linter as a table. -/
def encode (linter : LinterConfig) : Value :=
  .table
    [ ("key", .text linter.key.name),
      ("roots", Encode.texts linter.roots),
      ("extensions", Encode.texts linter.extensions),
      ("command", .text linter.command),
      ("args", Encode.texts linter.args),
      ("env", Encode.dictionary linter.env),
      ("cwd", Encode.textOrAbsent linter.cwd),
      ("policy", .text linter.policy.name) ]

end LinterConfig

namespace Config

/- A configuration as a table. -/
def encode (config : Config) : Value :=
  .table
    [ ("general", .table [("source_root", .text config.sourceRoot)]),
      ("blacklist", Encode.texts config.blacklist),
      ("linters", .array (config.linters.map LinterConfig.encode)) ]

end Config

end TreeLint
