/-
  The languages a linter can be responsible for.

  Key definitions include:
    * `Language`
    * `Language.name`
    * `Language.ofName?`

  The name of a language is both its key in a configuration
  and the word for it in messages.
-/

------------------------------------------------------------
-- Languages
------------------------------------------------------------

namespace TreeLint

/- The languages, in the order in which they are listed. -/
inductive Language where
  | cpp
  | python
  | javaScript
deriving DecidableEq, Repr

namespace Language

/- Every language. -/
def all : List Language :=
  [cpp, python, javaScript]

/- The name of a language. -/
def name : Language → String
  | cpp => "c++"
  | python => "python"
  | javaScript => "javascript"

/- The language with a name. -/
def ofName? (text : String) : Option Language :=
  all.find? (fun language => language.name == text)

@[simp]
theorem ofName?_name
    (language : Language) :
    ofName? language.name = some language := by
  cases language <;> decide

end Language

end TreeLint
