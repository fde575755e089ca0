import Mathlib.Data.List.Forall2
import TreeLint.Proofs.Config.Priority
import TreeLint.Proofs.Config.Records

/-
  Written configurations are read back.

  Key definitions include:
    * `LinterConfig.IsWrittenAs`
    * `Config.IsWrittenAs`

  Key theorems include:
    * `Decode.dictionary_of_perm`
    * `LinterConfig.decode_of_isWrittenAs`
    * `Config.decode_of_isWrittenAs`
    * `written_config_read_back`

  A configuration is written with all fields in their order,
  but it is read back from every table that writes the same:
  in another order, with more fields, and without those that
  hold their default.  A linter without a field that has no
  default is not read.
-/

------------------------------------------------------------
-- Plain Values
------------------------------------------------------------

namespace TreeLint

namespace Decode

theorem text_text
    (s : String) :
    text (.text s) = .ok s :=
  rfl

theorem oneOf_text
    {α : Type}
    {ofName? : String → Option α}
    {text : String}
    {a : α}
    (hName : ofName? text = some a) :
    oneOf ofName? (.text text) = .ok a := by
  simp only [oneOf, hName]

theorem textOrAbsent_encode
    (text : Option String) :
    textOrAbsent (Encode.textOrAbsent text) = .ok text := by
  cases text <;> rfl

/- Items are read one by one, wherever the counting starts. -/
theorem items_of_forall₂
    {α : Type}
    {decode : Decoder α}
    {values : List Value}
    {as : List α}
    (hAll : List.Forall₂ (fun a value => decode value = .ok a) as values)
    (index : Nat) :
    items decode index values = .ok as := by
  induction hAll generalizing index with
  | nil => rfl
  | cons hFirst hRest ih => simp [items, hFirst, ih, within]

/- An array is only read if each of its items is. -/
theorem exists_ok_of_mem_items
    {α : Type}
    {decode : Decoder α}
    {index : Nat}
    {values : List Value}
    {as : List α}
    (hItems : items decode index values = .ok as)
    {value : Value}
    (hValue : value ∈ values) :
    ∃ a, decode value = .ok a := by
  induction values generalizing index as with
  | nil => cases hValue
  | cons first rest ih =>
    simp only [items] at hItems
    cases hFirst : decode first with
    | error error => simp [hFirst, within] at hItems
    | ok a =>
      simp only [hFirst, within] at hItems
      split at hItems
      · cases hItems
      · next others hOthers =>
        rcases List.mem_cons.mp hValue with rfl | hLater
        · exact ⟨a, hFirst⟩
        · exact ih hOthers hLater

theorem texts_encode
    (values : List String) :
    texts (Encode.texts values) = .ok values := by
  refine items_of_forall₂ ?_ 0
  rw [List.forall₂_map_right_iff, List.forall₂_same]
  intro value _
  rfl

end Decode

------------------------------------------------------------
-- Dictionaries
------------------------------------------------------------

namespace Dictionary

/- A name behind all others is put at the end. -/
theorem insertEntry_of_forall_lt
    {name value : String}
    {entries : List (String × String)}
    (hBefore : ∀ entry ∈ entries, entry.1 < name) :
    insertEntry name value entries = entries ++ [(name, value)] := by
  induction entries with
  | nil => rfl
  | cons head rest ih =>
    obtain ⟨other, old⟩ := head
    have hLt : other < name := hBefore _ List.mem_cons_self
    have hRest := ih fun entry hEntry =>
      hBefore entry (List.mem_cons_of_mem _ hEntry)
    have hNot : ¬ name < other := String.lt_asymm hLt
    have hNe : name ≠ other := by
      rintro rfl
      exact String.lt_irrefl _ hLt
    simp [insertEntry, hNot, hNe, hRest]

/- By induction on the entries: each of them is put at the end. -/
theorem entries_foldl_insert
    {front : Dictionary}
    {rest : List (String × String)}
    (hAsc : (front.entries ++ rest).Pairwise (fun a b => a.1 < b.1)) :
    (rest.foldl (fun d (name, value) => d.insert name value)
        front).entries =
      front.entries ++ rest := by
  induction rest generalizing front with
  | nil => simp
  | cons head rest ih =>
    obtain ⟨name, value⟩ := head
    have hBefore : ∀ entry ∈ front.entries, entry.1 < name :=
      fun entry hEntry =>
        (List.pairwise_append.mp hAsc).2.2 entry hEntry _
          List.mem_cons_self
    have hInserted :
        (front.insert name value).entries =
          front.entries ++ [(name, value)] :=
      insertEntry_of_forall_lt hBefore
    have hNext :
        ((front.insert name value).entries ++ rest).Pairwise
          (fun a b => a.1 < b.1) := by
      rwa [hInserted, List.append_assoc, List.singleton_append]
    rw [List.foldl_cons, ih hNext, hInserted, List.append_assoc,
      List.singleton_append]

theorem ofList_entries
    (d : Dictionary) :
    ofList d.entries = d := by
  have hEntries : (ofList d.entries).entries = d.entries :=
    @entries_foldl_insert empty d.entries d.ascending
  obtain ⟨entries, hAsc⟩ := d
  exact (Dictionary.mk.injEq ..).mpr hEntries

/- The entries of a dictionary as they are written. -/
def written (d : Dictionary) : List (String × Value) :=
  d.entries.map (fun (name, text) => (name, .text text))

theorem pairwise_written
    (d : Dictionary) :
    d.written.Pairwise (fun a b => a.1 < b.1) :=
  List.pairwise_map.mpr d.ascending

/- Sorting puts the entries back into their order. -/
theorem mergeSort_of_perm_written
    {d : Dictionary}
    {entries : List (String × Value)}
    (hPerm : entries.Perm d.written) :
    entries.mergeSort (fun a b => decide (a.1 ≤ b.1)) = d.written := by
  have hSorted :
      (entries.mergeSort (fun a b => decide (a.1 ≤ b.1))).Pairwise
        (fun a b => decide (a.1 ≤ b.1) = true) := by
    apply List.pairwise_mergeSort
    · intro a b c hFirst hSecond
      simp only [decide_eq_true_eq] at hFirst hSecond ⊢
      exact String.le_trans hFirst hSecond
    · intro a b
      simpa using String.le_total a.1 b.1
  have hWritten :
      d.written.Pairwise (fun a b => decide (a.1 ≤ b.1) = true) :=
    d.pairwise_written.imp fun hLt =>
      decide_eq_true (String.not_lt.mp (String.lt_asymm hLt))
  have hSame :
      (entries.mergeSort (fun a b => decide (a.1 ≤ b.1))).Perm
        d.written :=
    (List.mergeSort_perm entries _).trans hPerm
  refine List.Perm.eq_of_pairwise ?_ hSorted hWritten hSame
  -- Two entries under the same name are the same entry.
  intro a b hA hB hLe hGe
  simp only [decide_eq_true_eq] at hLe hGe
  have hName : a.1 = b.1 := String.le_antisymm hLe hGe
  have hKeys : (d.written.map Prod.fst).Nodup := by
    refine (List.pairwise_map.mpr d.pairwise_written).imp ?_
    rintro x y hLt rfl
    exact String.lt_irrefl _ hLt
  exact List.inj_on_of_nodup_map hKeys (hSame.mem_iff.mp hA) hB hName

end Dictionary

namespace Decode

theorem textEntries_written
    (entries : List (String × String)) :
    textEntries (entries.map fun (name, text) => (name, .text text)) =
      .ok entries := by
  induction entries with
  | nil => rfl
  | cons head rest ih => simp [textEntries, within, text, ih]

/- A dictionary is read back from its entries in any order. -/
theorem dictionary_of_perm
    {d : Dictionary}
    {entries : List (String × Value)}
    (hPerm : entries.Perm d.written) :
    dictionary (.table entries) = .ok d := by
  have hRead : textEntries d.written = .ok d.entries :=
    textEntries_written d.entries
  simp only [dictionary, Dictionary.mergeSort_of_perm_written hPerm, hRead,
    Except.map, Dictionary.ofList_entries]

end Decode

------------------------------------------------------------
-- Linters
------------------------------------------------------------

namespace LinterConfig

/- The environment, whose entries may come in any order. -/
def envField (linter : LinterConfig) : WrittenField where
  name := "env"
  forms value :=
    ∃ entries, value = .table entries ∧ entries.Perm linter.env.written
  optional := linter.env = Dictionary.empty

/- The fields of a linter; only three of them have a default. -/
def writtenFields (linter : LinterConfig) : List WrittenField :=
  [ .required "key" (.text linter.key.name),
    .required "roots" (Encode.texts linter.roots),
    .required "extensions" (Encode.texts linter.extensions),
    .required "command" (.text linter.command),
    .defaulted "args" (Encode.texts linter.args) (linter.args = []),
    linter.envField,
    .defaulted "cwd" (Encode.textOrAbsent linter.cwd) (linter.cwd = none),
    .required "policy" (.text linter.policy.name) ]

/- A way to write a linter. -/
def IsWrittenAs (linter : LinterConfig) (value : Value) : Prop :=
  WrittenField.IsTable linter.writtenFields value

/- The fields without a default. -/
def requiredNames : List String :=
  ["key", "roots", "extensions", "command", "policy"]

theorem isWrittenAs_encode
    (linter : LinterConfig) :
    linter.IsWrittenAs linter.encode := by
  refine ⟨_, _, [], rfl, by rw [List.append_nil], ?_, by simp⟩
  exact
    .kept rfl <| .kept rfl <| .kept rfl <| .kept rfl <| .kept rfl <|
      .kept ⟨_, rfl, .refl _⟩ <| .kept rfl <| .kept rfl .nil

theorem nodup_writtenFields
    (linter : LinterConfig) :
    (linter.writtenFields.map WrittenField.name).Nodup := by
  have hNames :
      linter.writtenFields.map WrittenField.name =
        ["key", "roots", "extensions", "command", "args", "env", "cwd",
          "policy"] :=
    rfl
  rw [hNames]
  decide

/- A linter is read back, however it is written. -/
theorem decode_of_isWrittenAs
    {linter : LinterConfig}
    {value : Value}
    (hWritten : linter.IsWrittenAs value) :
    decode value = .ok linter := by
  have hForm := hWritten
  rcases hForm with ⟨entries, _, _, rfl, _⟩
  have hNames := linter.nodup_writtenFields
  have hKey :
      Decode.field? entries "key" (Decode.oneOf Language.ofName?) =
        .ok (some linter.key) :=
    WrittenField.field?_required hWritten hNames
      (by simp [writtenFields])
      (Decode.oneOf_text (Language.ofName?_name _))
  have hRoots :
      Decode.field? entries "roots" Decode.texts =
        .ok (some linter.roots) :=
    WrittenField.field?_required hWritten hNames
      (by simp [writtenFields]) (Decode.texts_encode _)
  have hExtensions :
      Decode.field? entries "extensions" Decode.texts =
        .ok (some linter.extensions) :=
    WrittenField.field?_required hWritten hNames
      (by simp [writtenFields]) (Decode.texts_encode _)
  have hCommand :
      Decode.field? entries "command" Decode.text =
        .ok (some linter.command) :=
    WrittenField.field?_required hWritten hNames
      (by simp [writtenFields]) (Decode.text_text _)
  have hPolicy :
      Decode.field? entries "policy" (Decode.oneOf Policy.ofName?) =
        .ok (some linter.policy) :=
    WrittenField.field?_required hWritten hNames
      (by simp [writtenFields])
      (Decode.oneOf_text (Policy.ofName?_name _))
  obtain ⟨args, hArgs, hArgsIs⟩ :
      ∃ args,
        Decode.field? entries "args" Decode.texts = .ok args ∧
        args.getD [] = linter.args :=
    WrittenField.getD_defaulted hWritten hNames
      (by simp [writtenFields]) (Decode.texts_encode _) id
  obtain ⟨env, hEnv, hEnvIs⟩ :
      ∃ env,
        Decode.field? entries "env" Decode.dictionary = .ok env ∧
        env.getD Dictionary.empty = linter.env :=
    WrittenField.getD_of_isTable linter.envField hWritten hNames
      (by simp [writtenFields])
      (by rintro _ ⟨_, rfl, hPerm⟩; exact Decode.dictionary_of_perm hPerm)
      id
  obtain ⟨cwd, hCwd, hCwdIs⟩ :
      ∃ cwd,
        Decode.field? entries "cwd" Decode.textOrAbsent = .ok cwd ∧
        cwd.getD none = linter.cwd :=
    WrittenField.getD_defaulted hWritten hNames
      (by simp [writtenFields]) (Decode.textOrAbsent_encode _) id
  have hJoin : cwd.join = linter.cwd := by
    rw [← hCwdIs]
    cases cwd <;> rfl
  simp only [decode, decodeTable, hArgs, hCommand, hCwd, hEnv,
    hExtensions, hKey, hPolicy, hRoots, Decode.required, hArgsIs, hEnvIs,
    hJoin, bind, Except.bind, pure, Except.pure]

/- A linter without a field that has no default is not read. -/
theorem exists_error_of_missing
    {fields : List (String × Value)}
    {name : String}
    (hName : name ∈ requiredNames)
    (hMissing : name ∉ Entries.keys fields) :
    ∃ error, decode (.table fields) = .error error := by
  cases hRead : decode (.table fields) with
  | error error => exact ⟨error, rfl⟩
  | ok linter =>
    simp only [decode, decodeTable, Decode.bind_eq_ok_iff] at hRead
    rcases hRead with
      ⟨_, _, _, hCommand, _, _, _, _, _, hExtensions, _, hKey, _, hPolicy,
        _, hRoots, _, hKeyGiven, _, hRootsGiven, _, hExtensionsGiven, _,
        hCommandGiven, _, hPolicyGiven, _⟩
    have hThere : ∀ name ∈ requiredNames, name ∈ Entries.keys fields := by
      simp only [requiredNames, List.forall_mem_cons]
      exact
        ⟨Decode.mem_keys_of_required hKey hKeyGiven,
          Decode.mem_keys_of_required hRoots hRootsGiven,
          Decode.mem_keys_of_required hExtensions hExtensionsGiven,
          Decode.mem_keys_of_required hCommand hCommandGiven,
          Decode.mem_keys_of_required hPolicy hPolicyGiven,
          List.forall_mem_nil _⟩
    exact absurd (hThere name hName) hMissing

end LinterConfig

------------------------------------------------------------
-- Configurations
------------------------------------------------------------

namespace Config

/- The general settings, of which the source root is the only one. -/
def generalField (config : Config) : WrittenField where
  name := "general"
  forms :=
    WrittenField.IsTable
      [ .defaulted "source_root" (.text config.sourceRoot)
          (config.sourceRoot = "") ]
  optional := config.sourceRoot = ""

/- The linters, each of them written in some way. -/
def lintersField (config : Config) : WrittenField where
  name := "linters"
  forms value :=
    ∃ linters,
      value = .array linters ∧
      List.Forall₂ LinterConfig.IsWrittenAs config.linters linters
  optional := config.linters = []

/- The fields of a configuration, all of which have a default. -/
def writtenFields (config : Config) : List WrittenField :=
  [ config.generalField,
    .defaulted "blacklist" (Encode.texts config.blacklist)
      (config.blacklist = []),
    config.lintersField ]

/-
  A way to write a configuration: at every level the fields
  come in any order, those that hold their default may be left
  out, and there may be more of them.
-/
def IsWrittenAs (config : Config) (value : Value) : Prop :=
  WrittenField.IsTable config.writtenFields value

theorem isWrittenAs_encode
    (config : Config) :
    config.IsWrittenAs config.encode := by
  refine ⟨_, _, [], rfl, by rw [List.append_nil], ?_, by simp⟩
  have hGeneral :
      config.generalField.forms
        (.table [("source_root", .text config.sourceRoot)]) :=
    ⟨_, _, [], rfl, .of_eq (List.append_nil _).symm, .kept rfl .nil,
      by simp⟩
  have hLinters :
      config.lintersField.forms
        (.array (config.linters.map LinterConfig.encode)) := by
    refine ⟨_, rfl, ?_⟩
    rw [List.forall₂_map_right_iff, List.forall₂_same]
    exact fun linter _ => linter.isWrittenAs_encode
  exact .kept hGeneral <| .kept rfl <| .kept hLinters .nil

theorem decodeGeneral_of_forms
    {config : Config}
    {value : Value}
    (hForm : config.generalField.forms value) :
    decodeGeneral value = .ok config.sourceRoot := by
  have hTable := hForm
  rcases hTable with ⟨entries, _, _, rfl, _⟩
  obtain ⟨root, hRoot, hRootIs⟩ :
      ∃ root,
        Decode.field? entries "source_root" Decode.text = .ok root ∧
        root.getD "" = config.sourceRoot :=
    WrittenField.getD_defaulted hForm (by simp)
      (by simp) (Decode.text_text _) id
  simp only [decodeGeneral, hRoot, hRootIs, bind, Except.bind, pure,
    Except.pure]

theorem decode_linters_of_forms
    {config : Config}
    {value : Value}
    (hForm : config.lintersField.forms value) :
    Decode.listOf LinterConfig.decode value = .ok config.linters := by
  rcases hForm with ⟨linters, rfl, hAll⟩
  exact
    Decode.items_of_forall₂
      (hAll.imp fun _ _ => LinterConfig.decode_of_isWrittenAs) 0

/- A configuration is read back, however it is written. -/
theorem decode_of_isWrittenAs
    {config : Config}
    {value : Value}
    (hWritten : config.IsWrittenAs value) :
    decode value = .ok config := by
  have hForm := hWritten
  rcases hForm with ⟨entries, _, _, rfl, _⟩
  have hNames : (config.writtenFields.map WrittenField.name).Nodup := by
    have hEq :
        config.writtenFields.map WrittenField.name =
          ["general", "blacklist", "linters"] :=
      rfl
    rw [hEq]
    decide
  obtain ⟨general, hGeneral, hGeneralIs⟩ :
      ∃ general,
        Decode.field? entries "general" decodeGeneral = .ok general ∧
        general.getD "" = config.sourceRoot :=
    WrittenField.getD_of_isTable config.generalField hWritten hNames
      (by simp [writtenFields]) (fun _ => decodeGeneral_of_forms) id
  obtain ⟨blacklist, hBlacklist, hBlacklistIs⟩ :
      ∃ blacklist,
        Decode.field? entries "blacklist" Decode.texts = .ok blacklist ∧
        blacklist.getD [] = config.blacklist :=
    WrittenField.getD_defaulted hWritten hNames
      (by simp [writtenFields]) (Decode.texts_encode _) id
  obtain ⟨linters, hLinters, hLintersIs⟩ :
      ∃ linters,
        Decode.field? entries "linters"
            (Decode.listOf LinterConfig.decode) =
          .ok linters ∧
        linters.getD [] = config.linters :=
    WrittenField.getD_of_isTable config.lintersField hWritten hNames
      (by simp [writtenFields]) (fun _ => decode_linters_of_forms) id
  simp only [decode, hGeneral, hBlacklist, hLinters, hGeneralIs,
    hBlacklistIs, hLintersIs, bind, Except.bind, pure, Except.pure]

/- One linter without such a field is enough. -/
theorem exists_error_of_missing
    {entries fields : List (String × Value)}
    {linters : List Value}
    {name : String}
    (hLinters : Entries.find? "linters" entries = some (.array linters))
    (hLinter : .table fields ∈ linters)
    (hName : name ∈ LinterConfig.requiredNames)
    (hMissing : name ∉ Entries.keys fields) :
    ∃ error, decode (.table entries) = .error error := by
  cases hRead : decode (.table entries) with
  | error error => exact ⟨error, rfl⟩
  | ok config =>
    rcases decode_table_eq_ok hRead with
      ⟨_, _, _, _, _, hField, _⟩
    rcases field?_eq_ok hField hLinters with ⟨read, hItems, _⟩
    rcases Decode.exists_ok_of_mem_items hItems hLinter with
      ⟨linter, hLinterRead⟩
    rcases LinterConfig.exists_error_of_missing hName hMissing with
      ⟨error, hError⟩
    rw [hError] at hLinterRead
    cases hLinterRead

end Config

------------------------------------------------------------
-- The Round Trip
------------------------------------------------------------

/-
  What is written of a configuration is read back, and so is
  every other way to write it.  Where a linter is without one
  of the fields that have no default, nothing is read.
-/
theorem written_config_read_back
    (config : Config) :
    config.IsWrittenAs config.encode ∧
    Config.decode config.encode = .ok config ∧
    (∀ value,
      config.IsWrittenAs value → Config.decode value = .ok config) ∧
    ∀ entries linters fields name,
      Entries.find? "linters" entries = some (.array linters) →
      .table fields ∈ linters →
      name ∈ LinterConfig.requiredNames →
      name ∉ Entries.keys fields →
      ∃ error, Config.decode (.table entries) = .error error := by
  have hEncoded := config.isWrittenAs_encode
  refine
    ⟨hEncoded, Config.decode_of_isWrittenAs hEncoded,
      fun _ => Config.decode_of_isWrittenAs, ?_⟩
  intro entries linters fields name hLinters hLinter hName hMissing
  exact
    Config.exists_error_of_missing hLinters hLinter hName hMissing

------------------------------------------------------------
-- A Configuration Written Differently
------------------------------------------------------------

namespace WrittenBackwards

def linter : LinterConfig where
  key := .python
  roots := ["script"]
  extensions := ["py"]
  command := "ruff"
  args := []
  env := Dictionary.ofList [("A", "1"), ("B", "2")]
  cwd := none
  policy := .exitStatus

def config : Config := ⟨"", [], [linter]⟩

/- The environment, the last variable first. -/
def envTable : Value :=
  .table [("B", .text "2"), ("A", .text "1")]

/- The fields of the linter, the last one first, and a remark. -/
def linterFields : List (String × Value) :=
  [ ("remark", .boolean true),
    ("policy", .text "exit-status"),
    ("env", envTable),
    ("command", .text "ruff"),
    ("extensions", .array [.text "py"]),
    ("roots", .array [.text "script"]),
    ("key", .text "python") ]

/- The same without a policy. -/
def unjudged : List (String × Value) :=
  linterFields.filter fun field => field.1 != "policy"

/- The configuration with an unknown field behind the linters. -/
def entries (linter : List (String × Value)) : List (String × Value) :=
  [ ("linters", .array [.table linter]),
    ("version", .integer 2) ]

theorem linter_isWrittenAs :
    linter.IsWrittenAs (.table linterFields) := by
  have hEnv : linter.envField.forms envTable :=
    ⟨_, rfl, List.reverse_perm linter.env.written⟩
  refine
    ⟨_, _, [("remark", .boolean true)], rfl, ?_,
      .kept rfl <| .kept rfl <| .kept rfl <| .kept rfl <| .leftOut rfl <|
        .kept hEnv <| .leftOut rfl <| .kept rfl .nil,
      ?_⟩
  · exact (List.reverse_perm _).symm
  · simp [LinterConfig.writtenFields, WrittenField.required,
      WrittenField.defaulted, LinterConfig.envField]

theorem config_isWrittenAs :
    config.IsWrittenAs (.table (entries linterFields)) := by
  have hLinters :
      config.lintersField.forms (.array [.table linterFields]) :=
    ⟨_, rfl, .cons linter_isWrittenAs .nil⟩
  refine
    ⟨_, _, [("version", .integer 2)], rfl, .refl _,
      .leftOut rfl <| .leftOut rfl <| .kept hLinters .nil, ?_⟩
  simp [Config.writtenFields, Config.generalField, Config.lintersField,
    WrittenField.defaulted]

end WrittenBackwards

/-
  Backwards and with what nobody asked for the configuration is
  read back; without the policy of its linter it is not.
-/
open WrittenBackwards in
theorem config_read_back_from_reversed_table :
    config.IsWrittenAs (.table (entries linterFields)) ∧
    Config.decode (.table (entries linterFields)) = .ok config ∧
    "policy" ∉ Entries.keys unjudged ∧
    ∃ error, Config.decode (.table (entries unjudged)) = .error error := by
  rcases written_config_read_back config with ⟨_, _, hRead, hMissing⟩
  have hName : "policy" ∉ Entries.keys unjudged := by
    decide
  exact
    ⟨config_isWrittenAs, hRead _ config_isWrittenAs, hName,
      hMissing _ _ _ "policy" rfl List.mem_cons_self (by decide) hName⟩

end TreeLint
