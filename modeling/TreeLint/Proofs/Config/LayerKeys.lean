import TreeLint.Config.Load
import TreeLint.Proofs.Toml.DistinctKeys

/-
  No layer of a configuration has a key twice.

  Key theorems include:
    * `Value.Distinct.ofDocument?`
    * `Variable.distinct_layer`
    * `Config.distinct_encode`
    * `Config.isTable_and_distinct_of_readLayer`

  A layer is what is built in, what a file describes or what
  the environment sets.  Each of them comes to tables whose
  keys are apart, so merging layers follows their keys.
-/

------------------------------------------------------------
-- Documents
------------------------------------------------------------

namespace TreeLint

namespace Value

/-
  Replacing what only carries other values keeps the keys, and
  whatever holds of each value that is replaced.
-/
theorem carriedEntries?_eq_some
    {motive : Value → Prop}
    {entries after : List (String × Value)}
    (hValues :
      ∀ entry ∈ entries, ∀ {value : Value},
        carried? entry.2 = some value → motive value)
    (hAfter : carriedEntries? entries = some after) :
    Entries.keys after = Entries.keys entries ∧
    ∀ entry ∈ after, motive entry.2 := by
  induction entries generalizing after with
  | nil =>
    rw [carriedEntries?] at hAfter
    cases hAfter
    exact ⟨rfl, nofun⟩
  | cons head rest ih =>
    obtain ⟨key, value⟩ := head
    rw [carriedEntries?] at hAfter
    split at hAfter
    · next carried others hCarried hOthers =>
      cases hAfter
      obtain ⟨hKeys, hRest⟩ :=
        ih
          (fun entry hEntry =>
            hValues entry (List.mem_cons_of_mem _ hEntry))
          hOthers
      refine ⟨congrArg (key :: ·) hKeys, ?_⟩
      intro entry hEntry
      rcases List.mem_cons.mp hEntry with rfl | hIn
      · exact hValues (key, value) List.mem_cons_self hCarried
      · exact hRest entry hIn
    · cases hAfter

/- Of a table it is the keys and the values that matter. -/
theorem Distinct.carried?
    {value after : Value}
    (hValue : value.Distinct)
    (hAfter : value.carried? = some after) :
    after.Distinct := by
  induction hValue generalizing after with
  | @plain value hPlain =>
    unfold Value.carried? at hAfter
    split at hAfter
    · rcases Option.map_eq_some_iff.mp hAfter with ⟨items, -, rfl⟩
      exact .plain nofun
    · exact absurd ⟨_, rfl⟩ hPlain
    · cases hAfter
      exact .plain hPlain
  | @table entries hKeys hValues ih =>
    rw [Value.carried?] at hAfter
    split at hAfter
    · cases hAfter
    · next others hOthers =>
      obtain ⟨hSame, hAll⟩ :=
        carriedEntries?_eq_some
          (fun entry hEntry {value} hCarried => ih entry hEntry hCarried)
          hOthers
      split at hAfter
      · cases hAfter
      · cases hAfter
        cases hFound : Entries.find? carrierKey others with
        | none => exact .table (hSame ▸ hKeys) hAll
        | some carrier =>
          exact hAll _ (Entries.mem_of_find?_eq_some hFound)

/- A document that is a table makes up a table. -/
theorem Distinct.ofDocument?
    {entries : List (String × Value)}
    {layer : Value}
    (hDocument : Distinct (.table entries))
    (hLayer : Value.ofDocument? (.table entries) = some layer) :
    layer.IsTable ∧ layer.Distinct := by
  rw [Value.ofDocument?] at hLayer
  rcases Option.map_eq_some_iff.mp hLayer with ⟨after, hAfter, rfl⟩
  obtain ⟨hSame, hAll⟩ :=
    carriedEntries?_eq_some
      (fun entry hEntry {value} hCarried =>
        (hDocument.values entry hEntry).carried? hCarried)
      hAfter
  exact ⟨⟨after, rfl⟩, .table (hSame ▸ hDocument.keys) hAll⟩

/- A value under nested keys has no key beside them. -/
theorem Distinct.nest
    {value : Value}
    (hValue : value.Distinct)
    (keys : List String) :
    (Value.nest keys value).Distinct := by
  induction keys with
  | nil => exact hValue
  | cons key rest ih => exact Distinct.empty.put ih key

/- Pairs of which the last one wins. -/
theorem distinct_ofPairs
    {pairs : List (String × Value)}
    (hPairs : ∀ pair ∈ pairs, pair.2.Distinct) :
    Distinct (.table (Entries.ofPairs pairs)) := by
  suffices hAll :
      ∀ entries : List (String × Value),
        Distinct (.table entries) →
        Distinct
          (.table
            (pairs.foldl
              (fun entries (key, value) => Entries.put key value entries)
              entries)) from
    hAll [] .empty
  intro entries hEntries
  induction pairs generalizing entries with
  | nil => exact hEntries
  | cons head rest ih =>
    exact
      ih (fun pair hPair => hPairs pair (List.mem_cons_of_mem _ hPair)) _
        (hEntries.put (hPairs head List.mem_cons_self) head.1)

end Value

------------------------------------------------------------
-- Environments
------------------------------------------------------------

namespace Variable

theorem not_isTable_ofBare (text : List Char) :
    ¬ (ofBare text).IsTable := by
  unfold ofBare
  split
  · nofun
  · split
    · split
      · nofun
      · nofun
    · nofun

/- A value, where the entries of tables in it are well read. -/
theorem distinct_readValue?_succ
    {fuel : Nat}
    {text behind : List Char}
    {value : Value}
    (hEntries :
      ∀ {start rest : List Char} {pairs : List (String × Value)},
        readEntries? fuel start = some (pairs, rest) →
        ∀ pair ∈ pairs, pair.2.Distinct)
    (hValue : readValue? (fuel + 1) text = some (value, behind)) :
    value.Distinct := by
  simp only [readValue?] at hValue
  split at hValue
  · cases hValue
    exact .plain nofun
  · cases hValue
    exact .plain nofun
  · split at hValue
    · rcases Option.map_eq_some_iff.mp hValue with
        ⟨⟨pairs, rest⟩, hRead, hEq⟩
      cases hEq
      exact Value.distinct_ofPairs (hEntries hRead)
    · rcases Option.map_eq_some_iff.mp hValue with ⟨⟨items, _⟩, -, hEq⟩
      cases hEq
      exact .plain nofun
    · rcases Option.map_eq_some_iff.mp hValue with ⟨⟨s, _⟩, -, hEq⟩
      cases hEq
      exact .plain nofun
    · cases hValue
      exact .plain nofun
    · cases hValue
    · cases hValue
      exact .plain (not_isTable_ofBare _)

/- The entries of a table, where values in it are well read. -/
theorem distinct_readEntries?_succ
    {fuel : Nat}
    {text behind : List Char}
    {pairs : List (String × Value)}
    (hValues :
      ∀ {start rest : List Char} {value : Value},
        readValue? fuel start = some (value, rest) → value.Distinct)
    (hEntries :
      ∀ {start rest : List Char} {pairs : List (String × Value)},
        readEntries? fuel start = some (pairs, rest) →
        ∀ pair ∈ pairs, pair.2.Distinct)
    (hPairs : readEntries? (fuel + 1) text = some (pairs, behind)) :
    ∀ pair ∈ pairs, pair.2.Distinct := by
  simp only [readEntries?] at hPairs
  split at hPairs
  · cases hPairs
    exact nofun
  · split at hPairs
    · cases hPairs
    · split at hPairs
      · split at hPairs
        · cases hPairs
        · next value rest hRead =>
          rcases Option.map_eq_some_iff.mp hPairs with
            ⟨⟨others, _⟩, hOthers, hEq⟩
          cases hEq
          intro pair hPair
          rcases List.mem_cons.mp hPair with rfl | hIn
          · exact hValues hRead
          · exact hEntries hOthers pair hIn
        · next value rest hRead =>
          cases hPairs
          intro pair hPair
          rw [List.mem_singleton.mp hPair]
          exact hValues hRead
        · cases hPairs
      · cases hPairs

/-
  What is read out of the text of a variable, by induction on
  the bound of the reading.
-/
theorem distinct_of_read
    (fuel : Nat) :
    (∀ {text behind : List Char} {value : Value},
      readValue? fuel text = some (value, behind) → value.Distinct) ∧
    (∀ {text behind : List Char} {pairs : List (String × Value)},
      readEntries? fuel text = some (pairs, behind) →
      ∀ pair ∈ pairs, pair.2.Distinct) := by
  induction fuel with
  | zero =>
    constructor
    · intro text behind value hValue
      cases hValue
    · intro text behind pairs hPairs
      cases hPairs
  | succ fuel ih =>
    obtain ⟨ihValue, ihEntries⟩ := ih
    exact
      ⟨distinct_readValue?_succ ihEntries,
        distinct_readEntries?_succ ihValue ihEntries⟩

theorem distinct_value (text : String) : (value text).Distinct := by
  unfold value
  split
  · next found hFound =>
    exact (distinct_of_read _).1 hFound
  · exact .plain nofun

/- The layer of an environment. -/
theorem distinct_layer (env : List (String × String)) :
    (layer env).Distinct := by
  refine .mergeLayers ?_
  intro contribution hContribution
  rcases List.mem_filterMap.mp hContribution with
    ⟨⟨name, text⟩, -, hSome⟩
  rcases Option.map_eq_some_iff.mp hSome with ⟨keys, -, rfl⟩
  exact (distinct_value (RawByte.mended text)).nest keys

end Variable

------------------------------------------------------------
-- Layers
------------------------------------------------------------

namespace Config

/- A configuration is written without a key twice. -/
theorem distinct_encode (config : Config) : config.encode.Distinct := by
  have hRoot : (Value.text config.sourceRoot).Distinct := .plain nofun
  have hGeneral :
      Value.Distinct
        (.table [("source_root", .text config.sourceRoot)]) :=
    Value.Distinct.empty.put hRoot "source_root"
  have hBlacklist : (Encode.texts config.blacklist).Distinct := by
    unfold Encode.texts
    exact .plain nofun
  have hLinters :
      Value.Distinct
        (.array (config.linters.map LinterConfig.encode)) :=
    .plain nofun
  exact
    ((Value.Distinct.empty.put hGeneral "general").put hBlacklist
      "blacklist").put hLinters "linters"

/- The layer of a file is a table, also where there is no file. -/
theorem isTable_and_distinct_of_readLayer
    {t : FileTree}
    {session : Session}
    {name : Path}
    {layer : Value}
    (hLayer : readLayer t session name = .ok layer) :
    layer.IsTable ∧ layer.Distinct := by
  unfold readLayer layerOfContent at hLayer
  split at hLayer
  · cases hLayer
    exact ⟨⟨[], rfl⟩, .empty⟩
  · split at hLayer
    · next document hDocument =>
      rcases Option.bind_eq_some_iff.mp hDocument with ⟨text, -, hRead⟩
      obtain ⟨entries, rfl, hDistinct⟩ :=
        Toml.exists_distinct_of_readDocument? hRead
      split at hLayer
      · next made hMade =>
        cases hLayer
        exact hDistinct.ofDocument? hMade
      · cases hLayer
    · cases hLayer

end Config

end TreeLint
