import CacheTelemetry.Proofs.Settings.Fields
import CacheTelemetry.Settings.File
import Mathlib.Tactic.SplitIfs

/-!
# Settings from the files of all formats

What becomes of a file is settled in three ways. There is no table in it (`Settings.HoldsNoTable`):
then the fault is about settings as such and has no cause. Something goes wrong on the way
(`Settings.Meets`): then that is the cause of the fault, as long as the reader is foreign code,
which raises errors of its own (`Settings.Reader.IsForeign`). Or the table makes settings.

Formats matter only to the reader. **Files that hold the same mapping make the same settings, or
fail with the same cause**, since neither the names in a table (`Document.namedEntries_eq`) nor the
settings that it makes depend on its order.
-/

namespace CacheTelemetry

/-! ### Tables of named entries -/

namespace Document

variable {entries entries' : List (Value × Value)}

/-- The name that an entry goes by, if its key is a text. -/
def named? (e : Value × Value) : Option (String × Value) :=
  match e.1 with
  | .text k => some (k, e.2)
  | _ => none

/-- The key of an entry is a text, though maybe no Unicode text. -/
def hasTextKey (e : Value × Value) : Bool :=
  match e.1 with
  | .text _ | .special (.brokenText _) => true
  | _ => false

/-- What becomes of entries depends on what their keys are, and not on their order. -/
theorem namedEntries_eq (entries : List (Value × Value)) :
    namedEntries entries =
      if entries.all hasTextKey then
        if entries.all fun e => (named? e).isSome then .ok (entries.filterMap named?)
        else .error .brokenText
      else .error .notText := by
  induction entries with
  | nil => rfl
  | cons e rest ih =>
    obtain ⟨k, v⟩ := e
    cases k with
    | text k =>
      have named : named? (.text k, v) = some (k, v) := rfl
      have key : hasTextKey (.text k, v) = true := rfl
      rw [namedEntries, ih, List.all_cons, List.all_cons, key, named,
        List.filterMap_cons_some named, Option.isSome_some, Bool.true_and, Bool.true_and]
      split_ifs <;> rfl
    | special x =>
      cases x with
      | brokenText units =>
        have named : named? (.special (.brokenText units), v) = none := rfl
        have key : hasTextKey (.special (.brokenText units), v) = true := rfl
        rw [namedEntries, ih, List.all_cons, List.all_cons, key, named, Option.isSome_none,
          Bool.true_and, Bool.false_and, if_neg Bool.false_ne_true]
        split_ifs <;> rfl
      | _ => rfl
    | _ => rfl

/-- Entries of one mapping: no two of them have the same key, and their order does not matter. -/
structure SameMapping (entries entries' : List (Value × Value)) : Prop where
  distinct : entries.Pairwise fun e e' => e.1.sameKey e'.1 = false
  perm : entries.Perm entries'

theorem nodup_names (distinct : entries.Pairwise fun e e' => e.1.sameKey e'.1 = false) :
    ((entries.filterMap named?).map Prod.fst).Nodup := by
  refine List.pairwise_map.2 (List.pairwise_filterMap.2 (distinct.imp ?_))
  rintro ⟨k, v⟩ ⟨k', v'⟩ differ ⟨name, w⟩ named ⟨name', w'⟩ named' rfl
  cases k <;> cases named
  cases k' <;> cases named'
  simp at differ

/-- The entries of one mapping make tables with the same entries, or none for the same reason. -/
theorem SameMapping.tableOf_cases (same : SameMapping entries entries') :
    (∃ t t', tableOf entries = .ok t ∧ tableOf entries' = .ok t' ∧ t.entries.Perm t'.entries) ∨
      ∃ fault, tableOf entries = .error fault ∧ tableOf entries' = .error fault := by
  have named := same.perm.filterMap named?
  have nodup := nodup_names same.distinct
  have nodup' := (named.map Prod.fst).nodup nodup
  rw [tableOf, tableOf, namedEntries_eq, namedEntries_eq, same.perm.all_eq, same.perm.all_eq]
  split_ifs
  · refine .inl ⟨_, _, rfl, rfl, ?_⟩
    rwa [OrderedMap.entries_ofList nodup, OrderedMap.entries_ofList nodup']
  · exact .inr ⟨.brokenText, rfl, rfl⟩
  · exact .inr ⟨.notText, rfl, rfl⟩

end Document

namespace Settings

variable {read : Reader} {files files' : Files.Tree} {path path' : Files.Path} {s : Settings}
  {v : Document.Value} {fault cause : Fault}
  {entries entries' : List (Document.Value × Document.Value)}

/-- One mapping makes the same settings, or fails with the same fault. -/
theorem ofEntries_of_sameMapping (same : Document.SameMapping entries entries') :
    ofEntries entries = ofEntries entries' := by
  rw [ofEntries, ofEntries]
  rcases same.tableOf_cases with ⟨t, t', table, table', order⟩ | ⟨fault, failed, failed'⟩
  · rw [table, table']
    dsimp only
    rw [ofTable_of_perm order]
  · rw [failed, failed']

/-! ### Faults of foreign code -/

/-- The reader raises errors alone, and none that is about settings. -/
def Reader.IsForeign (read : Reader) : Prop :=
  ∀ format octets f, read format octets = .error f → f.isError = true ∧ f.kind ≠ .settings

theorem isForeign_documentReader : documentReader.IsForeign := by
  intro format octets f failed
  rw [documentReader] at failed
  cases decoded : Document.decode format octets with
  | ok v =>
    rw [decoded] at failed
    cases failed
  | error why =>
    rw [decoded] at failed
    cases failed
    cases why with
    | malformed format => cases format <;> decide
    | _ => decide

/-- Neither do tables of values. -/
theorem isError_of_ofEntries (failed : ofEntries entries = .error fault) :
    fault.isError = true ∧ fault.kind ≠ .settings := by
  rw [ofEntries] at failed
  split at failed
  · rename_i t _
    cases outcome : ofTable t <;> rw [outcome] at failed <;> cases failed
    exact ⟨rfl, nofun⟩
  · cases failed
    exact ⟨rfl, nofun⟩
  · cases failed
    exact ⟨rfl, nofun⟩

/-! ### What a file holds -/

/-- The suffixes of the formats. -/
def suffixes : List String := [".yaml", ".yml", ".toml", ".json"]

theorem ofSuffix?_eq_none_iff {suffix : String} :
    Format.ofSuffix? suffix = none ↔ suffix ∉ suffixes := by
  unfold Format.ofSuffix?
  split <;> simp_all [suffixes]

/-- The file at a path holds a document, in the format of its suffix. -/
def HasDocument (read : Reader) (files : Files.Tree) (path : Files.Path) (v : Document.Value) :
    Prop :=
  ∃ format octets, Format.ofSuffix? (Text.lower path.suffixText) = some format ∧
    files.find path = .present (.file octets) ∧ read format octets = .ok v

/-- There is no file of a known format with a table in it. -/
def HoldsNoTable (read : Reader) (files : Files.Tree) (path : Files.Path) : Prop :=
  files.find path = .absent ∨ Text.lower path.suffixText ∉ suffixes ∨
    ∃ v, HasDocument read files path v ∧ ∀ entries, v ≠ .dict entries

/-- What goes wrong with something of a known format: it is a directory, or its octets cannot be
read, or the values of the table that is read are rejected. -/
inductive Meets (read : Reader) (files : Files.Tree) (path : Files.Path) : Fault → Prop
  | directory {format : Format}
      (known : Format.ofSuffix? (Text.lower path.suffixText) = some format)
      (found : files.find path = .present .directory) : Meets read files path (.directory path.text)
  | unreadable {format : Format} {octets : List UInt8} {cause : Fault}
      (known : Format.ofSuffix? (Text.lower path.suffixText) = some format)
      (found : files.find path = .present (.file octets))
      (failed : read format octets = .error cause) : Meets read files path cause
  | refused {entries : List (Document.Value × Document.Value)} {cause : Fault}
      (document : HasDocument read files path (.dict entries))
      (failed : ofEntries entries = .error cause) : Meets read files path cause

/-! ### What becomes of a file -/

theorem ofFileWith_of_present {entry : Files.Entry} {format : Format}
    (known : Format.ofSuffix? (Text.lower path.suffixText) = some format)
    (found : files.find path = .present entry) :
    ofFileWith read files path = (ofEntry read path format entry).mapError (fileFault path) := by
  rw [ofFileWith, found]
  dsimp only
  rw [known]

/-- The document of a file makes the settings, or fails. -/
theorem exists_ofFileWith_of_hasDocument (document : HasDocument read files path v) :
    ∃ format, ofFileWith read files path =
      (ofDocument format v).mapError (fileFault path) := by
  obtain ⟨format, octets, known, found, decoded⟩ := document
  refine ⟨format, ?_⟩
  rw [ofFileWith_of_present known found, ofEntry, ofOctets, decoded]
  rfl

theorem ofFileWith_of_table (document : HasDocument read files path (.dict entries)) :
    ofFileWith read files path = (ofEntries entries).mapError (fileFault path) :=
  (exists_ofFileWith_of_hasDocument document).choose_spec

/-- Without a table the fault is about settings as such. -/
theorem exists_ofFileWith_of_holdsNoTable (checked : files.find path ≠ .tooLong)
    (none : HoldsNoTable read files path) :
    ∃ why, ofFileWith read files path = .error (.settingsFile why) := by
  rcases none with absent | unsupported | ⟨v, document, other⟩
  · rw [ofFileWith, absent]
    exact ⟨_, rfl⟩
  · rw [ofFileWith]
    split
    · contradiction
    · exact ⟨_, rfl⟩
    · dsimp only
      rw [ofSuffix?_eq_none_iff.2 unsupported]
      exact ⟨_, rfl⟩
  · obtain ⟨format, outcome⟩ := exists_ofFileWith_of_hasDocument document
    rw [outcome]
    cases v <;> first | exact ⟨_, rfl⟩ | exact absurd rfl (other _)

/-- What goes wrong is the cause of the fault. -/
theorem Meets.ofFileWith_eq (foreign : read.IsForeign) (meets : Meets read files path cause) :
    ofFileWith read files path = .error (.unreadableFile path.text cause) := by
  cases meets with
  | directory known found =>
    rw [ofFileWith_of_present known found]
    rfl
  | unreadable known found failed =>
    obtain ⟨error, kind⟩ := foreign _ _ _ failed
    rw [ofFileWith_of_present known found, ofEntry, ofOctets, failed]
    exact congrArg Except.error (fileFault_of_ne error kind path)
  | refused document failed =>
    obtain ⟨error, kind⟩ := isError_of_ofEntries failed
    rw [ofFileWith_of_table document, failed]
    exact congrArg Except.error (fileFault_of_ne error kind path)

/-- There is no table, or something goes wrong, or the table makes settings. -/
theorem file_cases (read : Reader) (checked : files.find path ≠ .tooLong) :
    HoldsNoTable read files path ∨ (∃ cause, Meets read files path cause) ∨
      ∃ entries s, HasDocument read files path (.dict entries) ∧ ofEntries entries = .ok s := by
  cases found : files.find path with
  | tooLong => exact absurd found checked
  | absent => exact .inl (.inl found)
  | present entry =>
    cases known : Format.ofSuffix? (Text.lower path.suffixText) with
    | none => exact .inl (.inr (.inl (ofSuffix?_eq_none_iff.1 known)))
    | some format =>
      cases entry with
      | directory => exact .inr (.inl ⟨_, .directory known found⟩)
      | file octets =>
        cases decoded : read format octets with
        | error cause => exact .inr (.inl ⟨cause, .unreadable known found decoded⟩)
        | ok v =>
          have document : HasDocument read files path v := ⟨format, octets, known, found, decoded⟩
          by_cases table : ∃ entries, v = .dict entries
          · obtain ⟨entries, rfl⟩ := table
            cases outcome : ofEntries entries with
            | error cause => exact .inr (.inl ⟨cause, .refused document outcome⟩)
            | ok s => exact .inr (.inr ⟨entries, s, document, outcome⟩)
          · exact .inl (.inr (.inr ⟨v, document, not_exists.1 table⟩))

/-- A file makes settings exactly if the table in it does. -/
theorem ofFileWith_eq_ok_iff (foreign : read.IsForeign) (checked : files.find path ≠ .tooLong) :
    ofFileWith read files path = .ok s ↔
      ∃ entries, HasDocument read files path (.dict entries) ∧ ofEntries entries = .ok s := by
  constructor
  · intro made
    rcases file_cases read checked with none | ⟨cause, meets⟩ | ⟨entries, s', document, makes⟩
    · obtain ⟨why, failed⟩ := exists_ofFileWith_of_holdsNoTable checked none
      cases failed.symm.trans made
    · cases (meets.ofFileWith_eq foreign).symm.trans made
    · have outcome := ofFileWith_of_table document
      rw [makes] at outcome
      cases outcome.symm.trans made
      exact ⟨entries, document, makes⟩
  · rintro ⟨entries, document, makes⟩
    rw [ofFileWith_of_table document, makes]
    rfl

/-- The fault of a file is about settings. It has no cause if there is no table, and what goes
wrong otherwise. -/
theorem cause_of_ofFileWith_eq_error (foreign : read.IsForeign)
    (checked : files.find path ≠ .tooLong) (failed : ofFileWith read files path = .error fault) :
    fault.kind = .settings ∧ (fault.cause? = none ↔ HoldsNoTable read files path) ∧
      ∀ cause, fault.cause? = some cause ↔ Meets read files path cause := by
  have none_cause (none : HoldsNoTable read files path) :
      fault.kind = .settings ∧ fault.cause? = Option.none := by
    obtain ⟨why, outcome⟩ := exists_ofFileWith_of_holdsNoTable checked none
    cases outcome.symm.trans failed
    exact ⟨rfl, rfl⟩
  have some_cause {cause : Fault} (meets : Meets read files path cause) :
      fault.kind = .settings ∧ fault.cause? = some cause := by
    cases (meets.ofFileWith_eq foreign).symm.trans failed
    exact ⟨rfl, rfl⟩
  rcases file_cases read checked with none | ⟨cause, meets⟩ | ⟨entries, s, document, makes⟩
  · refine ⟨(none_cause none).1, iff_of_true (none_cause none).2 none, fun cause => ?_⟩
    refine ⟨fun caused => ?_, fun meets => (some_cause meets).2⟩
    cases (none_cause none).2.symm.trans caused
  · refine ⟨(some_cause meets).1, ⟨fun caused => ?_, fun none => (none_cause none).2⟩,
      fun other => ?_⟩
    · cases (some_cause meets).2.symm.trans caused
    · refine ⟨fun caused => ?_, fun meets' => (some_cause meets').2⟩
      cases (some_cause meets).2.symm.trans caused
      exact meets
  · rw [ofFileWith_of_table document, makes] at failed
    cases failed

/-- **Files fail in one way, whatever their format.** Where it can be told whether there is a file,
it makes settings exactly if it holds a table that does; all faults are about settings. A fault has
no cause exactly if the file is missing, or its suffix is that of no format, or its document is no
table; and otherwise its cause is what went wrong. Two files that hold the same mapping make the
same settings or fail with the same cause. -/
theorem file_fails_one_way (read : Reader) (foreign : read.IsForeign) (files : Files.Tree)
    (path : Files.Path) (checked : files.find path ≠ .tooLong) :
    (∀ s, ofFileWith read files path = .ok s ↔
      ∃ entries, HasDocument read files path (.dict entries) ∧ ofEntries entries = .ok s) ∧
    (∀ fault, ofFileWith read files path = .error fault →
      fault.kind = .settings ∧
      (fault.cause? = none ↔
        files.find path = .absent ∨
        Text.lower path.suffixText ∉ [".yaml", ".yml", ".toml", ".json"] ∨
        ∃ v, HasDocument read files path v ∧ ∀ entries, v ≠ .dict entries) ∧
      ∀ cause, fault.cause? = some cause ↔ Meets read files path cause) ∧
    ∀ files' path' entries entries', HasDocument read files path (.dict entries) →
      HasDocument read files' path' (.dict entries') → Document.SameMapping entries entries' →
      (∃ s, ofFileWith read files path = .ok s ∧ ofFileWith read files' path' = .ok s) ∨
      ∃ fault fault' cause, ofFileWith read files path = .error fault ∧
        ofFileWith read files' path' = .error fault' ∧
        fault.cause? = some cause ∧ fault'.cause? = some cause := by
  refine ⟨fun s => ofFileWith_eq_ok_iff foreign checked,
    fun fault => cause_of_ofFileWith_eq_error foreign checked, ?_⟩
  intro files' path' entries entries' document document' same
  cases outcome : ofEntries entries with
  | ok s =>
    have outcome' := (ofEntries_of_sameMapping same).symm.trans outcome
    rw [ofFileWith_of_table document, ofFileWith_of_table document', outcome, outcome']
    exact .inl ⟨s, rfl, rfl⟩
  | error cause =>
    have outcome' := (ofEntries_of_sameMapping same).symm.trans outcome
    have meets : Meets read files path cause := .refused document outcome
    have meets' : Meets read files' path' cause := .refused document' outcome'
    exact .inr ⟨_, _, cause, meets.ofFileWith_eq foreign, meets'.ofFileWith_eq foreign, rfl, rfl⟩

/-- A document with a statistics type, in JSON. -/
def typeInJson : List UInt8 := "\x7b\"statistics_type\": \" T \"\x7d".toUTF8.data.toList

/-- The same in TOML. -/
def typeInToml : List UInt8 := "statistics_type = ' T '".toUTF8.data.toList

/-- A document with a name that is no field. -/
def strangerInJson : List UInt8 := "\x7b\"x\": \"y\"\x7d".toUTF8.data.toList

/-- These documents in files. -/
def mixedFiles : Files.Tree :=
  .ofList [(.ofText "a.json", .file typeInJson), (.ofText "b.TOML", .file typeInToml),
    (.ofText "c.json", .file strangerInJson)]

/-- The value is a table with one text in it. -/
def isTextTable (name text : String) : Except Fault Document.Value → Bool
  | .ok (.dict [(.text k, .text v)]) => k == name && v == text
  | _ => false

theorem eq_of_isTextTable {name text : String} {outcome : Except Fault Document.Value}
    (table : isTextTable name text outcome = true) :
    outcome = .ok (.dict [(.text name, .text text)]) := by
  unfold isTextTable at table
  split at table
  · rw [Bool.and_eq_true, beq_iff_eq, beq_iff_eq] at table
    rw [table.1, table.2]
  · cases table

/-- Two formats make the same settings; a rejection is the cause of the fault, and a missing file
has no cause. -/
theorem file_fails_one_way_mixedFiles :
    (∃ s, ofFile mixedFiles (.ofText "a.json") = .ok s ∧
      ofFile mixedFiles (.ofText "b.TOML") = .ok s ∧ s.statisticsType.val = "T") ∧
    (∃ fault, ofFile mixedFiles (.ofText "c.json") = .error fault ∧ fault.kind = .settings ∧
      fault.cause? = some (.rejected [("x", .unexpectedField)])) ∧
    ∃ fault, ofFile mixedFiles (.ofText "d.json") = .error fault ∧ fault.kind = .settings ∧
      fault.cause? = none := by
  have foundA : mixedFiles.find (.ofText "a.json") = .present (.file typeInJson) :=
    Files.Tree.find_eq_walk _ (by decide) (by decide)
  have foundB : mixedFiles.find (.ofText "b.TOML") = .present (.file typeInToml) :=
    Files.Tree.find_eq_walk _ (by decide) (by decide)
  have foundC : mixedFiles.find (.ofText "c.json") = .present (.file strangerInJson) :=
    Files.Tree.find_eq_walk _ (by decide) (by decide)
  have missing : mixedFiles.find (.ofText "d.json") = .absent :=
    Files.Tree.find_eq_walk _ (by decide) (by decide)
  have documentA : HasDocument documentReader mixedFiles (.ofText "a.json")
      (.dict [(.text "statistics_type", .text " T ")]) :=
    ⟨.json, typeInJson, by decide +kernel, foundA, eq_of_isTextTable (by decide +kernel)⟩
  have documentB : HasDocument documentReader mixedFiles (.ofText "b.TOML")
      (.dict [(.text "statistics_type", .text " T ")]) :=
    ⟨.toml, typeInToml, by decide +kernel, foundB, eq_of_isTextTable (by decide +kernel)⟩
  have documentC : HasDocument documentReader mixedFiles (.ofText "c.json")
      (.dict [(.text "x", .text "y")]) :=
    ⟨.json, strangerInJson, by decide +kernel, foundC, eq_of_isTextTable (by decide +kernel)⟩
  refine ⟨?_, ?_, ?_⟩
  · obtain ⟨makes, -, agrees⟩ := file_fails_one_way documentReader isForeign_documentReader
      mixedFiles (.ofText "a.json") (by rw [foundA]; nofun)
    have type : IsTypeText "T" := ⟨by decide, by decide, by decide⟩
    have made := (makes ⟨defaultDomain, ⟨"T", type⟩, false⟩).2 ⟨_, documentA, rfl⟩
    rcases agrees _ _ _ _ documentA documentB ⟨List.pairwise_singleton _ _, .refl _⟩ with
      ⟨s, madeA, madeB⟩ | ⟨fault, -, -, failed, -⟩
    · cases madeA.symm.trans made
      exact ⟨_, made, madeB, rfl⟩
    · cases failed.symm.trans made
  · have checked : mixedFiles.find (.ofText "c.json") ≠ .tooLong := by rw [foundC]; nofun
    have sole : ([("x", .unexpectedField)] : Rejections).mergeSort (fun a b => a.1 ≤ b.1) =
        [("x", .unexpectedField)] := List.mergeSort_singleton _
    have meets : Meets documentReader mixedFiles (.ofText "c.json")
        (.rejected [("x", .unexpectedField)]) :=
      .refused documentC (congrArg (fun r => Except.error (Fault.rejected r)) sole)
    have failed := meets.ofFileWith_eq isForeign_documentReader
    obtain ⟨-, fails, -⟩ := file_fails_one_way documentReader isForeign_documentReader _ _ checked
    obtain ⟨kind, -, caused⟩ := fails _ failed
    exact ⟨_, failed, kind, (caused _).2 meets⟩
  · have checked : mixedFiles.find (.ofText "d.json") ≠ .tooLong := by rw [missing]; nofun
    have holdsNone : HoldsNoTable documentReader mixedFiles (.ofText "d.json") := .inl missing
    obtain ⟨why, failed⟩ := exists_ofFileWith_of_holdsNoTable checked holdsNone
    obtain ⟨-, fails, -⟩ := file_fails_one_way documentReader isForeign_documentReader _ _ checked
    obtain ⟨kind, uncaused, -⟩ := fails _ failed
    exact ⟨_, failed, kind, uncaused.2 holdsNone⟩

end Settings

end CacheTelemetry
