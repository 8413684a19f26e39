import CacheTelemetry.Proofs.ObjectName.Statistics
import CacheTelemetry.Settings.Environment
import CacheTelemetry.Settings.File

/-!
# Where settings come from

Settings are made of a table, of a file or of the environment, and values are assigned to their
fields afterwards. An assignment that is rejected leaves the settings as they are
(`Settings.assigned`). No value of a field goes past its check, and what the checks let through is
what an object name can hold.

So **whatever settings were made and however they were changed, an address and a cache name compose
a name exactly if neither of them holds a double quote** (`Settings.Origin.composes`): the settings
never stand in the way, and never make the name a pattern. In turn all settings are made of a table
(`Settings.ofTable_table`), so nothing is said of settings that do not occur.
-/

namespace CacheTelemetry

/-! ### Checking again -/

/-- A domain stays as it is when it is checked again. -/
theorem DomainText.check_val (d : DomainText) : DomainText.check (.text d.val) = .ok d := by
  have avoids : ObjectName.Avoids ObjectName.barsDomain (Text.trim d.val) := by
    rw [d.property.trimmed]
    exact d.property.avoids
  have kept : DomainText.ofText d.val = .ok d := by
    rw [DomainText.ofText, dif_pos avoids, Except.ok.injEq]
    exact Subtype.ext d.property.trimmed
  rw [DomainText.check, Document.Value.asText, Except.bind]
  exact kept

/-- A statistics type stays as it is when it is checked again. -/
theorem TypeText.check_val (t : TypeText) : TypeText.check (.text t.val) = .ok t := by
  have avoids : ObjectName.Avoids ObjectName.barsKey (Text.trim t.val) := by
    rw [t.property.trimmed]
    exact t.property.avoids
  have full : Text.trim t.val ≠ "" := by
    rw [t.property.trimmed]
    exact t.property.ne_empty
  have kept : TypeText.ofText t.val = .ok t := by
    rw [TypeText.ofText, dif_neg full, dif_pos avoids, Except.ok.injEq]
    exact Subtype.ext t.property.trimmed
  rw [TypeText.check, Document.Value.asText, Except.bind]
  exact kept

namespace Settings

/-- The settings as a table. -/
def table (s : Settings) : Document.Table :=
  .ofList [(Field.domain.name, .text s.domain.val),
    (Field.statisticsType.name, .text s.statisticsType.val),
    (Field.isolateFailures.name, .bool s.isolateFailures)]

/-- All settings are made of their own table. -/
theorem ofTable_table (s : Settings) : ofTable s.table = .ok s := by
  have domain : s.table.get? Field.domain.name = some (.text s.domain.val) := rfl
  have type : s.table.get? Field.statisticsType.name = some (.text s.statisticsType.val) := rfl
  have flag : s.table.get? Field.isolateFailures.name = some (.bool s.isolateFailures) := rfl
  have known : unexpected s.table = [] := rfl
  simp only [ofTable, checkField, domain, type, flag, known, DomainText.check_val,
    TypeText.check_val, checkFlag]

/-! ### Making and changing settings -/

/-- What settings are made of. -/
inductive Origin where
  | table (entries : Document.Table)
  | file (files : Files.Tree) (path : Files.Path)
  | environment (env : Environment) (lead : List Nat)

/-- The settings that are made, or why they cannot be. -/
def Origin.settings : Origin → Except Fault Settings
  | .table entries => (ofTable entries).mapError .rejected
  | .file files path => ofFile files path
  | .environment env lead => ofEnvironment env lead

/-- The settings after a value has been assigned to a name; those before if it is rejected. -/
def assigned (s : Settings) (assignment : String × Document.Value) : Settings :=
  match s.assign assignment.1 assignment.2 with
  | .ok changed => changed
  | .error _ => s

/-- The settings after assignments one after the other. -/
def assignAll (s : Settings) (assignments : List (String × Document.Value)) : Settings :=
  assignments.foldl assigned s

/-- The settings that are made and then changed by assignments, or why they cannot be made. -/
def Origin.settingsAfter (origin : Origin) (assignments : List (String × Document.Value)) :
    Except Fault Settings :=
  origin.settings.map fun s => s.assignAll assignments

/-! ### Composing names -/

variable {κ : Type}

/-- Composing a name of sanitized values fails exactly over a double quote. -/
theorem exists_statisticsName_eq_error_iff (s : Settings) (uri name : Value κ) :
    (∃ unusable, statisticsName s.domain.val s.statisticsType.val uri.sanitized name.sanitized =
        .error unusable) ↔ '"' ∈ uri.plain.toList ∨ '"' ∈ name.plain.toList := by
  have composes : (∃ n, statisticsName s.domain.val s.statisticsType.val uri.sanitized
      name.sanitized = .ok n) ↔ '"' ∉ uri.plain.toList ∧ '"' ∉ name.plain.toList := by
    simp only [exists_statisticsName_iff, s.avoids, uri.avoids_barsValue_sanitized_iff,
      name.avoids_barsValue_sanitized_iff, true_and]
  cases composed : statisticsName s.domain.val s.statisticsType.val uri.sanitized
      name.sanitized with
  | ok n =>
    obtain ⟨free, free'⟩ := composes.1 ⟨n, composed⟩
    simp [free, free']
  | error unusable =>
    refine iff_of_true ⟨unusable, rfl⟩ (Decidable.or_iff_not_not_and_not.2 fun free => ?_)
    obtain ⟨n, ok⟩ := composes.2 free
    cases composed.symm.trans ok

/-- A name that is composed of sanitized values is a pattern exactly over a wildcard. -/
theorem isPattern_iff_of_sanitized {s : Settings} {uri name : Value κ} {n : ObjectName}
    (h : statisticsName s.domain.val s.statisticsType.val uri.sanitized name.sanitized = .ok n) :
    n.isPattern = true ↔
      ∃ c, (c = '*' ∨ c = '?') ∧ (c ∈ uri.plain.toList ∨ c ∈ name.plain.toList) := by
  rw [isPattern_of_sanitized h, Bool.or_eq_true, List.any_eq_true, List.any_eq_true, or_comm,
    ← exists_or]
  refine exists_congr fun c => ?_
  rw [← or_and_right, and_comm, ObjectName.isWildcard, Bool.or_eq_true, beq_iff_eq, beq_iff_eq]

/-- **Settings compose names, wherever they come from.** After any assignments, accepted or
rejected, to settings that were made of a table, a file or the environment, composing the name of
statistics from a sanitized address and a sanitized cache name fails, as over a malformed name,
exactly if one of the two holds a double quote. A name that is composed is a pattern exactly if one
of them holds a wildcard; its domain is that of the settings, and its properties are the type, the
address and the cache name. -/
theorem Origin.composes (origin : Origin) (assignments : List (String × Document.Value))
    (uri name : Value κ) :
    ∀ settings, origin.settingsAfter assignments = .ok settings →
      let composed := statisticsName settings.domain.val settings.statisticsType.val uri.sanitized
        name.sanitized
      ((∃ unusable, composed = .error unusable) ↔
          '"' ∈ uri.plain.toList ∨ '"' ∈ name.plain.toList) ∧
        (∀ unusable, composed = .error unusable →
          (Fault.unusableCacheName unusable).kind = .malformedName) ∧
        ∀ n, composed = .ok n →
          (n.isPattern = true ↔
            ∃ c, (c = '*' ∨ c = '?') ∧ (c ∈ uri.plain.toList ∨ c ∈ name.plain.toList)) ∧
          n.domain = settings.domain.val ∧
          n.properties.Perm [("type", settings.statisticsType.val),
            ("CacheManager", uri.sanitized), ("Cache", name.sanitized)] := by
  -- the rules on the settings are part of their type, however they came about
  intro settings _ composed
  refine ⟨settings.exists_statisticsName_eq_error_iff uri name, fun _ _ => rfl, fun n h => ?_⟩
  obtain ⟨-, domain, properties⟩ := statisticsName_eq_ok_iff.1 h
  refine ⟨isPattern_iff_of_sanitized h, domain, ?_⟩
  rw [properties]
  exact List.reverse_perm [("type", settings.statisticsType.val),
    ("CacheManager", uri.sanitized), ("Cache", name.sanitized)]

/-- Variables whose names and texts are Unicode texts. -/
def textVariables (texts : List (String × String)) : Environment :=
  .ofList (texts.map fun (name, text) => (name.toUTF8.data.toList, Text.codePoints text))

/-- A domain with blanks around it, a type that is assigned, and a domain that is rejected. -/
def assignedOrigin : Except Fault Settings :=
  (Origin.environment (textVariables [("X_OBJECT_NAME_DOMAIN", " d ")])
    (Text.codePoints "X_")).settingsAfter
    [("statistics_type", .text "T"), ("object_name_domain", .text "a:b")]

/-- The settings have a domain and a type, with which some names are composed and others are not. -/
theorem Origin.composes_assigned :
    ∃ settings, assignedOrigin = .ok settings ∧ settings.domain.val = "d" ∧
      settings.statisticsType.val = "T" ∧
      (∃ unusable, statisticsName settings.domain.val settings.statisticsType.val
        (Value.sanitized (.text "m" : Value Empty)) (Value.sanitized (.text "a\"b" : Value Empty)) =
          .error unusable) ∧
      ∃ n, settings.nameOf (.text "m*" : Value Empty) (.text "a,b") = .ok n ∧
        n.isPattern = true ∧ n.domain = "d" ∧
        n.properties.Perm [("type", "T"), ("CacheManager", "m*"), ("Cache", "a.b")] := by
  have parts : (match assignedOrigin with
      | .ok s => some (s.domain.val, s.statisticsType.val)
      | .error _ => none) = some ("d", "T") := by decide +kernel
  cases made : assignedOrigin with
  | error f =>
    rw [made] at parts
    cases parts
  | ok settings =>
    rw [made] at parts
    obtain ⟨domain, type⟩ := Prod.mk.inj (Option.some.inj parts)
    have quoted := Origin.composes _ _ (.text "m" : Value Empty) (.text "a\"b") settings made
    have plain := Origin.composes _ _ (.text "m*" : Value Empty) (.text "a,b") settings made
    obtain ⟨n, composed⟩ := (settings.exists_nameOf_iff (.text "m*" : Value Empty)
      (.text "a,b")).2 ⟨⟨rfl, rfl⟩, by decide, by decide⟩
    obtain ⟨pattern, inDomain, properties⟩ := plain.2.2 n (by
      rwa [nameOf_of_isWritable rfl rfl, mapError_eq_ok_iff] at composed)
    refine ⟨settings, rfl, domain, type, quoted.1.2 (.inr (by decide)), n, composed,
      pattern.2 ⟨'*', by decide, by decide⟩, inDomain.trans domain, ?_⟩
    have sanitized : sanitizeText "m*" = "m*" ∧ sanitizeText "a,b" = "a.b" := by decide +kernel
    rwa [type, Value.sanitized_text, Value.sanitized_text, sanitized.1, sanitized.2] at properties

end Settings

end CacheTelemetry
