import CacheTelemetry.Proofs.Settings.Fields
import CacheTelemetry.Proofs.Settings.Origin
import CacheTelemetry.Proofs.Text.Case

/-!
# Settings from the texts of variables

The text of a flag is looked for among a few words before it is checked, in lower case by the full
table, while the check itself knows more words and looks at ASCII letters alone. **The first look
changes nothing** (`Settings.checkFlag_flagOrText`): none of its words can be written with letters
outside of ASCII, and the check takes all of them in the same sense. The texts of the other two
fields are not looked at before they are checked.

So the settings from the environment are those that the texts of its variables make as they are
(`Settings.ofEnvironment_eq_ofTable`), and where these are rejected, that is the cause of the fault.
This is so as long as the variables can be looked up: **under a lead without octets every
environment fails** (`Settings.ofEnvironment_of_encode?_eq_none`), and not as over settings.
-/

namespace CacheTelemetry

/-- The domain given by a text is that text, trimmed. -/
theorem DomainText.val_of_check {raw : String} {d : DomainText}
    (given : DomainText.check (.text raw) = .ok d) : d.val = Text.trim raw := by
  rw [DomainText.check, Document.Value.asText, Except.bind, DomainText.ofText] at given
  split_ifs at given
  exact (congrArg Subtype.val (Except.ok.inj given)).symm

/-- The statistics type given by a text is that text, trimmed. -/
theorem TypeText.val_of_check {raw : String} {t : TypeText}
    (given : TypeText.check (.text raw) = .ok t) : t.val = Text.trim raw := by
  rw [TypeText.check, Document.Value.asText, Except.bind, TypeText.ofText] at given
  split_ifs at given
  exact (congrArg Subtype.val (Except.ok.inj given)).symm

namespace Text

/-- The octets of names one after the other. -/
theorem encode?_append (a b : List Nat) :
    encode? (a ++ b) = (encode? a).bind fun x => (encode? b).map (x ++ ·) := by
  simp only [encode?, List.mapM_append]
  cases a.mapM octetsOf? <;> cases b.mapM octetsOf? <;> simp

/-- The characters of a Unicode text have octets. -/
theorem exists_encode?_codePoints (s : String) :
    ∃ octets, encode? (codePoints s) = some octets := by
  rw [encode?, codePoints]
  induction s.toList with
  | nil => exact ⟨[], rfl⟩
  | cons c rest ih =>
    obtain ⟨octets, others⟩ := ih
    obtain ⟨parts, found, -⟩ := Option.map_eq_some_iff.1 others
    have first : octetsOf? c.toNat = some (String.utf8EncodeChar (Char.ofNat c.toNat)) :=
      if_pos c.valid
    exact ⟨_, by rw [List.map_cons, List.mapM_cons, first, found]; rfl⟩

end Text

namespace Settings

variable {env env' : Environment} {lead : List Nat} {f : Field} {raw : Document.Value}
  {g : Field → Option Document.Value}

/-! ### Words for truth values -/

/-- The words for truth values that are looked for first have no letter that is the lower case of
one outside of ASCII. -/
theorem isPlain_of_mem_words : ∀ w ∈ ["true", "yes", "on"] ++ ["false", "no", "off"],
    ∀ c ∈ w.toList, Text.IsPlain c := by
  -- by `all`, or else the question would be put to every character there is
  have plain : ∀ w ∈ ["true", "yes", "on"] ++ ["false", "no", "off"],
      (w.toList.all fun c => decide (Text.IsPlain c)) = true := by decide
  exact fun w known c letter => of_decide_eq_true (List.all_eq_true.1 (plain w known) c letter)

/-- The check of a flag knows these words, and takes them in the same sense. -/
theorem mem_words :
    (∀ w ∈ ["true", "yes", "on"], w ∈ ["1", "on", "t", "true", "y", "yes"]) ∧
      ∀ w ∈ ["false", "no", "off"],
        w ∉ ["1", "on", "t", "true", "y", "yes"] ∧ w ∈ ["0", "off", "f", "false", "n", "no"] := by
  decide

/-- **Looking for words first changes nothing**: the text of a flag passes or fails as it would as
it is, whatever letters are in it. -/
theorem checkFlag_flagOrText (raw : String) :
    checkFlag (flagOrText raw) = checkFlag (.text raw) := by
  have word (known : Text.lower raw ∈ ["true", "yes", "on"] ++ ["false", "no", "off"]) :
      Text.lowerAscii raw = Text.lower raw :=
    Text.lowerAscii_eq_of_lower (isPlain_of_mem_words _ known)
  rw [flagOrText]
  split_ifs with yes no
  · rw [checkFlag, checkFlag, flagOfWord, word (List.mem_append_left _ yes),
      if_pos (mem_words.1 _ yes)]
  · obtain ⟨other, known⟩ := mem_words.2 _ no
    rw [checkFlag, checkFlag, flagOfWord, word (List.mem_append_right _ no), if_neg other,
      if_pos known]
  · rfl

/-- So do the texts of all variables, Unicode texts or not. -/
theorem check_variableValue (f : Field) (raw : Document.Value) :
    check f (variableValue f raw) = check f raw := by
  cases f with
  | isolateFailures =>
    cases raw with
    | text s => exact checkFlag_flagOrText s
    | _ => rfl
  | _ => rfl

/-! ### Tables of fields -/

/-- The table that has these values for fields. -/
def fieldTable (g : Field → Option Document.Value) : Document.Table :=
  .ofList (Field.all.filterMap fun f => (g f).map fun v => (f.name, v))

theorem get?_fieldTable (g : Field → Option Document.Value) (f : Field) :
    (fieldTable g).get? f.name = g f := by
  rw [fieldTable, Field.all]
  cases domain : g .domain <;> cases type : g .statisticsType <;>
    cases flag : g .isolateFailures <;> cases f <;> simp [*] <;> rfl

theorem unexpected_fieldTable (g : Field → Option Document.Value) :
    unexpected (fieldTable g) = [] := by
  rw [fieldTable, Field.all]
  cases domain : g .domain <;> cases type : g .statisticsType <;>
    cases flag : g .isolateFailures <;> simp [*] <;> rfl

theorem contentIn_fieldTable (g : Field → Option Document.Value) (f : Field) :
    contentIn (fieldTable g) f = (g f).elim (.ok (standard.content f)) (check f) := by
  rw [contentIn, checkField, get?_fieldTable]
  cases g f <;> rfl

/-! ### Names of variables -/

/-- The name of a variable has octets if the lead has: the letters of a field have. -/
theorem encode?_variableName_eq_none_iff :
    Text.encode? (variableName lead f) = none ↔ Text.encode? lead = none := by
  rw [variableName, Text.encode?_append]
  obtain ⟨octets, letters⟩ := Text.exists_encode?_codePoints (f.name.map Char.toUpper)
  rw [letters]
  cases Text.encode? lead <;> simp

/-- The text of the variable for a field, if there is one. -/
def variableText (env : Environment) (lead : List Nat) (f : Field) : Option Document.Value := do
  let octets ← Text.encode? (variableName lead f)
  return Document.ofCodePoints (← env.get? octets)

/-- The code points of a Unicode text are read as that text. -/
theorem ofCodePoints_codePoints (s : String) :
    Document.ofCodePoints (Text.codePoints s) = .text s := by
  have valid : ((Text.codePoints s).all fun n => decide n.isValidChar) = true := by
    rw [List.all_eq_true, Text.codePoints]
    intro n hn
    obtain ⟨c, -, rfl⟩ := List.mem_map.1 hn
    exact decide_eq_true c.valid
  have back : (Text.codePoints s).map Char.ofNat = s.toList := by
    rw [Text.codePoints, List.map_map]
    exact List.map_id'' (fun c => Char.ofNat_toNat c) _
  rw [Document.ofCodePoints, if_pos valid, back, String.ofList_toList]

/-- The variable for a field, if its text is a Unicode text. -/
theorem variableText_of_get? {octets : List UInt8} {s : String}
    (name : Text.encode? (variableName lead f) = some octets)
    (set : env.get? octets = some (Text.codePoints s)) :
    variableText env lead f = some (.text s) := by
  rw [variableText, name, Option.bind_eq_bind, Option.bind_some, set, Option.bind_eq_bind,
    Option.bind_some, ofCodePoints_codePoints]
  rfl

/-- A variable whose name has octets is looked up. -/
theorem lookUp_variableName (named : Text.encode? lead ≠ none) (env : Environment) (f : Field) :
    lookUp env (variableName lead f) = .ok (variableText env lead f) := by
  obtain ⟨octets, found⟩ := Option.ne_none_iff_exists'.1
    (mt (encode?_variableName_eq_none_iff (f := f)).1 named)
  rw [lookUp, variableText, found]
  cases h : env.get? octets <;> simp [h]

/-- No variable can be looked up under a lead without octets. -/
theorem lookUp_of_encode?_eq_none (unnamed : Text.encode? lead = none) (env : Environment)
    (f : Field) : lookUp env (variableName lead f) = .error .unencodable := by
  rw [lookUp, encode?_variableName_eq_none_iff.2 unnamed]

/-- No variable has a name without octets. -/
theorem variableText_of_encode?_eq_none (unnamed : Text.encode? lead = none) (env : Environment)
    (f : Field) : variableText env lead f = none := by
  rw [variableText, encode?_variableName_eq_none_iff.2 unnamed]
  rfl

/-! ### Settings from the environment -/

/-- The texts of the variables that are set, under the names of their fields. -/
def textTable (env : Environment) (lead : List Nat) : Document.Table :=
  fieldTable (variableText env lead)

theorem environmentTable_eq (named : Text.encode? lead ≠ none) (env : Environment) :
    environmentTable env lead =
      .ok (fieldTable fun f => (variableText env lead f).map (variableValue f)) := by
  simp only [environmentTable, lookUp_variableName named, Field.all, List.mapM_cons, List.mapM_nil,
    fieldTable, Option.map_map]
  rfl

/-- The settings from the environment are those from the texts. -/
theorem ofEnvironment_eq_ofTable (named : Text.encode? lead ≠ none) (env : Environment) :
    ofEnvironment env lead = (ofTable (textTable env lead)).mapError .environment := by
  have same : ofTable (fieldTable fun f => (variableText env lead f).map (variableValue f)) =
      ofTable (textTable env lead) := by
    rw [textTable]
    refine ofTable_congr (fun f => ?_) (.of_eq ?_)
    · rw [contentIn_fieldTable, contentIn_fieldTable]
      cases variableText env lead f with
      | none => rfl
      | some raw => exact check_variableValue f raw
    · rw [unexpected_fieldTable, unexpected_fieldTable]
  rw [ofEnvironment, environmentTable_eq named, ← same]
  rfl

/-- A lead without octets is a fault in every environment. -/
theorem ofEnvironment_of_encode?_eq_none (unnamed : Text.encode? lead = none)
    (env : Environment) : ofEnvironment env lead = .error .unencodable := by
  have first : environmentTable env lead = .error .unencodable := by
    rw [environmentTable, Field.all, List.mapM_cons, lookUp_of_encode?_eq_none unnamed]
    rfl
  rw [ofEnvironment, first]
  rfl

/-- A field whose variable is set holds what the text of the variable puts there. -/
theorem check_text_of_ofEnvironment (named : Text.encode? lead ≠ none) {s : Settings}
    (made : ofEnvironment env lead = .ok s) (set : variableText env lead f = some raw) :
    check f raw = .ok (s.content f) := by
  rw [ofEnvironment_eq_ofTable named, mapError_eq_ok_iff, ofTable_eq_ok_iff] at made
  have given := made.2 f
  rwa [textTable, contentIn_fieldTable, set, Option.elim_some] at given

/-- **Settings from the environment are settings from texts, if the variables can be looked up.**
They can exactly if the lead has octets. Otherwise no variable has such a name, so there are no
texts, but the settings are not the standard ones: the look-up fails with a fault of its own.

Where the lead has octets, the settings depend on the variables of the three fields alone. If the
texts of those that are set make settings, the environment makes the same ones; if they are
rejected, the environment fails with a fault about settings whose cause is that rejection. A text
field holds the text of its variable, trimmed and not taken for anything else, and no text of a flag
passes or fails because it is first looked for among words. -/
theorem environment_agrees_with_texts (env : Environment) (lead : List Nat) :
    let outcome := (Origin.environment env lead).settings
    let ofTexts := (Origin.table (textTable env lead)).settings
    (Text.encode? lead = none →
      ofTexts = .ok standard ∧ ∃ fault, outcome = .error fault ∧ fault.kind = .unencodable) ∧
    (Text.encode? lead ≠ none →
      (∀ env' : Environment, (∀ f, variableText env' lead f = variableText env lead f) →
        (Origin.environment env' lead).settings = outcome) ∧
      (∀ s, ofTexts = .ok s → outcome = .ok s) ∧
      (∀ cause, ofTexts = .error cause → cause.kind = .validation ∧
        ∃ fault, outcome = .error fault ∧ fault.kind = .settings ∧ fault.cause? = some cause) ∧
      (∀ s, outcome = .ok s →
        (∀ raw, variableText env lead .domain = some (.text raw) →
          s.domain.val = Text.trim raw) ∧
        ∀ raw, variableText env lead .statisticsType = some (.text raw) →
          s.statisticsType.val = Text.trim raw) ∧
      ∀ raw, checkFlag (variableValue .isolateFailures raw) = checkFlag raw) := by
  dsimp only [Origin.settings]
  refine ⟨fun unnamed => ⟨?_, .unencodable, ofEnvironment_of_encode?_eq_none unnamed env, rfl⟩,
    fun named => ⟨fun env' same => ?_, fun s made => ?_, fun cause failed => ?_, fun s made => ?_,
      check_variableValue .isolateFailures⟩⟩
  · have texts : textTable env lead = ∅ := by
      simp only [textTable, fieldTable, variableText_of_encode?_eq_none unnamed, Field.all]
      rfl
    rw [texts]
    rfl
  · rw [ofEnvironment_eq_ofTable named, ofEnvironment_eq_ofTable named, textTable, textTable,
      funext same]
  · rw [mapError_eq_ok_iff] at made
    rw [ofEnvironment_eq_ofTable named, made]
    rfl
  · rw [ofEnvironment_eq_ofTable named]
    cases outcome : ofTable (textTable env lead) with
    | ok s =>
      rw [outcome] at failed
      cases failed
    | error rejections =>
      rw [outcome] at failed
      cases failed
      exact ⟨rfl, .environment rejections, rfl, rfl, rfl⟩
  · constructor
    · intro raw set
      have given : DomainText.check (.text raw) = .ok s.domain :=
        check_text_of_ofEnvironment (f := .domain) named made set
      exact DomainText.val_of_check given
    · intro raw set
      have given : TypeText.check (.text raw) = .ok s.statisticsType :=
        check_text_of_ofEnvironment (f := .statisticsType) named made set
      exact TypeText.val_of_check given

/-- A domain that is a word for a truth value, and a flag in mixed case. -/
def wordyEnvironment : Environment :=
  textVariables [("X_OBJECT_NAME_DOMAIN", " true "), ("X_ISOLATE_FAILURES", "yEs")]

/-- A flag with a blank behind the word. -/
def blankEnvironment : Environment := textVariables [("X_ISOLATE_FAILURES", "on ")]

/-- The word stays the text of a domain and gives the flag; with a blank it is rejected. Under a
surrogate for a lead the variables cannot be looked up. -/
theorem environment_agrees_with_texts_words :
    let lead := Text.codePoints "X_"
    (∃ s, (Origin.table (textTable wordyEnvironment lead)).settings = .ok s ∧
      (Origin.environment wordyEnvironment lead).settings = .ok s ∧
      s.domain.val = "true" ∧ s.isolateFailures = true) ∧
    (∃ cause fault, (Origin.table (textTable blankEnvironment lead)).settings = .error cause ∧
      (Origin.environment blankEnvironment lead).settings = .error fault ∧
      fault.kind = .settings ∧ fault.cause? = some cause) ∧
    ∃ fault, (Origin.environment wordyEnvironment [0xd800]).settings = .error fault ∧
      fault.kind = .unencodable := by
  intro lead
  have named : Text.encode? lead ≠ none := by decide +kernel
  obtain ⟨-, makes, -, texts, -⟩ := (environment_agrees_with_texts wordyEnvironment lead).2 named
  obtain ⟨-, -, fails, -, -⟩ := (environment_agrees_with_texts blankEnvironment lead).2 named
  have flag : (match (Origin.table (textTable wordyEnvironment lead)).settings with
      | .ok s => some s.isolateFailures
      | .error _ => none) = some true := by decide +kernel
  have refused : (match (Origin.table (textTable blankEnvironment lead)).settings with
      | .ok _ => false
      | .error _ => true) = true := by decide +kernel
  refine ⟨?_, ?_, ((environment_agrees_with_texts wordyEnvironment [0xd800]).1 rfl).2⟩
  · cases made : (Origin.table (textTable wordyEnvironment lead)).settings with
    | error cause =>
      rw [made] at flag
      cases flag
    | ok s =>
      rw [made] at flag
      have outcome := makes s made
      have name : Text.encode? (variableName lead .domain) =
          some "X_OBJECT_NAME_DOMAIN".toUTF8.data.toList := by decide +kernel
      have domain := (texts s outcome).1 " true " (variableText_of_get? name (by decide +kernel))
      have trimmed : Text.trim " true " = "true" := by decide +kernel
      exact ⟨s, rfl, outcome, domain.trans trimmed, Option.some.inj flag⟩
  · cases failed : (Origin.table (textTable blankEnvironment lead)).settings with
    | ok s =>
      rw [failed] at refused
      cases refused
    | error cause =>
      obtain ⟨-, fault, outcome, kind, caused⟩ := fails cause failed
      exact ⟨cause, fault, rfl, outcome, kind, caused⟩

/-- Under a lead that is a surrogate no variable is set, and the settings cannot be made. -/
theorem environment_unencodable_surrogate :
    (Origin.table (textTable ∅ [0xd800])).settings = .ok standard ∧
      (Origin.environment ∅ [0xd800]).settings = .error .unencodable ∧
      Fault.unencodable.kind ≠ .settings :=
  ⟨rfl, rfl, by decide⟩

end Settings

end CacheTelemetry
