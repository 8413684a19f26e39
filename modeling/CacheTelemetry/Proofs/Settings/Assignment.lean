import CacheTelemetry.Proofs.Session.Assignments
import CacheTelemetry.Proofs.Settings.Fields
import Mathlib.Tactic.SplitIfs

/-!
# Assigning values to settings

Settings can be made of a table at once, or by assigning values to names one after the other. An
assignment is taken or rejected whatever the settings are (`Settings.rejects_iff_rejects`), and what
it puts into a field does not depend on them either. So after any assignments each field holds what
the last one that it accepted has put there (`content_assignAll`), and **a table makes the settings
that its entries make in any order, as long as all its names are fields**
(`ofTable_eq_ok_iff_assignEach`).

A name that is no field is refused in a table. Assigned to, it is rejected too, unless it is private
(`rejectsUnknown_iff`): a private name takes any value, and the settings do not change.
-/

namespace CacheTelemetry.Settings

variable {s s' : Settings} {t : Document.Table} {f : Field} {v : Document.Value}
  {name : String}

/-- A value that is assigned to a name. -/
abbrev Assignment := String × Document.Value

variable {a : Assignment} {as order : List Assignment}

/-- The settings do not take the assignment. -/
def Rejects (s : Settings) (a : Assignment) : Prop := ∃ fault, s.assign a.1 a.2 = .error fault

/-- What an assignment puts into a field, if it is one to this field and its value passes. -/
def accepted (f : Field) (a : Assignment) : Option (Content f) :=
  if a.1 = f.name then (check f a.2).toOption else none

/-- The settings after some assignments, all of which are taken. -/
def assignEach (s : Settings) (as : List Assignment) : Except AssignmentFault Settings :=
  as.foldlM (fun s a => s.assign a.1 a.2) s

/-! ### One assignment -/

theorem assign_of_ofName? (known : Field.ofName? name = some f) (s : Settings)
    (v : Document.Value) :
    s.assign name v = ((check f v).map (s.put f)).mapError .rejected := by
  rw [assign, known, ← change_eq]

theorem rejects_iff_of_ofName? (known : Field.ofName? name = some f) :
    s.Rejects (name, v) ↔ ∃ why, check f v = .error why := by
  rw [Rejects, assign_of_ofName? known]
  cases check f v <;> simp [Except.map, Except.mapError]

theorem rejects_iff_of_unknown (unknown : Field.ofName? name = none) :
    s.Rejects (name, v) ↔
      name ∈ readOnlyNames ∨ name ∈ structuralNames ∨ isPrivate name = false := by
  rw [Rejects, assign, unknown]
  dsimp only
  split_ifs <;> simp_all

/-- Whether an assignment is rejected does not depend on the settings. -/
theorem rejects_iff_rejects (s s' : Settings) (a : Assignment) : s.Rejects a ↔ s'.Rejects a := by
  obtain ⟨name, v⟩ := a
  cases known : Field.ofName? name with
  | some f => rw [rejects_iff_of_ofName? known, rejects_iff_of_ofName? known]
  | none => rw [rejects_iff_of_unknown known, rejects_iff_of_unknown known]

/-- A rejected assignment leaves the settings as they are. -/
theorem assigned_of_rejects (rejected : s.Rejects a) : s.assigned a = s := by
  obtain ⟨fault, failed⟩ := rejected
  rw [assigned, failed]

theorem assign_of_not_rejects (taken : ¬ s.Rejects a) : s.assign a.1 a.2 = .ok (s.assigned a) := by
  cases outcome : s.assign a.1 a.2 with
  | error fault => exact absurd ⟨fault, outcome⟩ taken
  | ok s' => rw [assigned, outcome]

/-- What is assigned to the name of no field changes nothing, even if it is taken. -/
theorem assigned_of_unknown (unknown : Field.ofName? name = none) (s : Settings)
    (v : Document.Value) : s.assigned (name, v) = s := by
  rw [assigned, assign, unknown]
  dsimp only
  split_ifs <;> rfl

/-- An assignment gives a field what it puts there, if anything. -/
theorem content_assigned (s : Settings) (a : Assignment) (f : Field) :
    (s.assigned a).content f = (accepted f a).getD (s.content f) := by
  obtain ⟨name, v⟩ := a
  cases known : Field.ofName? name with
  | none =>
    have other : name ≠ f.name := by
      rintro rfl
      cases known.symm.trans (Field.ofName?_name f)
    rw [assigned_of_unknown known, accepted, if_neg other, Option.getD_none]
  | some g =>
    have outcome := assign_of_ofName? known s v
    rw [Field.ofName?_eq_some_iff] at known
    rw [assigned, accepted]
    dsimp only
    rw [outcome, ← known]
    by_cases same : g = f
    · subst same
      rw [if_pos rfl]
      cases check g v with
      | error why => rfl
      | ok c => exact content_put s g c
    · rw [if_neg (Field.name_injective.ne same), Option.getD_none]
      cases check g v with
      | error why => rfl
      | ok c => exact content_put_of_ne s c (Ne.symm same)

/-! ### Assignments one after the other -/

theorem assignAll_concat (s : Settings) (as : List Assignment) (a : Assignment) :
    s.assignAll (as ++ [a]) = (s.assignAll as).assigned a :=
  List.foldl_append ..

theorem assignAll_cons (s : Settings) (a : Assignment) (as : List Assignment) :
    s.assignAll (a :: as) = (s.assigned a).assignAll as := rfl

/-- Each field holds what the last assignment to it that was accepted has put there. -/
theorem content_assignAll (s : Settings) (as : List Assignment) (f : Field) :
    (s.assignAll as).content f = (as.filterMap (accepted f)).getLast?.getD (s.content f) := by
  induction as generalizing s with
  | nil => rfl
  | cons a as ih =>
    rw [assignAll_cons, ih, content_assigned]
    cases taken : accepted f a with
    | none => rw [List.filterMap_cons_none taken, Option.getD_none]
    | some c =>
      rw [List.filterMap_cons_some taken, List.getLast?_cons, Option.getD_some, Option.getD_some]

/-- Assignments are all taken if none of them is rejected. -/
theorem assignEach_eq_ok_iff :
    s.assignEach as = .ok s' ↔ (∀ a ∈ as, ¬ s.Rejects a) ∧ s.assignAll as = s' := by
  induction as generalizing s with
  | nil => simp [assignEach, assignAll, pure, Except.pure]
  | cons a as ih =>
    rw [assignEach, List.foldlM_cons, List.forall_mem_cons, assignAll_cons]
    by_cases rejected : s.Rejects a
    · obtain ⟨fault, failed⟩ := id rejected
      simp [failed, rejected, bind, Except.bind]
    · rw [assign_of_not_rejects rejected]
      refine ih.trans (and_congr_left fun _ => ?_)
      rw [and_iff_right rejected]
      exact forall₂_congr fun b _ => not_congr (rejects_iff_rejects _ _ b)

/-! ### Assigning the entries of a table -/

theorem toOption_eq_some_iff {ε α : Type} {x : Except ε α} {c : α} :
    x.toOption = some c ↔ x = .ok c := by
  cases x <;> simp [Except.toOption]

theorem mem_filterMap_accepted_iff {c : Content f} :
    c ∈ as.filterMap (accepted f) ↔ ∃ v, (f.name, v) ∈ as ∧ check f v = .ok c := by
  rw [List.mem_filterMap]
  constructor
  · rintro ⟨⟨name, v⟩, given, taken⟩
    rw [accepted] at taken
    split_ifs at taken with named
    subst named
    exact ⟨v, given, toOption_eq_some_iff.1 taken⟩
  · rintro ⟨v, given, passes⟩
    exact ⟨(f.name, v), given, by rw [accepted, if_pos rfl, passes]; rfl⟩

/-- The entries of a table have one value for a field at most, in whichever order. -/
theorem getLast?_accepted_of_perm (same : order.Perm t.entries) (f : Field) :
    (order.filterMap (accepted f)).getLast? =
      (t.get? f.name).bind fun v => (check f v).toOption := by
  have held : ∀ c, c ∈ order.filterMap (accepted f) ↔
      ((t.get? f.name).bind fun v => (check f v).toOption) = some c := by
    intro c
    rw [mem_filterMap_accepted_iff, Option.bind_eq_some_iff]
    refine exists_congr fun v => ?_
    rw [same.mem_iff, OrderedMap.get?_eq_some_iff_mem, toOption_eq_some_iff]
  cases last : (order.filterMap (accepted f)).getLast? with
  | none =>
    rw [List.getLast?_eq_none_iff] at last
    refine (Option.eq_none_iff_forall_ne_some.2 fun c found => ?_).symm
    have given := (held c).2 found
    rw [last] at given
    cases given
  | some c => exact ((held c).1 (List.mem_of_getLast? last)).symm

/-- A table makes the settings that its entries make when they are assigned to the standard ones, in
whichever order, as long as all its names are fields. -/
theorem ofTable_eq_ok_iff_assignEach (same : order.Perm t.entries) :
    ofTable t = .ok s ↔
      (∀ name ∈ t.keys, Field.ofName? name ≠ none) ∧ standard.assignEach order = .ok s := by
  have content : ∀ f, (standard.assignAll order).content f =
      ((t.get? f.name).bind fun v => (check f v).toOption).getD (standard.content f) := by
    intro f
    rw [content_assignAll, getLast?_accepted_of_perm same]
  rw [ofTable_eq_ok_iff, assignEach_eq_ok_iff, unexpected_eq_nil_iff]
  refine and_congr_right fun known => ?_
  constructor
  · intro held
    refine ⟨fun a given rejected => ?_, eq_of_content fun f => ?_⟩
    · have found := OrderedMap.get?_eq_some_iff_mem.2 (same.mem_iff.1 given)
      obtain ⟨f, field⟩ := Option.ne_none_iff_exists'.1
        (known a.1 (List.mem_map_of_mem (same.mem_iff.1 given)))
      obtain ⟨why, fails⟩ := (rejects_iff_of_ofName? field).1 rejected
      rw [← Field.ofName?_eq_some_iff.1 field] at found
      cases (held f).symm.trans (contentIn_eq_error_iff.2 ⟨a.2, found, fails⟩)
    · have passes := held f
      rw [contentIn, checkField] at passes
      rw [content]
      cases found : t.get? f.name with
      | none =>
        rw [found] at passes
        exact Except.ok.inj passes
      | some v =>
        rw [found] at passes
        rw [Option.bind_some, toOption_eq_some_iff.2 passes, Option.getD_some]
  · rintro ⟨taken, rfl⟩ f
    rw [content, contentIn, checkField]
    cases found : t.get? f.name with
    | none => rfl
    | some v =>
      have given : (f.name, v) ∈ order := same.mem_iff.2 (OrderedMap.get?_eq_some_iff_mem.1 found)
      have passes := mt (rejects_iff_of_ofName? f.ofName?_name).2 (taken _ given)
      cases checked : check f v with
      | error why => exact absurd ⟨why, checked⟩ passes
      | ok c => simp [checked, Except.toOption]

/-- All of these names that are no fields are rejected, whatever value is assigned to them. -/
def RejectsUnknown (names : List String) : Prop :=
  ∀ name ∈ names, Field.ofName? name = none → ∀ (s : Settings) v, s.Rejects (name, v)

theorem isPrivate_name (f : Field) : isPrivate f.name = false := by
  cases f <;> decide

/-- Private names are the only ones that are neither fields nor always rejected. -/
theorem rejectsUnknown_iff {names : List String} : RejectsUnknown names ↔
    ∀ name ∈ names, isPrivate name = true → name ∈ readOnlyNames ∨ name ∈ structuralNames := by
  refine forall₂_congr fun name _ => ?_
  constructor
  · intro rejects hidden
    have unknown : Field.ofName? name = none := by
      refine Option.eq_none_iff_forall_ne_some.2 fun f known => ?_
      rw [← Field.ofName?_eq_some_iff.1 known, isPrivate_name] at hidden
      cases hidden
    rcases (rejects_iff_of_unknown unknown).1 (rejects unknown standard .null) with
      readOnly | structural | shown
    · exact .inl readOnly
    · exact .inr structural
    · cases shown.symm.trans hidden
  · intro hidden unknown s v
    rw [rejects_iff_of_unknown unknown]
    cases shown : isPrivate name with
    | false => exact .inr (.inr rfl)
    | true => exact (hidden shown).imp_right .inl

/-- **Making settings of a table and assigning its entries agree.** If names that are no fields are
rejected, a table makes settings exactly if its entries can be assigned to the standard settings in
every order, and makes the settings that these then are; if it is refused, the names in the report
are those that are rejected when they are assigned alone.

After any assignments, each field holds what the last one that was accepted has put there, and the
settings are made again of their own table. Rejected assignments leave the settings as they are, and
leave no trace in a session.

Steps of a session that assign values to the settings of a collector, one after the other, do this
to the settings and nothing to the rest of the world but the log. The next one is answered with the
settings that it makes, or with why it is rejected. -/
theorem construction_agrees_with_assignment :
    (∀ t : Document.Table, RejectsUnknown t.keys →
      (∀ order, order.Perm t.entries → ∀ s,
        ofTable t = .ok s ↔ standard.assignEach order = .ok s) ∧
      ∀ r, ofTable t = .error r → ∀ (s : Settings) name,
        name ∈ r.map Prod.fst ↔ ∃ v, t.get? name = some v ∧ s.Rejects (name, v)) ∧
    (∀ (s : Settings) (as : List Assignment),
      (∀ a, (s.assignAll as).Rejects a → s.assignAll (as ++ [a]) = s.assignAll as) ∧
      (∀ f, (s.assignAll as).content f =
        (as.filterMap (accepted f)).getLast?.getD (s.content f)) ∧
      ofTable (s.assignAll as).table = .ok (s.assignAll as)) ∧
    (∀ (w w' : Session.World) id name v fault,
      (Session.assign id name v).runFrom w = (.error fault, w') → w' = w) ∧
    ∀ (w : Session.World) id p s, w.collectorIds.get? id = some p →
      w.settings[(w.collectorAt p).settings]? = some s → ∀ as : List Assignment,
      let v := Session.worldAfter (Session.assignSteps id as) w
      (w.assignAll p as).SameButLog v ∧
        (∀ f, (v.settingsAt (w.collectorAt p).settings).content f =
          (as.filterMap (accepted f)).getLast?.getD (s.content f)) ∧
        ∀ a, (Session.reportOn (.assign id a.1 a.2) v).1.outcome =
          Session.assignAnswer (s.assignAll as) a := by
  refine ⟨fun t unknown => ⟨fun order same s => ?_, fun r refused s name => ?_⟩, fun s as => ?_,
    fun w w' id name v fault failed => ?_, fun w id p s known held as => ?_⟩
  · rw [ofTable_eq_ok_iff_assignEach same]
    refine and_iff_right_of_imp fun taken name key field => ?_
    obtain ⟨v, held⟩ := Option.isSome_iff_exists.1 (OrderedMap.mem_keys_iff.1 key)
    have given := same.mem_iff.2 (OrderedMap.get?_eq_some_iff_mem.1 held)
    exact (assignEach_eq_ok_iff.1 taken).1 _ given (unknown name key field standard v)
  · rw [mem_names_of_ofTable_eq_error refused]
    refine exists_congr fun v => and_congr_right fun held => ?_
    cases field : Field.ofName? name with
    | some f => simp [rejects_iff_of_ofName? field]
    | none =>
      have key : name ∈ t.keys := OrderedMap.mem_keys_iff.2 (by rw [held]; rfl)
      simp [unknown name key field s v]
  · refine ⟨fun a rejected => ?_, content_assignAll s as, ofTable_table _⟩
    rw [assignAll_concat, assigned_of_rejects rejected]
  · exact Session.keepsFailing_assign id name v w fault w' (P := (· = w)) rfl failed
  · have same := Session.sameButLog_assignSteps known as
    have stored := Session.World.settingsAt_assignAll held as
    refine ⟨same, ?_⟩
    -- the collector is still known, and its settings are in the same place
    obtain ⟨journal, later⟩ := same
    rw [later]
    refine ⟨fun f => ?_, fun a => ?_⟩
    · exact (congrArg (content · f) stored).trans (content_assignAll s as f)
    · have report := Session.reportOn_assign (w := { w.assignAll p as with journal }) known a
      rw [report]
      exact congrArg (Session.assignAnswer · a) stored

/-- A type with blanks around it and a number for a flag. -/
def trimmedTable : Document.Table :=
  .ofList [("statistics_type", .text " T "), ("isolate_failures", .int 1)]

/-- A domain with a colon, and a name that is no field. -/
def strangeTable : Document.Table :=
  .ofList [("stranger", .null), ("object_name_domain", .text "a:b"), ("isolate_failures", .int 1)]

/-- A type that is assigned, a domain that is rejected, and another type. -/
def mixedAssignments : List Assignment :=
  [("statistics_type", .text "S"), ("object_name_domain", .text "a:b"),
    ("statistics_type", .text " T ")]

/-- The first table makes settings, also when its entries are assigned in the other order; the
second one is refused for two of its names. In a session the last type that is assigned is kept,
and a domain that is rejected is not. -/
theorem construction_agrees_with_assignment_twoTables :
    (∃ s, ofTable trimmedTable = .ok s ∧
      standard.assignEach trimmedTable.entries.reverse = .ok s ∧
      s.statisticsType.val = "T" ∧ s.isolateFailures = true) ∧
    (∃ r, ofTable strangeTable = .error r ∧ "stranger" ∈ r.map Prod.fst ∧
      "object_name_domain" ∈ r.map Prod.fst ∧ "isolate_failures" ∉ r.map Prod.fst) ∧
    let w : Session.World := default
    let v := Session.worldAfter (Session.assignSteps Session.mainId mixedAssignments) w
    (w.assignAll 0 mixedAssignments).SameButLog v ∧ (v.settingsAt 0).statisticsType.val = "T" ∧
      (v.settingsAt 0).domain = standard.domain := by
  obtain ⟨tables, -, -, steps⟩ := construction_agrees_with_assignment
  refine ⟨?_, ?_, ?_⟩
  · have known : RejectsUnknown trimmedTable.keys := rejectsUnknown_iff.2 (by decide)
    have type : IsTypeText "T" := ⟨by decide, by decide, by decide⟩
    have made : ofTable trimmedTable = .ok ⟨defaultDomain, ⟨"T", type⟩, true⟩ := rfl
    have assigned := ((tables _ known).1 _ (List.reverse_perm _) _).1 made
    exact ⟨_, made, assigned, rfl, rfl⟩
  · have known : RejectsUnknown strangeTable.keys := rejectsUnknown_iff.2 (by decide)
    have refused : ofTable strangeTable = .error (report (rejected strangeTable)) :=
      ofTable_of_rejected_ne_nil (by decide)
    have names := (tables _ known).2 _ refused standard
    refine ⟨_, refused, (names _).2 ?_, (names _).2 ?_, fun reported => ?_⟩
    · exact ⟨.null, rfl, known _ (by decide) rfl standard .null⟩
    · exact ⟨.text "a:b", rfl, (rejects_iff_of_ofName? (f := .domain) rfl).2 ⟨_, rfl⟩⟩
    · obtain ⟨v, found, rejected⟩ := (names _).1 reported
      have number : v = .int 1 := (Option.some.inj found).symm
      obtain ⟨why, fails⟩ := (rejects_iff_of_ofName? (f := .isolateFailures) rfl).1 rejected
      rw [number] at fails
      cases fails
  · obtain ⟨same, fields, -⟩ :=
      steps default Session.mainId 0 standard (by decide) rfl mixedAssignments
    exact ⟨same, congrArg Subtype.val (fields .statisticsType), fields .domain⟩

end CacheTelemetry.Settings
