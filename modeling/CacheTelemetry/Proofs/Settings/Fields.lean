import CacheTelemetry.Proofs.OrderedMap
import CacheTelemetry.Settings.Basic
import Mathlib.Tactic.Choose

/-!
# Settings field by field

Settings are known by what their three fields hold (`Settings.eq_of_content`). What happens to a
field does not depend on the others: `Settings.check f v` is what field `f` holds after value `v`
was given to it, or why `v` is rejected, and both ways of giving values come down to it. A change
checks one value (`change_eq`). A table checks one value for each field that it has
(`ofTable_eq_ok_iff`); where it is refused, it is for the fields whose values are rejected and for
the names that are no fields (`mem_names_of_ofTable_eq_error`).

As every rejection stands under a name of its own, and they are reported in the order of the names,
**the order of a table is immaterial** (`ofTable_of_perm`), to settings and to reports alike.
-/

namespace CacheTelemetry

namespace Field

/-- A name belongs to one field. -/
theorem ofName?_eq_some_iff {name : String} {f : Field} :
    ofName? name = some f ↔ f.name = name := by
  constructor
  · intro found
    exact eq_of_beq (List.find?_some (p := fun g : Field => g.name == name) found)
  · rintro rfl
    cases f <;> rfl

@[simp] theorem ofName?_name (f : Field) : ofName? f.name = some f := ofName?_eq_some_iff.2 rfl

theorem name_injective : Function.Injective name := by
  intro f g same
  exact Option.some.inj ((ofName?_name f).symm.trans (same ▸ ofName?_name g))

theorem mem_all (f : Field) : f ∈ all := by cases f <;> decide

end Field

namespace Settings

variable {s s' : Settings} {t t' : Document.Table} {f g : Field} {v : Document.Value}
  {r : Rejections} {name : String}

/-! ### What fields hold -/

/-- What a field may hold. -/
def Content : Field → Type
  | .domain => DomainText
  | .statisticsType => TypeText
  | .isolateFailures => Bool

/-- What a field holds. -/
def content (s : Settings) : (f : Field) → Content f
  | .domain => s.domain
  | .statisticsType => s.statisticsType
  | .isolateFailures => s.isolateFailures

/-- The settings with something else in a field. -/
def put (s : Settings) : (f : Field) → Content f → Settings
  | .domain, d => { s with domain := d }
  | .statisticsType, t => { s with statisticsType := t }
  | .isolateFailures, b => { s with isolateFailures := b }

/-- What a field holds once a value was given to it, or why the value is rejected. -/
def check : (f : Field) → Document.Value → Except Rejection (Content f)
  | .domain, v => DomainText.check v
  | .statisticsType, v => TypeText.check v
  | .isolateFailures, v => checkFlag v

/-- Settings whose fields hold the same are equal. -/
theorem eq_of_content (same : ∀ f, s.content f = s'.content f) : s = s' := by
  obtain ⟨domain, type, flag⟩ := s
  obtain ⟨domain', type', flag'⟩ := s'
  have domains : domain = domain' := same .domain
  have types : type = type' := same .statisticsType
  have flags : flag = flag' := same .isolateFailures
  rw [domains, types, flags]

@[simp] theorem content_put (s : Settings) (f : Field) (c : Content f) :
    (s.put f c).content f = c := by
  cases f <;> rfl

theorem content_put_of_ne (s : Settings) (c : Content f) (other : g ≠ f) :
    (s.put f c).content g = s.content g := by
  cases f <;> cases g <;> first | rfl | exact absurd rfl other

/-- A change checks the value and puts it into its field. -/
theorem change_eq (s : Settings) (f : Field) (v : Document.Value) :
    s.change f v = (check f v).map (s.put f) := by
  cases f <;> rfl

/-! ### Tables -/

/-- What a field holds in settings that are made of a table. -/
def contentIn (t : Document.Table) (f : Field) : Except Rejection (Content f) :=
  checkField t f (standard.content f) (check f)

/-- What is rejected in a table: values of fields, and names that are no fields. -/
def rejected (t : Document.Table) : Rejections :=
  (Field.all.flatMap fun f => rejectionOf f (contentIn t f)) ++ unexpected t

/-- A report has the rejections in the order of their names. -/
def report (r : Rejections) : Rejections := r.mergeSort fun a b => a.1 ≤ b.1

theorem report_perm (r : Rejections) : (report r).Perm r := List.mergeSort_perm r _

theorem pairwise_report (r : Rejections) : (report r).Pairwise fun p q => p.1 ≤ q.1 := by
  refine (List.pairwise_mergeSort (fun p q o hpq hqo => ?_) (fun p q => ?_) r).imp
    of_decide_eq_true
  · exact decide_eq_true (Std.le_trans (of_decide_eq_true hpq) (of_decide_eq_true hqo))
  · rw [Bool.or_eq_true, decide_eq_true_eq, decide_eq_true_eq]
    exact Std.le_total

theorem rejectionOf_eq_nil_iff {β : Type} {x : Except Rejection β} :
    rejectionOf f x = [] ↔ ∃ c, x = .ok c := by
  cases x <;> simp [rejectionOf]

theorem rejected_eq_nil_iff :
    rejected t = [] ↔ unexpected t = [] ∧ ∀ f, ∃ c, contentIn t f = .ok c := by
  rw [rejected, List.append_eq_nil_iff, List.flatMap_eq_nil_iff, and_comm]
  refine and_congr_right fun _ => ⟨fun h f => ?_, fun h f _ => ?_⟩
  · exact rejectionOf_eq_nil_iff.1 (h f f.mem_all)
  · exact rejectionOf_eq_nil_iff.2 (h f)

/-- A table in which something is rejected is refused, with a report on all of it. -/
theorem ofTable_of_rejected_ne_nil (ne : rejected t ≠ []) :
    ofTable t = .error (report (rejected t)) := by
  have parts : rejected t =
      rejectionOf .domain (checkField t .domain defaultDomain DomainText.check) ++
        rejectionOf .statisticsType (checkField t .statisticsType defaultType TypeText.check) ++
          rejectionOf .isolateFailures (checkField t .isolateFailures false checkFlag) ++
            unexpected t := by
    rw [rejected, Field.all, List.flatMap_cons, List.flatMap_cons, List.flatMap_cons,
      List.flatMap_nil, List.append_nil, ← List.append_assoc]
    rfl
  rw [parts] at ne ⊢
  rw [ofTable]
  revert ne
  -- the first rejection decides which branch is taken
  rcases checkField t .domain defaultDomain DomainText.check with why | d
  · exact fun _ => rfl
  rcases checkField t .statisticsType defaultType TypeText.check with why | type
  · exact fun _ => rfl
  rcases checkField t .isolateFailures false checkFlag with why | flag
  · exact fun _ => rfl
  rcases unexpected t with _ | ⟨first, rest⟩
  · exact fun ne => absurd rfl ne
  · exact fun _ => rfl

/-- The settings made of a table hold what the fields hold in it. -/
theorem ofTable_of_contentIn (known : unexpected t = [])
    (held : ∀ f, contentIn t f = .ok (s.content f)) : ofTable t = .ok s := by
  have domain : checkField t .domain defaultDomain DomainText.check = .ok s.domain :=
    held .domain
  have type : checkField t .statisticsType defaultType TypeText.check = .ok s.statisticsType :=
    held .statisticsType
  have flag : checkField t .isolateFailures false checkFlag = .ok s.isolateFailures :=
    held .isolateFailures
  rw [ofTable, domain, type, flag, known]

/-- A table in which nothing is rejected makes settings. -/
theorem exists_ofTable (none : rejected t = []) :
    ∃ s, ofTable t = .ok s ∧ ∀ f, contentIn t f = .ok (s.content f) := by
  obtain ⟨known, checked⟩ := rejected_eq_nil_iff.1 none
  choose c held using checked
  let s : Settings := ⟨c .domain, c .statisticsType, c .isolateFailures⟩
  have held' : ∀ f, contentIn t f = .ok (s.content f) := by
    intro f
    rw [held]
    cases f <;> rfl
  exact ⟨s, ofTable_of_contentIn known held', held'⟩

/-- A table makes settings exactly if all names in it are fields and the fields pass. -/
theorem ofTable_eq_ok_iff :
    ofTable t = .ok s ↔ unexpected t = [] ∧ ∀ f, contentIn t f = .ok (s.content f) := by
  refine ⟨fun made => ?_, fun ⟨known, held⟩ => ofTable_of_contentIn known held⟩
  have none : rejected t = [] := by
    by_contra ne
    cases made.symm.trans (ofTable_of_rejected_ne_nil ne)
  obtain ⟨s', made', held⟩ := exists_ofTable none
  cases made.symm.trans made'
  exact ⟨(rejected_eq_nil_iff.1 none).1, held⟩

/-- A table is refused exactly if something is rejected in it. -/
theorem ofTable_eq_error_iff :
    ofTable t = .error r ↔ rejected t ≠ [] ∧ report (rejected t) = r := by
  by_cases none : rejected t = []
  · obtain ⟨s, made, -⟩ := exists_ofTable none
    simp [made, none]
  · simp [ofTable_of_rejected_ne_nil none, none]

/-! ### What a report says -/

/-- A field is rejected exactly if the table has it with a value that does not pass. -/
theorem contentIn_eq_error_iff {why : Rejection} :
    contentIn t f = .error why ↔ ∃ v, t.get? f.name = some v ∧ check f v = .error why := by
  rw [contentIn, checkField]
  cases t.get? f.name <;> simp

theorem mem_rejectionOf_iff {β : Type} {x : Except Rejection β} {p : String × Rejection} :
    p ∈ rejectionOf f x ↔ p.1 = f.name ∧ x = .error p.2 := by
  cases x <;> simp [rejectionOf, Prod.ext_iff, eq_comm]

theorem mem_unexpected_iff {p : String × Rejection} :
    p ∈ unexpected t ↔ p.1 ∈ t.keys ∧ Field.ofName? p.1 = none ∧ p.2 = .unexpectedField := by
  rw [unexpected, List.mem_map]
  constructor
  · rintro ⟨k, held, rfl⟩
    obtain ⟨key, unknown⟩ := List.mem_filter.1 held
    exact ⟨key, Option.isNone_iff_eq_none.1 unknown, rfl⟩
  · obtain ⟨k, why⟩ := p
    rintro ⟨key, unknown, rfl⟩
    exact ⟨k, List.mem_filter.2 ⟨key, Option.isNone_iff_eq_none.2 unknown⟩, rfl⟩

theorem unexpected_eq_nil_iff :
    unexpected t = [] ↔ ∀ name ∈ t.keys, Field.ofName? name ≠ none := by
  rw [unexpected, List.map_eq_nil_iff, List.filter_eq_nil_iff]
  exact forall₂_congr fun name _ => not_congr Option.isNone_iff_eq_none

/-- A rejection stands under the name of a field whose value does not pass, or under the name of no
field. -/
theorem mem_rejected_iff {p : String × Rejection} : p ∈ rejected t ↔
    (∃ f, p.1 = f.name ∧ contentIn t f = .error p.2) ∨
      p.1 ∈ t.keys ∧ Field.ofName? p.1 = none ∧ p.2 = .unexpectedField := by
  rw [rejected, List.mem_append, List.mem_flatMap, mem_unexpected_iff]
  refine or_congr_left (exists_congr fun f => ?_)
  rw [mem_rejectionOf_iff]
  exact and_iff_right f.mem_all

/-- There is one rejection at most under each name. -/
theorem eq_of_mem_rejected {p q : String × Rejection} (hp : p ∈ rejected t) (hq : q ∈ rejected t)
    (same : p.1 = q.1) : p = q := by
  refine Prod.ext same ?_
  rcases mem_rejected_iff.1 hp with ⟨f, named, fails⟩ | ⟨-, unknown, why⟩ <;>
    rcases mem_rejected_iff.1 hq with ⟨g, named', fails'⟩ | ⟨-, unknown', why'⟩
  · cases Field.name_injective (named.symm.trans (same.trans named'))
    exact Except.error.inj (fails.symm.trans fails')
  · rw [← same, named, Field.ofName?_name] at unknown'
    cases unknown'
  · rw [same, named', Field.ofName?_name] at unknown
    cases unknown
  · rw [why, why']

/-- The names in the report on a table are those of fields whose values do not pass, and those of no
fields. -/
theorem mem_names_of_ofTable_eq_error (refused : ofTable t = .error r) :
    name ∈ r.map Prod.fst ↔ ∃ v, t.get? name = some v ∧
      ∀ f, Field.ofName? name = some f → ∃ why, check f v = .error why := by
  obtain ⟨-, rfl⟩ := ofTable_eq_error_iff.1 refused
  rw [((report_perm _).map Prod.fst).mem_iff, List.mem_map]
  constructor
  · rintro ⟨p, held, rfl⟩
    rcases mem_rejected_iff.1 held with ⟨f, named, fails⟩ | ⟨key, unknown, -⟩
    · obtain ⟨v, found, rejected⟩ := contentIn_eq_error_iff.1 fails
      refine ⟨v, named ▸ found, fun g known => ⟨p.2, ?_⟩⟩
      rw [named, Field.ofName?_name] at known
      cases known
      exact rejected
    · obtain ⟨v, found⟩ := Option.isSome_iff_exists.1 (OrderedMap.mem_keys_iff.1 key)
      refine ⟨v, found, fun g known => ?_⟩
      rw [unknown] at known
      cases known
  · rintro ⟨v, found, fails⟩
    cases known : Field.ofName? name with
    | none =>
      have key : name ∈ t.keys := OrderedMap.mem_keys_iff.2 (by rw [found]; rfl)
      exact ⟨(name, .unexpectedField), mem_rejected_iff.2 (.inr ⟨key, known, rfl⟩), rfl⟩
    | some f =>
      obtain ⟨why, rejects⟩ := fails f known
      rw [Field.ofName?_eq_some_iff] at known
      have fails' := contentIn_eq_error_iff.2 ⟨v, known ▸ found, rejects⟩
      exact ⟨(name, why), mem_rejected_iff.2 (.inl ⟨f, known.symm, fails'⟩), rfl⟩

/-! ### Tables that say the same -/

/-- A report depends on what is rejected, and not on the order in which it was met. -/
theorem report_rejected_of_perm (same : (rejected t).Perm (rejected t')) :
    report (rejected t) = report (rejected t') := by
  have order : (report (rejected t)).Perm (report (rejected t')) :=
    ((report_perm _).trans same).trans (report_perm _).symm
  refine order.eq_of_pairwise ?_ (pairwise_report _) (pairwise_report _)
  -- names leave no choice of the order, as there is one rejection for each
  intro p q hp hq pq qp
  have hp' := (report_perm _).mem_iff.1 hp
  have hq' := (report_perm _).mem_iff.1 (order.mem_iff.2 hq)
  exact eq_of_mem_rejected hp' hq' (Std.le_antisymm pq qp)

/-- Tables in which the fields hold the same and the same names are unexpected make the same. -/
theorem ofTable_congr (fields : ∀ f, contentIn t f = contentIn t' f)
    (names : (unexpected t).Perm (unexpected t')) : ofTable t = ofTable t' := by
  have same : (rejected t).Perm (rejected t') := by
    rw [rejected, rejected, funext fields]
    exact names.append_left _
  by_cases none : rejected t = []
  · obtain ⟨s, made, held⟩ := exists_ofTable none
    have none' : rejected t' = [] := (none ▸ same).symm.eq_nil
    rw [made, ofTable_of_contentIn (rejected_eq_nil_iff.1 none').1 fun f => (fields f ▸ held f)]
  · have ne : rejected t' ≠ [] := fun none' => none (none' ▸ same).eq_nil
    rw [ofTable_of_rejected_ne_nil none, ofTable_of_rejected_ne_nil ne,
      report_rejected_of_perm same]

/-- **The order of a table is immaterial**: to the settings that are made of it, and to the report
if it is refused. -/
theorem ofTable_of_perm (same : t.entries.Perm t'.entries) : ofTable t = ofTable t' := by
  refine ofTable_congr (fun f => ?_) (((same.map Prod.fst).filter _).map _)
  rw [contentIn, contentIn, checkField, checkField, OrderedMap.get?_eq_of_perm same]

end Settings

end CacheTelemetry
