import CacheTelemetry.Proofs.Collector.Counting
import CacheTelemetry.Proofs.Collector.Invocations
import CacheTelemetry.Proofs.OrderedMap

/-!
# The protocol of a scrape

How a scrape deals with its registry. What has been proved of its visits, of the enquiries that they
make, of the callables that these invoke and of the reads of a counter is put together here
(`collect_call_protocol`).
-/

namespace CacheTelemetry

namespace Collector

open Effect

variable {σ κ χ β : Type} [BEq κ]

/-- **The protocol of a scrape**, whatever the calls of the registry come to:

* the calls are those of the visits, one visit after the other; the entries are visited in the order
  of the roster, all of them if the scrape returns, and up to the one that fails if it fails;
* a visit makes the calls of an enquiry about the name of its entry, and none if there is no name:
  none for a pattern, otherwise one question whether the name is registered and, exactly if it is,
  one read for each count in their order, up to the first that fails or gives no integer; the counts
  of a cache that is sampled are what these calls gave;
* in a visit each callable attribute is invoked at most once;
* nothing is kept from one read to the next: a read that finds a counter after `m` calls of it gives
  the number `start + m`, and in any run of scrapes, reads and whatever else in which only the reads
  that find the counter call it, these reads give its numbers one after the other. -/
theorem collect_call_protocol (c : Collector σ κ χ) (h : Host σ κ β) (s : σ) :
    (c.calls s = (c.visits s).flatMap fun v => c.callsAbout v.1 v.2) ∧
      (c.visits s).map Prod.fst <+: (c.roster s).entries ∧
      (∀ families t, c.collect.runFrom s = (.ok families, t) →
        (c.visits s).map Prod.fst = (c.roster s).entries) ∧
      (∀ f t, c.collect.runFrom s = (.error f, t) →
        ∃ before e u, c.visits s = before ++ [(e, u)] ∧
          (c.visit e.1 e.2).runFrom u = (.error f, t)) ∧
      (∀ v ∈ c.visits s,
        (∀ n t, (c.nameFor v.1.1 v.1.2).runFrom v.2 = (.ok n, t) →
          Enquiry n (c.callsAbout v.1 v.2)) ∧
        (∀ f t, (c.nameFor v.1.1 v.1.2).runFrom v.2 = (.error f, t) →
          c.callsAbout v.1 v.2 = []) ∧
        ∀ k t, (c.visit v.1.1 v.1.2).runFrom v.2 = (.ok (.sampled k), t) →
          ∃ n answer, c.callsAbout v.1 v.2 =
            .query n (.ok answer) :: countCalls n k.get Statistic.all) ∧
      (c.IsHosted h s →
        (c.invocations h s = (c.visits s).flatMap fun v => c.invocationsIn h v.1 v.2) ∧
        ∀ v ∈ c.visits s,
          ((c.invocationsIn h v.1 v.2).map Invocation.attr).Sublist
            (Statistic.all.map Statistic.attrName) ∧
          ∀ i ∈ c.invocationsIn h v.1 v.2,
            ∃ t, (c.nameFor v.1.1 v.1.2).runFrom v.2 = (.ok i.name, t)) ∧
      (c.datedCalls s).map Prod.snd = c.calls s ∧
      ∀ isCounter start I, h.HasCounter isCounter start I →
        (c.IsHosted h s → ∀ u n attr answer m, (u, .read n attr answer) ∈ c.datedCalls s → I m u →
          h.Finds isCounter n attr u = true → answer = .ok (.int (start + m))) ∧
        ∀ activities : List (Activity σ κ χ), (∀ a ∈ activities, a.Spares h isCounter I) →
          I 0 s → ∀ (k : Nat) answer,
            (h.answersOf isCounter (Activity.calls h activities s))[k]? = some answer →
            answer = .ok (.int (start + k)) := by
  refine ⟨c.calls_eq_flatMap s, c.visitsFrom_prefix _ s, fun _ _ => visits_of_ok,
    fun _ _ => visits_of_error, fun v _ => ?_, fun hosted => ?_, c.map_snd_datedCalls s, ?_⟩
  · obtain ⟨enquiry, unnamed⟩ := c.enquiry_callsAbout v.1 v.2
    exact ⟨enquiry, unnamed, fun _ _ => callsAbout_of_sampled⟩
  · refine ⟨invocations_eq_flatMap hosted, fun v mem => ?_⟩
    exact attrs_invocationsIn hosted (reached_of_mem_visitsFrom .start mem) v.1
  · intro isCounter start I counts
    refine ⟨fun hosted _ _ _ _ _ => counts.answer_of_mem_datedCalls hosted, ?_⟩
    intro activities spare hs k answer given
    rw [counts.answers spare hs k answer given, Nat.zero_add]

open Session in
/-- A bean with six counts, of which the hits are given by a counter that starts at 10. -/
def hitsBean : Bean :=
  ⟨"bean", .stored, .ofList (Statistic.all.map fun st =>
    (st.attrName, .value (if st = .hits then .special (.counter 0 10) else .int 7)))⟩

open Session in
/-- A collector over the registry of the process, with one cache, whose hits are a counter. -/
def meteredHits : World :=
  { (default : World) with
    beans := [hitsBean]
    caches := [⟨"cache", .text "users", .text "m"⟩]
    collectors := [⟨.platform, 0, .ofList [(.text "users", 0)]⟩]
    platform := .ofList [(usersName, 0)] }

/-- The callables that are the counter of the hits. -/
def isHitsCounter : Session.Callable → Bool
  | .counter cell start => cell = 0 ∧ start = 10
  | .thunk _ => false

open Session in
/-- The world after `m` calls of the counter, but for its log and the registry. -/
def MeteredHits (m : Nat) (w : World) : Prop :=
  ∃ calls journal platform, w = { meteredHits with calls, journal, platform } ∧
    (calls.get? 0).getD 0 = m

open Session in
/-- What the bean keeps is no callable but the counter, and fetching it changes nothing. -/
theorem runFrom_fetch_meteredHits {m : Nat} {w : World} (hw : MeteredHits m w) (p : Place)
    (n : ObjectName) (attr : String) :
    ∃ r, ((platformHost.view w p).fetch platformHost.word n attr).runFrom w = (r, w) ∧
      ∀ callable, r = .ok (.special callable) → isHitsCounter callable = true := by
  obtain ⟨calls, journal, platform, rfl, -⟩ := hw
  cases p with
  | succ p => exact ⟨_, rfl, by rintro callable ⟨⟩⟩
  | zero =>
    have kept : ∀ member ∈ hitsBean.members.values, ∃ v, member = .value v ∧
        ∀ callable, v = .special callable → isHitsCounter callable = true := by
      have values : hitsBean.members.values =
          [.value (.special (.counter 0 10)), .value (.int 7), .value (.int 7), .value (.int 7),
            .value (.int 7), .value (.int 7)] := rfl
      rw [values]
      simp [isHitsCounter]
    show ∃ r, ((BeanView.mapping hitsBean.members.keys
        (readMember _ Fault.unknownId hitsBean)).fetch Session.wording n attr).runFrom _ =
          (r, _) ∧ _
    rw [BeanView.fetch]
    split
    · rw [readMember]
      cases found : hitsBean.members.get? attr with
      | none => exact ⟨_, rfl, by rintro callable ⟨⟩⟩
      | some member =>
        obtain ⟨v, rfl, counter⟩ := kept _ (OrderedMap.mem_values_of_get?_eq_some found)
        exact ⟨.ok v, rfl, fun callable same => counter callable (Except.ok.inj same)⟩
    · exact ⟨_, rfl, by rintro callable ⟨⟩⟩

theorem hasCounter_meteredHits :
    Session.platformHost.HasCounter isHitsCounter 10 MeteredHits where
  called m w callable hw counter := by
    obtain ⟨calls, journal, platform, rfl, rfl⟩ := hw
    cases callable with
    | thunk body => cases counter
    | counter cell start =>
      obtain ⟨rfl, rfl⟩ := of_decide_eq_true counter
      refine ⟨_, rfl, calls.insert 0 ((calls.get? 0).getD 0 + 1), journal, platform, rfl, ?_⟩
      rw [OrderedMap.get?_insert_self _ (beq_self_eq_true 0)]
      rfl
  found m w n attr p callable v hw found kept counter := by
    obtain ⟨r, fetched, -⟩ := runFrom_fetch_meteredHits hw p n attr
    cases fetched.symm.trans (BeanView.fetch_eq_ok_iff.2 kept)
    exact hw

/-- A read that does not find the counter changes nothing. -/
theorem spares_meteredHits (n : ObjectName) (attr : String) :
    Session.platformHost.SparesCounter isHitsCounter MeteredHits n attr := by
  intro m w hw unfound
  rw [Host.runFrom_readAttribute]
  rcases found : (Session.platformHost.registry w).get? n with _ | p
  · rw [Registry.runFrom_readAttribute_of_none found]
    exact hw
  obtain ⟨r, fetched, counter⟩ := runFrom_fetch_meteredHits hw p n attr
  rw [Registry.readAttribute_of_some found, BeanView.read]
  rcases r with f | v
  · rw [runFrom_bind_of_error fetched]
    exact hw
  · rw [runFrom_bind_of_ok fetched]
    cases v with
    | special callable =>
      have there : Session.platformHost.callable? n attr w = some callable :=
        Host.callable?_eq_some_iff.2 ⟨p, w, found, BeanView.fetch_eq_ok_iff.1 fetched⟩
      rw [Host.Finds, there, Option.any_some, counter callable rfl] at unfound
      cases unfound
    | _ => exact hw

/-- Nothing but a read of the hits calls the counter. -/
theorem collector_spares_meteredHits :
    (Session.collector 0).SparesCounter Session.platformHost isHitsCounter MeteredHits where
  hosted m w n st hw := by
    obtain ⟨calls, journal, platform, rfl, count⟩ := hw
    rfl
  reads n st := spares_meteredHits n st.attrName
  managerUri m x w hw := by
    obtain ⟨calls, journal, platform, rfl, count⟩ := hw
    cases x with
    | zero => exact ⟨calls, journal, platform, rfl, count⟩
    | succ x => exact ⟨calls, journal, platform, rfl, count⟩
  isRegistered m n w hw := by
    obtain ⟨calls, journal, platform, rfl, count⟩ := hw
    exact ⟨calls, journal, platform, rfl, count⟩
  wording m := Session.keeps_wording
  log m record w hw := by
    obtain ⟨calls, journal, platform, rfl, count⟩ := hw
    exact ⟨calls, record :: journal, platform, rfl, count⟩

/-- The registry of the process is replaced. -/
def putPlatform (platform : Registry Session.Place) :
    Activity Session.World Session.Callable Session.Place :=
  .other (modify fun w => { w with platform })

theorem putPlatform_spares_meteredHits (platform : Registry Session.Place) :
    (putPlatform platform).Spares Session.platformHost isHitsCounter MeteredHits := by
  intro m
  refine .modify fun w hw => ?_
  obtain ⟨calls, journal, before, rfl, count⟩ := hw
  exact ⟨calls, journal, platform, rfl, count⟩

/-- Two scrapes, and a read between them, give three numbers of the counter. While the bean is not
registered, a scrape finds nothing and counts nothing. -/
theorem collect_call_protocol_meteredHits :
    let answers := Session.platformHost.answersOf isHitsCounter
      (Activity.calls Session.platformHost
        [.scrape (Session.collector 0), putPlatform ∅, .scrape (Session.collector 0),
          putPlatform meteredHits.platform, .read Session.usersName "CacheHits",
          .scrape (Session.collector 0)] meteredHits)
    answers.length = 3 ∧
      (∀ (k : Nat) answer, answers[k]? = some answer → answer = .ok (.int (10 + k))) ∧
      ∀ v ∈ (Session.collector 0).visits meteredHits,
        (((Session.collector 0).invocationsIn Session.platformHost v.1 v.2).map
          Invocation.attr).Sublist (Statistic.all.map Statistic.attrName) := by
  intro answers
  have hosted : (Session.collector 0).IsHosted Session.platformHost meteredHits :=
    Session.isHosted_of_platform rfl
  have three : answers.length = 3 := by decide +kernel
  have scrape : (Activity.scrape (Session.collector 0)).Spares Session.platformHost isHitsCounter
      MeteredHits := collector_spares_meteredHits
  have spare : ∀ a ∈ [Activity.scrape (Session.collector 0), putPlatform ∅,
      .scrape (Session.collector 0), putPlatform meteredHits.platform,
      .read Session.usersName "CacheHits", .scrape (Session.collector 0)],
      a.Spares Session.platformHost isHitsCounter MeteredHits := by
    simp only [List.forall_mem_cons, List.not_mem_nil, false_implies, implies_true, and_true]
    exact ⟨scrape, putPlatform_spares_meteredHits _, scrape, putPlatform_spares_meteredHits _,
      spares_meteredHits _ _, scrape⟩
  obtain ⟨-, -, -, -, -, invoked, -, counts⟩ :=
    collect_call_protocol (Session.collector 0) Session.platformHost meteredHits
  exact ⟨three, (counts _ _ _ hasCounter_meteredHits).2 _ spare ⟨_, _, _, rfl, rfl⟩,
    fun v mem => ((invoked hosted).2 v mem).1⟩

end Collector

end CacheTelemetry
