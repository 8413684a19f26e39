import CacheTelemetry.Proofs.OrderedMap.History
import CacheTelemetry.Proofs.Registry.History

/-!
# Registries as finite maps

A registry is asked to register and to unregister beans, by names or by texts, and each request is
granted or refused. What was granted is the history of the registry, `Registry.changes`, and it says
for each name which bean is held: the one that was registered last, unless it was unregistered
since.

**After any requests a registry is the finite map of its history** (`serveAll_standsFor`). The map
decides which requests are granted, what is given back, and with which fault a request is refused;
a refused request changes nothing, a granted one no other name; and all queries agree on the map.

To requests, names in different spellings are one name as soon as they mean the same
(`NameArgument.resolve`). That patterns are never held is an invariant of the requests
(`get?_serve_of_isPattern`), so the queries need not look at them.
-/

namespace CacheTelemetry

namespace Registry

variable {β : Type} {r r' : Registry β} {n : ObjectName} {bean : β} {name : NameArgument}
  {f : Fault} {request : Request β} {history : List (Change ObjectName β)}
  {held : ObjectName → Option β}

/-! ### What was granted -/

/-- The change that a request makes if it is granted. -/
def Request.change? : Request β → Option (Change ObjectName β)
  | .register name bean => name.resolve.toOption.map (.enter · bean)
  | .unregister name => name.resolve.toOption.map .leave

/-- The changes that requests make one after the other: those of the requests that are granted. -/
def changes (r : Registry β) : List (Request β) → List (Change ObjectName β)
  | [] => []
  | request :: rest =>
    (if (request.perform r).isOk then request.change?.toList else []) ++
      changes (r.serve request) rest

/-- Names are equal as keys exactly if they are equal. -/
theorem id_beq_id (a b : ObjectName) : (id a == id b) = decide (a = b) := rfl

/-- A registry follows its history through a request. -/
theorem follows_serve (follows : r.Follows id history) (request : Request β) :
    (r.serve request).Follows id
      (history ++ if (request.perform r).isOk then request.change?.toList else []) := by
  rcases hr : request.perform r with f | r'
  · rw [serve_of_error hr]
    exact (List.append_nil history).symm ▸ follows
  rw [serve_of_ok hr]
  rcases request with ⟨name, bean⟩ | name
  · obtain ⟨n, hname, -, -, rfl⟩ := perform_register_eq_ok_iff.1 hr
    rw [Request.change?, hname]
    exact follows.enter id_beq_id n bean
  · obtain ⟨n, -, hname, -, rfl⟩ := perform_unregister_eq_ok_iff.1 hr
    rw [Request.change?, hname]
    exact follows.leave id_beq_id n

/-- A registry follows its history through requests that are made one after the other. -/
theorem follows_serveAll (follows : r.Follows id history) (requests : List (Request β)) :
    (r.serveAll requests).Follows id (history ++ changes r requests) := by
  induction requests generalizing r history with
  | nil => exact (List.append_nil history).symm ▸ follows
  | cons request rest ih =>
    rw [changes, ← List.append_assoc]
    exact ih (follows_serve follows request)

/-- What is found in a registry is what was registered last under the name and has not been
unregistered since. -/
theorem get?_serveAll_empty (requests : List (Request β)) :
    (serveAll ∅ requests).get? = History.latest? (changes ∅ requests) := by
  funext n
  exact (follows_serveAll (OrderedMap.follows_empty id) requests).get?_eq id_beq_id n

/-! ### Patterns -/

/-- A request puts nothing under a pattern. -/
theorem get?_serve_of_isPattern (plain : ∀ n, n.isPattern = true → r.get? n = none)
    (request : Request β) (n : ObjectName) (pattern : n.isPattern = true) :
    (r.serve request).get? n = none := by
  rcases hr : request.perform r with f | r'
  · rw [serve_of_error hr, plain n pattern]
  rw [serve_of_ok hr]
  rcases request with ⟨name, bean⟩ | name
  · obtain ⟨m, -, noPattern, -, rfl⟩ := perform_register_eq_ok_iff.1 hr
    have other : n ≠ m := by
      rintro rfl
      rw [pattern] at noPattern
      cases noPattern
    rw [OrderedMap.get?_insert, Function.update_of_ne other, plain n pattern]
  · obtain ⟨m, -, -, -, rfl⟩ := perform_unregister_eq_ok_iff.1 hr
    rw [OrderedMap.get?_erase, Function.update_apply, plain n pattern, ite_self]

/-- Requests put nothing under a pattern. -/
theorem get?_serveAll_of_isPattern (plain : ∀ n, n.isPattern = true → r.get? n = none)
    (requests : List (Request β)) :
    ∀ n, n.isPattern = true → (r.serveAll requests).get? n = none := by
  induction requests generalizing r with
  | nil => exact plain
  | cons request rest ih => exact ih (get?_serve_of_isPattern plain request)

/-! ### The finite map -/

/-- All queries of a registry agree on a map. -/
structure Shows (r : Registry β) (held : ObjectName → Option β) : Prop where
  get?_eq : r.get? = held
  isRegistered_iff : ∀ n, r.isRegistered n = true ↔ (held n).isSome = true
  mem_names_iff : ∀ n, n ∈ r.names none ↔ (held n).isSome = true
  mem_names_some_iff : ∀ d n, n ∈ r.names (some d) ↔ (held n).isSome = true ∧ n.domain = d
  nodup_names : ∀ domain, (r.names domain).Nodup
  size_eq : r.size = (r.names none).length

/-- A registry stands for a map: its queries show the map, and what comes of a request is what the
map says. -/
structure StandsFor (r : Registry β) (held : ObjectName → Option β) : Prop
    extends r.Shows held where
  /-- A text stands for the name that it is parsed to. -/
  register_text : ∀ {text n}, ObjectName.parse text = .ok n → ∀ bean,
    (Request.register (.text text) bean).perform r = (Request.register (.name n) bean).perform r
  withdraw_text : ∀ {text n}, ObjectName.parse text = .ok n →
    r.withdraw (.text text) = r.withdraw (.name n)
  /-- A bean can be registered under the names that are no patterns and are free. -/
  register_ok_iff : ∀ name bean, (∃ r', (Request.register name bean).perform r = .ok r') ↔
    ∃ n, name.resolve = .ok n ∧ n.isPattern = false ∧ held n = none
  register_refused : ∀ {name bean f}, (Request.register name bean).perform r = .error f →
    f.kind = .malformedName ∧ (∀ n, name.resolve = .ok n → n.isPattern = true) ∨
      f.kind = .alreadyRegistered ∧
        ∃ n, name.resolve = .ok n ∧ n.isPattern = false ∧ (held n).isSome = true
  /-- Registering changes the map under the name alone. -/
  register_granted : ∀ {name bean n r'}, (Request.register name bean).perform r = .ok r' →
    name.resolve = .ok n → r'.Shows (Function.update held n (some bean))
  /-- A bean can be withdrawn exactly from the names that hold it. -/
  withdraw_ok_iff : ∀ name bean, (∃ r', r.withdraw name = .ok (bean, r')) ↔
    ∃ n, name.resolve = .ok n ∧ held n = some bean
  withdraw_refused : ∀ {name f}, r.withdraw name = .error f →
    f.kind = .malformedName ∧ (∀ n, name.resolve ≠ .ok n) ∨
      f.kind = .notRegistered ∧ ∃ n, name.resolve = .ok n ∧ held n = none
  /-- Withdrawing a bean changes the map under the name alone. -/
  withdraw_granted : ∀ {name bean n r'}, r.withdraw name = .ok (bean, r') →
    name.resolve = .ok n → r'.Shows (Function.update held n none)
  /-- A refused request changes nothing. -/
  serve_eq_self : ∀ {request f}, request.perform r = .error f → r.serve request = r

/-- A registry without patterns shows what is found in it. -/
theorem shows_get? (plain : ∀ n, n.isPattern = true → r.get? n = none) : r.Shows r.get? where
  get?_eq := rfl
  isRegistered_iff n := by
    rw [isRegistered, OrderedMap.contains_eq_isSome_get?]
    cases pattern : n.isPattern with
    | false => rfl
    | true => simp [plain n pattern]
  mem_names_iff n := OrderedMap.mem_keys_iff
  mem_names_some_iff d n := by
    rw [names, List.mem_filter, OrderedMap.mem_keys_iff, beq_iff_eq]
  nodup_names domain := by
    cases domain with
    | none => exact r.nodup_keys
    | some d => exact r.nodup_keys.filter _
  size_eq := (List.length_map _).symm

/-- A registry without patterns shows what is found in it after a request that is granted, too. -/
theorem shows_of_perform (plain : ∀ n, n.isPattern = true → r.get? n = none)
    (granted : request.perform r = .ok r') : r'.Shows r'.get? := by
  have plain' := get?_serve_of_isPattern plain request
  rw [serve_of_ok granted] at plain'
  exact shows_get? plain'

/-- A registry without patterns stands for what is found in it. -/
theorem standsFor_get? (plain : ∀ n, n.isPattern = true → r.get? n = none) :
    r.StandsFor r.get? where
  toShows := shows_get? plain
  register_text h bean := by
    rw [Request.perform, Request.perform, resolve_text h]
    rfl
  withdraw_text h := by
    rw [withdraw, withdraw, resolve_text h]
    rfl
  register_ok_iff name bean := by
    constructor
    · rintro ⟨r', granted⟩
      obtain ⟨n, hname, noPattern, free, -⟩ := perform_register_eq_ok_iff.1 granted
      exact ⟨n, hname, noPattern, free⟩
    · rintro ⟨n, hname, noPattern, free⟩
      exact ⟨_, perform_register_eq_ok_iff.2 ⟨n, hname, noPattern, free, rfl⟩⟩
  register_refused {name bean f} refused := by
    obtain malformed | ⟨n, hname, ⟨pattern, rfl⟩ | ⟨noPattern, taken, rfl⟩⟩ :=
      perform_register_eq_error_iff.1 refused
    · refine .inl ⟨kind_of_resolve_eq_error malformed, fun n hname => ?_⟩
      rw [malformed] at hname
      cases hname
    · refine .inl ⟨rfl, fun m hm => ?_⟩
      rw [hname] at hm
      cases hm
      exact pattern
    · exact .inr ⟨rfl, n, hname, noPattern, taken⟩
  register_granted {name bean n r'} granted hname := by
    have shows := shows_of_perform plain granted
    obtain ⟨m, hm, -, -, rfl⟩ := perform_register_eq_ok_iff.1 granted
    rw [hname] at hm
    cases hm
    rwa [← OrderedMap.get?_insert]
  withdraw_ok_iff name bean := by
    constructor
    · rintro ⟨r', granted⟩
      obtain ⟨n, hname, found, -⟩ := withdraw_eq_ok_iff.1 granted
      exact ⟨n, hname, found⟩
    · rintro ⟨n, hname, found⟩
      exact ⟨_, withdraw_eq_ok_iff.2 ⟨n, hname, found, rfl⟩⟩
  withdraw_refused {name f} refused := by
    obtain malformed | ⟨n, hname, absent, rfl⟩ := withdraw_eq_error_iff.1 refused
    · refine .inl ⟨kind_of_resolve_eq_error malformed, fun n hname => ?_⟩
      rw [malformed] at hname
      cases hname
    · exact .inr ⟨rfl, n, hname, absent⟩
  withdraw_granted {name bean n r'} granted hname := by
    obtain ⟨m, hm, found, rfl⟩ := withdraw_eq_ok_iff.1 granted
    have shows := shows_of_perform plain (perform_unregister_eq_ok_iff.2 ⟨m, bean, hm, found, rfl⟩)
    rw [hname] at hm
    cases hm
    rwa [← OrderedMap.get?_erase]
  serve_eq_self := serve_of_error

/-- **After any requests a registry is the finite map of its history.** It holds the beans that
were registered last and have not been unregistered since, its queries show these and no others,
and they decide what comes of the next request. -/
theorem serveAll_standsFor (requests : List (Request β)) :
    (serveAll ∅ requests).StandsFor (History.latest? (changes ∅ requests)) := by
  rw [← get?_serveAll_empty]
  exact standsFor_get? (get?_serveAll_of_isPattern (fun _ _ => rfl) requests)

-- the second text is another spelling of the first, so its request is refused
example : (changes ∅ [.register (.text "d:b=2,a=1") 7, .register (.text "d:a=1,b=2") 8]).length =
    1 := by
  decide +kernel

end Registry

end CacheTelemetry
