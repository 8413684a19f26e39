import CacheTelemetry.Proofs.OrderedMap
import CacheTelemetry.Registry.Basic

/-!
# Histories of a registry

A registry comes about by requests to register and to unregister; a refused request leaves it as it
is. What a single request comes to is said once for each outcome (`perform_register_eq_ok_iff`,
`perform_register_eq_error_iff`, `withdraw_eq_ok_iff`, `withdraw_eq_error_iff`).

A bean that was registered under a name and has not been unregistered since is the one that is found
there, **whatever requests there were before and since** (`RegisteredSince.exists_get?`).
-/

namespace CacheTelemetry

namespace Registry

variable {β : Type} {r r' : Registry β} {n : ObjectName} {bean : β} {name : NameArgument}
  {f : Fault}

/-- What is asked of a registry. -/
inductive Request (β : Type) where
  | register (name : NameArgument) (bean : β)
  | unregister (name : NameArgument)

/-- The registry after a request, if it is granted. -/
def Request.perform (r : Registry β) : Request β → Except Fault (Registry β)
  | .register name bean => name.resolve.bind fun n => r.register n bean
  | .unregister name => name.resolve.bind fun n => (r.unregister n).map Prod.snd

/-- The registry after a request, granted or refused. -/
def serve (r : Registry β) (request : Request β) : Registry β :=
  match request.perform r with
  | .ok r' => r'
  | .error _ => r

/-- The registry after requests that are made one after the other. -/
def serveAll (r : Registry β) (requests : List (Request β)) : Registry β := requests.foldl serve r

/-- A bean has been registered under a text, in a registry that was empty at first, and nothing has
been unregistered since under the name that the text means. -/
def RegisteredSince (text : String) (bean : β) (r : Registry β) : Prop :=
  ∃ before later granted,
    (Request.register (.text text) bean).perform (serveAll ∅ before) = .ok granted ∧
    (∀ name, Request.unregister name ∈ later →
      name.resolve.toOption ≠ (NameArgument.text text).resolve.toOption) ∧
    r = serveAll granted later

variable {request : Request β}

theorem serveAll_append (r : Registry β) (before later : List (Request β)) :
    r.serveAll (before ++ later) = (r.serveAll before).serveAll later := List.foldl_append

/-! ### Single requests -/

/-- A bean is registered under a name exactly if the name is no pattern and is free. -/
theorem register_eq_ok_iff :
    r.register n bean = .ok r' ↔
      n.isPattern = false ∧ r.get? n = none ∧ r' = r.insert n bean := by
  rw [register, ← Option.not_isSome_iff_eq_none, ← OrderedMap.contains_eq_isSome_get?]
  split
  · rename_i pattern
    simp [pattern]
  · rename_i plain
    split
    · rename_i taken
      simp [taken]
    · rename_i free
      simp [plain, free, eq_comm]

/-- A bean is refused under a pattern and under a name that is taken. -/
theorem register_eq_error_iff :
    r.register n bean = .error f ↔
      n.isPattern = true ∧ f = .pattern n ∨
        n.isPattern = false ∧ (r.get? n).isSome = true ∧ f = .alreadyRegistered n := by
  rw [register, ← OrderedMap.contains_eq_isSome_get?]
  split
  · rename_i pattern
    simp [pattern, @eq_comm _ f]
  · rename_i plain
    split
    · rename_i taken
      simp [plain, taken, @eq_comm _ f]
    · rename_i free
      simp [plain, free]

/-- A bean is taken from a name exactly if it is there. -/
theorem unregister_eq_ok_iff :
    r.unregister n = .ok (bean, r') ↔ r.get? n = some bean ∧ r' = r.erase n := by
  rw [unregister]
  split
  · rename_i absent
    simp [absent]
  · rename_i found
    simp [found, eq_comm]

/-- Nothing is taken from a name exactly if no bean is there. -/
theorem unregister_eq_error_iff :
    r.unregister n = .error f ↔ r.get? n = none ∧ f = .notRegistered n := by
  rw [unregister]
  split
  · rename_i absent
    simp [absent, eq_comm]
  · rename_i found
    simp [found]

/-- A text that is parsed to a name means this name. -/
theorem resolve_text {text : String} (h : ObjectName.parse text = .ok n) :
    (NameArgument.text text).resolve = .ok n := by
  rw [NameArgument.resolve, h]
  rfl

/-- A text that is parsed to no name is malformed. -/
theorem kind_of_resolve_eq_error (h : name.resolve = .error f) : f.kind = .malformedName := by
  cases name with
  | name n => cases h
  | text s =>
    rw [NameArgument.resolve] at h
    cases hs : ObjectName.parse s <;> rw [hs] at h <;> cases h
    rfl

/-- What unregistering gives: the bean that was there, and the registry without it. -/
def withdraw (r : Registry β) (name : NameArgument) : Except Fault (β × Registry β) :=
  name.resolve.bind r.unregister

theorem withdraw_eq_ok_iff :
    r.withdraw name = .ok (bean, r') ↔
      ∃ n, name.resolve = .ok n ∧ r.get? n = some bean ∧ r' = r.erase n := by
  rw [withdraw]
  cases name.resolve <;> simp [Except.bind, unregister_eq_ok_iff]

theorem withdraw_eq_error_iff :
    r.withdraw name = .error f ↔
      name.resolve = .error f ∨
        ∃ n, name.resolve = .ok n ∧ r.get? n = none ∧ f = .notRegistered n := by
  rw [withdraw]
  cases name.resolve <;> simp [Except.bind, unregister_eq_error_iff]

theorem perform_register_eq_ok_iff :
    (Request.register name bean).perform r = .ok r' ↔
      ∃ n, name.resolve = .ok n ∧ n.isPattern = false ∧ r.get? n = none ∧
        r' = r.insert n bean := by
  rw [Request.perform]
  cases name.resolve <;> simp [Except.bind, register_eq_ok_iff]

theorem perform_register_eq_error_iff :
    (Request.register name bean).perform r = .error f ↔
      name.resolve = .error f ∨
        ∃ n, name.resolve = .ok n ∧
          (n.isPattern = true ∧ f = .pattern n ∨
            n.isPattern = false ∧ (r.get? n).isSome = true ∧ f = .alreadyRegistered n) := by
  rw [Request.perform]
  cases name.resolve <;> simp [Except.bind, register_eq_error_iff]

/-- A request to unregister leaves what is left when the bean is withdrawn. -/
theorem perform_unregister (r : Registry β) (name : NameArgument) :
    (Request.unregister name).perform r = (r.withdraw name).map Prod.snd := by
  rw [Request.perform, withdraw]
  cases name.resolve <;> rfl

theorem perform_unregister_eq_ok_iff :
    (Request.unregister name).perform r = .ok r' ↔
      ∃ n bean, name.resolve = .ok n ∧ r.get? n = some bean ∧ r' = r.erase n := by
  have left : (Request.unregister name).perform r = .ok r' ↔
      ∃ bean, r.withdraw name = .ok (bean, r') := by
    rw [perform_unregister]
    rcases r.withdraw name with f | ⟨bean, r''⟩ <;> simp [Except.map]
  rw [left, exists_comm]
  exact exists_congr fun bean => withdraw_eq_ok_iff

theorem serve_of_ok (h : request.perform r = .ok r') : r.serve request = r' := by
  rw [serve, h]

/-- A refused request changes nothing. -/
theorem serve_of_error (h : request.perform r = .error f) : r.serve request = r := by
  rw [serve, h]

/-- A request that is granted. -/
theorem perform_of_isOk (h : (request.perform r).isOk = true) :
    request.perform r = .ok (r.serve request) := by
  rw [serve]
  cases hr : request.perform r with
  | ok r' => rfl
  | error f =>
    rw [hr] at h
    cases h

/-! ### Beans that stay -/

/-- A request leaves a bean where it is, unless the request is to unregister its name. -/
theorem get?_serve (h : r.get? n = some bean)
    (kept : ∀ name, request = .unregister name → name.resolve ≠ .ok n) :
    (r.serve request).get? n = some bean := by
  rcases hr : request.perform r with f | r'
  · rw [serve_of_error hr, h]
  rw [serve_of_ok hr]
  rcases request with ⟨name, bean'⟩ | name
  · obtain ⟨m, -, -, free, rfl⟩ := perform_register_eq_ok_iff.1 hr
    -- the name that was free is not the one that holds the bean
    have other : n ≠ m := by
      rintro rfl
      rw [h] at free
      cases free
    rw [OrderedMap.get?_insert_of_ne r other, h]
  · obtain ⟨m, -, hname, -, rfl⟩ := perform_unregister_eq_ok_iff.1 hr
    have other : n ≠ m := by
      rintro rfl
      exact kept name rfl hname
    rw [OrderedMap.get?_erase_of_ne r other, h]

/-- Requests leave a bean where it is, unless one of them is to unregister its name. -/
theorem get?_serveAll (h : r.get? n = some bean) {requests : List (Request β)}
    (kept : ∀ name, Request.unregister name ∈ requests → name.resolve ≠ .ok n) :
    (r.serveAll requests).get? n = some bean := by
  induction requests generalizing r with
  | nil => exact h
  | cons request rest ih =>
    refine ih (get?_serve h ?_) fun name mem => kept name (List.mem_cons_of_mem _ mem)
    rintro name rfl
    exact kept name List.mem_cons_self

/-- A bean that has been registered since is found under the name that the text means. -/
theorem RegisteredSince.exists_get? {text : String} (h : RegisteredSince text bean r) :
    ∃ n, ObjectName.parse text = .ok n ∧ n.isPattern = false ∧ r.get? n = some bean := by
  obtain ⟨before, later, granted, hgranted, kept, rfl⟩ := h
  obtain ⟨n, resolved, pattern, -, rfl⟩ := perform_register_eq_ok_iff.1 hgranted
  have parsed : ObjectName.parse text = .ok n := by
    rw [NameArgument.resolve] at resolved
    cases hp : ObjectName.parse text <;> rw [hp] at resolved <;> cases resolved
    rfl
  rw [resolved] at kept
  refine ⟨n, parsed, pattern, get?_serveAll (OrderedMap.get?_insert_self _ (by simp) bean) ?_⟩
  intro name mem same
  exact kept name mem (by rw [same])

end Registry

end CacheTelemetry
