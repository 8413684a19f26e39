import CacheTelemetry.Wording

/-!
# Runs of effects

How a run of a composed computation comes apart, and how two computations on different states are
compared.

* `bind_eq_ok_iff`, `bind_eq_error_iff` and `wrapErrors_eq_ok_iff` take a run apart: which runs of
  the parts it consists of, with the states in between.
* `Effect.Agree R x s y t` says that `x` from `s` and `y` from `t` end in the same outcome and in
  states related by `R`. It is a congruence: **composing computations that agree gives computations
  that agree**, whatever the relation.
-/

namespace CacheTelemetry

namespace Effect

variable {σ τ α β : Type}

/-! ### Taking runs apart -/

@[simp] theorem runFrom_get_bind (g : σ → Effect σ α) (s : σ) :
    (get >>= g).runFrom s = (g s).runFrom s := rfl

@[simp] theorem runFrom_modify_bind (f : σ → σ) (g : Unit → Effect σ α) (s : σ) :
    (modify f >>= g).runFrom s = (g ()).runFrom (f s) := rfl

/-- A run with a good outcome ends in a result. -/
theorem exists_of_isOk {r : Except Fault α × σ} (h : r.1.isOk = true) : ∃ a s, r = (.ok a, s) := by
  rcases r with ⟨f | a, s⟩
  · cases h
  · exact ⟨a, s, rfl⟩

/-- A run that ends in a fault of a kind. -/
def endsInKind (kind : FaultKind) : Except Fault α → Bool
  | .ok _ => false
  | .error f => decide (f.kind = kind)

theorem exists_of_endsInKind {kind : FaultKind} {r : Except Fault α}
    (h : endsInKind kind r = true) : ∃ f, r = .error f ∧ f.kind = kind := by
  rcases r with f | a
  · exact ⟨f, rfl, of_decide_eq_true h⟩
  · cases h

/-- The second computation of a bind, once the run of the first is known. -/
theorem runFrom_bind_of_ok {x : Effect σ α} {s t : σ} {a : α} (h : x.runFrom s = (.ok a, t))
    (g : α → Effect σ β) : (x >>= g).runFrom s = (g a).runFrom t := by
  rw [runFrom_bind, h]

/-- A bind whose first computation fails is not continued. -/
theorem runFrom_bind_of_error {x : Effect σ α} {s t : σ} {f : Fault}
    (h : x.runFrom s = (.error f, t)) (g : α → Effect σ β) :
    (x >>= g).runFrom s = (.error f, t) := by
  rw [runFrom_bind, h]

/-- The state after a computation whose result is passed on. -/
theorem runFrom_bind_pure_snd (x : Effect σ α) (g : α → β) (s : σ) :
    ((x >>= fun a => Pure.pure (g a)).runFrom s).2 = (x.runFrom s).2 := by
  rcases h : x.runFrom s with ⟨f | a, t⟩
  · rw [runFrom_bind_of_error h]
  · rw [runFrom_bind_of_ok h]
    rfl

/-- A bind succeeds exactly if both computations do, one after the other. -/
theorem bind_eq_ok_iff {x : Effect σ α} {g : α → Effect σ β} {s s' : σ} {b : β} :
    (x >>= g).runFrom s = (.ok b, s') ↔
      ∃ a t, x.runFrom s = (.ok a, t) ∧ (g a).runFrom t = (.ok b, s') := by
  rcases hx : x.runFrom s with ⟨f | a, t⟩
  · simp [runFrom_bind_of_error hx]
  · rw [runFrom_bind_of_ok hx]
    refine ⟨fun h => ⟨a, t, rfl, h⟩, ?_⟩
    rintro ⟨_, _, ⟨⟩, h⟩
    exact h

/-- A bind fails exactly if one of its computations does. -/
theorem bind_eq_error_iff {x : Effect σ α} {g : α → Effect σ β} {s s' : σ} {f : Fault} :
    (x >>= g).runFrom s = (.error f, s') ↔
      x.runFrom s = (.error f, s') ∨
        ∃ a t, x.runFrom s = (.ok a, t) ∧ (g a).runFrom t = (.error f, s') := by
  rcases hx : x.runFrom s with ⟨f' | a, t⟩
  · simp [runFrom_bind_of_error hx]
  · rw [runFrom_bind_of_ok hx]
    refine ⟨fun h => .inr ⟨a, t, rfl, h⟩, ?_⟩
    rintro (h | ⟨_, _, ⟨⟩, h⟩)
    · cases h
    · exact h

/-- A computation whose result is passed on fails as it does. -/
theorem bind_pure_eq_error_iff {x : Effect σ α} {g : α → β} {s s' : σ} {f : Fault} :
    (x >>= fun a => Pure.pure (g a)).runFrom s = (.error f, s') ↔
      x.runFrom s = (.error f, s') := by
  rw [bind_eq_error_iff]
  simp

/-- The making of a fault ends as `f`: it makes that fault, or fails with it. -/
def EndsAs (x : Effect σ Fault) (s : σ) (f : Fault) (t : σ) : Prop :=
  x.runFrom s = (.ok f, t) ∨ x.runFrom s = (.error f, t)

/-- The state that the making of a fault leaves. -/
theorem EndsAs.state {x : Effect σ Fault} {s t : σ} {f : Fault} (h : x.EndsAs s f t) :
    (x.runFrom s).2 = t := by
  rcases h with made | failed
  · rw [made]
  · rw [failed]

theorem exists_endsAs (x : Effect σ Fault) (s : σ) : ∃ f t, x.EndsAs s f t := by
  rcases h : x.runFrom s with ⟨f | f, t⟩
  · exact ⟨f, t, .inr h⟩
  · exact ⟨f, t, .inl h⟩

/-- The making of a fault ends as one fault, in one state. -/
theorem EndsAs.unique {x : Effect σ Fault} {s t u : σ} {f g : Fault} (h : x.EndsAs s f t)
    (h' : x.EndsAs s g u) : f = g ∧ t = u := by
  rcases h with h | h <;> rcases h' with h' | h' <;> cases h.symm.trans h' <;> exact ⟨rfl, rfl⟩

/-- The fault that is raised is the one that its making ends as. -/
theorem bind_throw_eq_error_iff {x : Effect σ Fault} {s t : σ} {f : Fault} :
    (x >>= throw : Effect σ α).runFrom s = (.error f, t) ↔ x.EndsAs s f t := by
  rw [bind_eq_error_iff, EndsAs, or_comm]
  refine or_congr_left ⟨?_, fun made => ⟨f, t, made, rfl⟩⟩
  rintro ⟨g, u, made, raised⟩
  cases raised
  exact made

/-- Making a fault with a text in it ends as the fault with that text, or as the search for the text
fails. -/
theorem endsAs_bind_pure_iff {x : Effect σ α} {make : α → Fault} {s t : σ} {f : Fault} :
    EndsAs (x >>= fun a => pure (make a)) s f t ↔
      (∃ a, x.runFrom s = (.ok a, t) ∧ f = make a) ∨ x.runFrom s = (.error f, t) := by
  rw [EndsAs, bind_eq_ok_iff, bind_pure_eq_error_iff]
  refine or_congr_left ⟨?_, ?_⟩
  · rintro ⟨a, u, found, ended⟩
    cases ended
    exact ⟨a, found, rfl⟩
  · rintro ⟨a, found, rfl⟩
    exact ⟨a, t, found, rfl⟩

/-- Raising errors anew gives the results of the computation, and no others. -/
theorem wrapErrors_eq_ok_iff {wrap : Fault → Effect σ Fault} {x : Effect σ α} {s s' : σ} {a : α} :
    (x.wrapErrors wrap).runFrom s = (.ok a, s') ↔ x.runFrom s = (.ok a, s') := by
  rw [wrapErrors, runFrom_tryCatch]
  rcases x.runFrom s with ⟨e | b, t⟩
  · dsimp only
    refine iff_of_false (fun h => ?_) (by simp)
    split at h
    · obtain ⟨f, u, -, h⟩ := bind_eq_ok_iff.1 h
      cases h
    · cases h
  · simp

/-- What becomes of a fault in which a computation is known to end. -/
theorem runFrom_wrapErrors_of_error {wrap : Fault → Effect σ Fault} {x : Effect σ α} {s t : σ}
    {e : Fault} (h : x.runFrom s = (.error e, t)) :
    (x.wrapErrors wrap).runFrom s =
      (if e.isError then wrap e >>= throw else throw e : Effect σ α).runFrom t := by
  rw [wrapErrors, runFrom_tryCatch, h]

/-- What a computation that is known to end in a fault fails with: what the error is raised anew as,
or the interruption. -/
theorem wrapErrors_eq_error_iff_of_error {wrap : Fault → Effect σ Fault} {x : Effect σ α}
    {s t u : σ} {e f : Fault} (h : x.runFrom s = (.error e, t)) :
    (x.wrapErrors wrap).runFrom s = (.error f, u) ↔
      e.isError = true ∧ (wrap e).EndsAs t f u ∨ e.isError = false ∧ f = e ∧ u = t := by
  rw [runFrom_wrapErrors_of_error h]
  cases e.isError with
  | true => simp [bind_throw_eq_error_iff]
  | false => simp [eq_comm]

/-- The faults of a computation whose errors are raised anew: what an error is raised anew as, and
an interruption as it is. -/
theorem wrapErrors_eq_error_iff {wrap : Fault → Effect σ Fault} {x : Effect σ α} {s s' : σ}
    {f : Fault} :
    (x.wrapErrors wrap).runFrom s = (.error f, s') ↔
      (∃ e t, x.runFrom s = (.error e, t) ∧ e.isError = true ∧ (wrap e).EndsAs t f s') ∨
        x.runFrom s = (.error f, s') ∧ f.isError = false := by
  rcases h : x.runFrom s with ⟨e | b, t⟩
  · rw [wrapErrors_eq_error_iff_of_error h]
    refine or_congr ⟨?_, ?_⟩ ⟨?_, ?_⟩
    · rintro ⟨error, ended⟩
      exact ⟨e, t, rfl, error, ended⟩
    · rintro ⟨_, _, ⟨⟩, error, ended⟩
      exact ⟨error, ended⟩
    · rintro ⟨interrupted, rfl, rfl⟩
      exact ⟨rfl, interrupted⟩
    · rintro ⟨⟨⟩, interrupted⟩
      exact ⟨interrupted, rfl, rfl⟩
  · simp [wrapErrors_eq_ok_iff.2 h]

/-- Computations one after the other fail exactly at the first that does. -/
theorem mapM_eq_error_iff {g : α → Effect σ β} {l : List α} {s s' : σ} {f : Fault} :
    (l.mapM g).runFrom s = (.error f, s') ↔
      ∃ before a after results t, l = before ++ a :: after ∧
        (before.mapM g).runFrom s = (.ok results, t) ∧ (g a).runFrom t = (.error f, s') := by
  constructor
  · intro h
    -- the computations before the one that fails are gathered from the front
    induction l generalizing s with
    | nil => cases h
    | cons a rest ih =>
      rw [List.mapM_cons] at h
      rcases bind_eq_error_iff.1 h with failed | ⟨b, t, first, h⟩
      · exact ⟨[], a, rest, [], s, rfl, rfl, failed⟩
      · rcases bind_eq_error_iff.1 h with h | ⟨_, _, -, ended⟩
        · obtain ⟨before, a', after, results, u, rfl, passed, failed⟩ := ih h
          refine ⟨a :: before, a', after, b :: results, u, rfl, ?_, failed⟩
          rw [List.mapM_cons, runFrom_bind_of_ok first, runFrom_bind_of_ok passed]
          rfl
        · cases ended
  · rintro ⟨before, a, after, results, t, rfl, passed, failed⟩
    rw [List.mapM_append, runFrom_bind_of_ok passed, List.mapM_cons]
    exact runFrom_bind_of_error (runFrom_bind_of_error failed _) _

/-! ### Results that were computed without the state -/

@[simp] theorem ofExcept_ok_bind (a : α) (g : α → Effect σ β) :
    ofExcept (.ok a) >>= g = g a := rfl

/-- Going on from an outcome without effects makes no difference to a fault. -/
theorem map_eq_error_iff {x : Except Fault α} {g : α → β} {f : Fault} :
    x.map g = .error f ↔ x = .error f := by
  cases x <;> simp [Except.map]

/-! ### Computations that agree -/

/-- `x` from `s` and `y` from `t` end in the same outcome and in states related by `R`. -/
def Agree (R : σ → τ → Prop) (x : Effect σ α) (s : σ) (y : Effect τ α) (t : τ) : Prop :=
  (x.runFrom s).1 = (y.runFrom t).1 ∧ R (x.runFrom s).2 (y.runFrom t).2

namespace Agree

variable {R : σ → τ → Prop} {s : σ} {t : τ}

theorem pure (h : R s t) (a : α) :
    Agree R (Pure.pure a : Effect σ α) s (Pure.pure a : Effect τ α) t := ⟨rfl, h⟩

theorem throw (h : R s t) (f : Fault) :
    Agree R (MonadExcept.throw f : Effect σ α) s (MonadExcept.throw f : Effect τ α) t := ⟨rfl, h⟩

theorem ofExcept (h : R s t) (r : Except Fault α) :
    Agree R (Effect.ofExcept r : Effect σ α) s (Effect.ofExcept r : Effect τ α) t := ⟨rfl, h⟩

/-- Binds agree if their first computations do and, from whatever related states these leave, the
second ones do. -/
theorem bind {x : Effect σ α} {y : Effect τ α} {g : α → Effect σ β} {h : α → Effect τ β}
    (first : Agree R x s y t)
    (second : ∀ a s' t', R s' t' → Agree R (g a) s' (h a) t') :
    Agree R (x >>= g) s (y >>= h) t := by
  obtain ⟨houtcome, hstate⟩ := first
  rcases hx : x.runFrom s with ⟨a | a, s'⟩ <;> rcases hy : y.runFrom t with ⟨b | b, t'⟩ <;>
    rw [hx, hy] at houtcome hstate
  · rw [Agree, runFrom_bind_of_error hx, runFrom_bind_of_error hy]
    cases houtcome
    exact ⟨rfl, hstate⟩
  · cases houtcome
  · cases houtcome
  · rw [Agree, runFrom_bind_of_ok hx, runFrom_bind_of_ok hy]
    cases houtcome
    exact second a s' t' hstate

/-- Computations that begin by looking at the state agree if what they go on with does. -/
theorem get_bind {g : σ → Effect σ α} {h : τ → Effect τ α} (next : Agree R (g s) s (h t) t) :
    Agree R (get >>= g) s (get >>= h) t := next

/-- Handled computations agree if the computations and their handlers do. -/
theorem tryCatch {x : Effect σ α} {y : Effect τ α} {g : Fault → Effect σ α}
    {h : Fault → Effect τ α} (first : Agree R x s y t)
    (handled : ∀ f s' t', R s' t' → Agree R (g f) s' (h f) t') :
    Agree R (MonadExcept.tryCatch x g) s (MonadExcept.tryCatch y h) t := by
  obtain ⟨houtcome, hstate⟩ := first
  rw [Agree, runFrom_tryCatch, runFrom_tryCatch]
  rcases hx : x.runFrom s with ⟨a | a, s'⟩ <;> rcases hy : y.runFrom t with ⟨b | b, t'⟩ <;>
    rw [hx, hy] at houtcome hstate
  · cases houtcome
    exact handled a s' t' hstate
  · cases houtcome
  · cases houtcome
  · exact ⟨houtcome, hstate⟩

/-- Errors that are raised anew in ways that agree. -/
theorem wrapErrors {x : Effect σ α} {y : Effect τ α} {wrap : Fault → Effect σ Fault}
    {wrap' : Fault → Effect τ Fault} (h : Agree R x s y t)
    (anew : ∀ f s' t', R s' t' → Agree R (wrap f) s' (wrap' f) t') :
    Agree R (x.wrapErrors wrap) s (y.wrapErrors wrap') t := by
  refine h.tryCatch fun f s' t' hR => ?_
  split
  · exact (anew f s' t' hR).bind fun _ _ _ hR' => .throw hR' _
  · exact .throw hR f

end Agree

end Effect

namespace Wording

open Effect (Agree)

variable {σ τ κ : Type} {R : σ → τ → Prop} {s : σ} {t : τ} {word : Wording σ κ}
  {word' : Wording τ κ}

/-- Putting something into words agrees if foreign code does where it is needed. -/
theorem agree_say (hR : R s t) {w : Wordable κ} (said : Agree R (word w) s (word' w) t) :
    Agree R (word.say w) s (word'.say w) t := by
  unfold say
  split
  · exact said
  · exact .pure hR _

end Wording

end CacheTelemetry
