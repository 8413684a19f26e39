import CacheTelemetry.Proofs.Effect

/-!
# What effects keep

`Effect.Keeps P x` says that `x` leaves the states with the property `P` among themselves, whether
it ends in a result or in a fault. `Effect.KeepsFailing P x` asks for this only where `x` ends in a
fault; what never fails keeps everything in that sense. Both are closed under composition: **a
computation keeps failing if what comes first keeps, and the rest keeps failing**
(`Keeps.bind_keepsFailing`). So a computation that makes its changes after everything in it that
may fail leaves no trace when it fails.

`Effect.FixedOn P x` says more: in all states with the property `P` the outcome of `x` is the same,
and `x` has no effects. So `x` may look at whatever these states have in common.
-/

namespace CacheTelemetry

namespace Effect

variable {σ α β : Type} {P : σ → Prop}

/-- The computation leaves a state with the property in a state with the property. -/
def Keeps (P : σ → Prop) (x : Effect σ α) : Prop := ∀ s, P s → P (x.runFrom s).2

/-- The computation does so where it fails. -/
def KeepsFailing (P : σ → Prop) (x : Effect σ α) : Prop :=
  ∀ s f t, P s → x.runFrom s = (.error f, t) → P t

/-- In the states with the property the computation has the same outcome, and no effects. -/
def FixedOn (P : σ → Prop) (x : Effect σ α) : Prop := ∃ r, ∀ s, P s → x.runFrom s = (r, s)

/-- The computation ends in a result, wherever it starts. -/
def Succeeds (x : Effect σ α) : Prop := ∀ s, ∃ a t, x.runFrom s = (.ok a, t)

/-! ### Keeping a property -/

namespace Keeps

variable {x : Effect σ α}

theorem pure (a : α) : Keeps P (Pure.pure a : Effect σ α) := fun _ h => h

theorem throw (f : Fault) : Keeps P (MonadExcept.throw f : Effect σ α) := fun _ h => h

/-- What would follow a fault does not matter. -/
theorem throw_bind (f : Fault) (g : α → Effect σ β) :
    Keeps P ((MonadExcept.throw f : Effect σ α) >>= g) := fun _ h => h

theorem ofExcept (r : Except Fault α) : Keeps P (Effect.ofExcept r : Effect σ α) := fun _ h => h

theorem modify {f : σ → σ} (h : ∀ s, P s → P (f s)) : Keeps P (modify f : Effect σ Unit) :=
  fun s hs => h s hs

/-- The state that a run is known to leave. -/
theorem after (h : Keeps P x) {s t : σ} {r : Except Fault α} (hs : P s)
    (run : x.runFrom s = (r, t)) : P t := by
  have left := h s hs
  rwa [run] at left

theorem bind {g : α → Effect σ β} (first : Keeps P x) (second : ∀ a, Keeps P (g a)) :
    Keeps P (x >>= g) := by
  intro s hs
  rcases run : x.runFrom s with ⟨f | a, t⟩
  · rw [runFrom_bind_of_error run]
    exact first.after hs run
  · rw [runFrom_bind_of_ok run]
    exact second a t (first.after hs run)

/-- A computation that begins by looking at the state. -/
theorem get_bind {g : σ → Effect σ α} (next : ∀ s, P s → Keeps P (g s)) : Keeps P (get >>= g) :=
  fun s hs => next s hs s hs

theorem map {f : α → β} (h : Keeps P x) : Keeps P (f <$> x) := by
  rw [map_eq_pure_bind]
  exact h.bind fun a => .pure _

theorem tryCatch {g : Fault → Effect σ α} (first : Keeps P x) (handled : ∀ f, Keeps P (g f)) :
    Keeps P (MonadExcept.tryCatch x g) := by
  intro s hs
  rw [runFrom_tryCatch]
  rcases run : x.runFrom s with ⟨f | a, t⟩
  · exact handled f t (first.after hs run)
  · exact first.after hs run

theorem wrapErrors {wrap : Fault → Effect σ Fault} (h : Keeps P x)
    (anew : ∀ f, Keeps P (wrap f)) : Keeps P (x.wrapErrors wrap) := by
  refine h.tryCatch fun f => ?_
  split
  · exact (anew f).bind fun _ => .throw _
  · exact .throw f

/-- Computations for the items of a list, one after the other. -/
theorem mapM {g : α → Effect σ β} {l : List α} (h : ∀ a ∈ l, Keeps P (g a)) :
    Keeps P (l.mapM g) := by
  induction l with
  | nil => exact .pure _
  | cons a rest ih =>
    rw [List.mapM_cons]
    refine (h a List.mem_cons_self).bind fun b => ?_
    exact (ih fun c hc => h c (List.mem_cons_of_mem a hc)).bind fun _ => .pure _

end Keeps

/-! ### Keeping a property in failing -/

theorem Keeps.keepsFailing {x : Effect σ α} (h : Keeps P x) : KeepsFailing P x :=
  fun _ _ _ hs run => h.after hs run

/-- What comes first keeps the property; what follows need do so only where it fails. -/
theorem Keeps.bind_keepsFailing {x : Effect σ α} {g : α → Effect σ β} (first : Keeps P x)
    (second : ∀ a, KeepsFailing P (g a)) : KeepsFailing P (x >>= g) := by
  intro s f u hs run
  rcases bind_eq_error_iff.1 run with failed | ⟨a, t, ran, failed⟩
  · exact first.after hs failed
  · exact second a t f u (first.after hs ran) failed

namespace KeepsFailing

variable {x : Effect σ α}

theorem get_bind {g : σ → Effect σ α} (next : ∀ s, P s → KeepsFailing P (g s)) :
    KeepsFailing P (get >>= g) :=
  fun s f t hs run => next s hs s f t hs run

end KeepsFailing

/-! ### Computations that never fail -/

namespace Succeeds

variable {x : Effect σ α}

theorem pure (a : α) : Succeeds (Pure.pure a : Effect σ α) := fun s => ⟨a, s, rfl⟩

theorem modify (f : σ → σ) : Succeeds (modify f : Effect σ Unit) :=
  fun s => ⟨(), f s, rfl⟩

theorem set (t : σ) : Succeeds (set t : Effect σ PUnit) := fun _ => ⟨⟨⟩, t, rfl⟩

theorem bind {g : α → Effect σ β} (first : Succeeds x) (second : ∀ a, Succeeds (g a)) :
    Succeeds (x >>= g) := by
  intro s
  obtain ⟨a, t, run⟩ := first s
  rw [runFrom_bind_of_ok run]
  exact second a t

theorem get_bind {g : σ → Effect σ α} (next : ∀ s, Succeeds (g s)) : Succeeds (get >>= g) :=
  fun s => next s s

/-- What never fails keeps everything in failing. -/
theorem keepsFailing (h : Succeeds x) : KeepsFailing P x := by
  intro s f t _ failed
  obtain ⟨a, u, run⟩ := h s
  rw [run] at failed
  cases failed

/-- What fails, if at all, at the beginning. -/
theorem bind_keepsFailing {g : α → Effect σ β} (first : KeepsFailing P x)
    (second : ∀ a, Succeeds (g a)) : KeepsFailing P (x >>= g) := by
  intro s f u hs run
  rcases bind_eq_error_iff.1 run with failed | ⟨a, t, -, failed⟩
  · exact first s f u hs failed
  · obtain ⟨b, v, ran⟩ := second a t
    rw [ran] at failed
    cases failed

end Succeeds

/-! ### Outcomes that are fixed -/

namespace FixedOn

variable {x : Effect σ α} {r : Except Fault α}

theorem ofExcept (r : Except Fault α) : FixedOn P (Effect.ofExcept r : Effect σ α) :=
  ⟨r, fun _ _ => rfl⟩

theorem pure (a : α) : FixedOn P (Pure.pure a : Effect σ α) := .ofExcept (.ok a)

theorem throw (f : Fault) : FixedOn P (MonadExcept.throw f : Effect σ α) := .ofExcept (.error f)

/-- A fixed outcome is that in any of the states. -/
theorem runFrom_eq (h : FixedOn P x) {s t : σ} (hs : P s) (ht : P t) :
    x.runFrom s = ((x.runFrom t).1, s) := by
  obtain ⟨r, run⟩ := h
  rw [run s hs, run t ht]

theorem keeps (h : FixedOn P x) : Keeps P x := by
  obtain ⟨r, run⟩ := h
  intro s hs
  rwa [run s hs]

/-- What follows a fixed outcome is to be fixed for the result that it is. -/
theorem bind_of {g : α → Effect σ β} (first : ∀ s, P s → x.runFrom s = (r, s))
    (second : ∀ a, r = .ok a → FixedOn P (g a)) : FixedOn P (x >>= g) := by
  cases r with
  | error f => exact ⟨.error f, fun s hs => runFrom_bind_of_error (first s hs) g⟩
  | ok a =>
    obtain ⟨r, run⟩ := second a rfl
    exact ⟨r, fun s hs => (runFrom_bind_of_ok (first s hs) g).trans (run s hs)⟩

/-- Fixed outcomes one after the other. -/
theorem bind {g : α → Effect σ β} (first : FixedOn P x) (second : ∀ a, FixedOn P (g a)) :
    FixedOn P (x >>= g) := by
  obtain ⟨r, run⟩ := first
  exact bind_of run fun a _ => second a

/-- A computation that begins by looking at the state, and then does the same in all states with
the property. -/
theorem get_bind {g : σ → Effect σ α} (same : ∀ s, P s → g s = x) (h : FixedOn P x) :
    FixedOn P (get >>= g) := by
  obtain ⟨r, run⟩ := h
  refine ⟨r, fun s hs => ?_⟩
  rw [runFrom_get_bind, same s hs, run s hs]

theorem wrapErrors {wrap : Fault → Effect σ Fault} (h : FixedOn P x)
    (anew : ∀ f, FixedOn P (wrap f)) : FixedOn P (x.wrapErrors wrap) := by
  obtain ⟨r, run⟩ := h
  cases r with
  | ok a => exact ⟨.ok a, fun s hs => wrapErrors_eq_ok_iff.2 (run s hs)⟩
  | error f =>
    obtain ⟨q, made⟩ := anew f
    have raised : FixedOn P (if f.isError then wrap f >>= MonadExcept.throw
        else MonadExcept.throw f : Effect σ α) := by
      split
      · exact bind_of made fun g _ => .throw g
      · exact .throw f
    obtain ⟨q', run'⟩ := raised
    exact ⟨q', fun s hs => (runFrom_wrapErrors_of_error (run s hs)).trans (run' s hs)⟩

end FixedOn

end Effect

namespace Wording

open Effect (Keeps FixedOn)

variable {σ κ : Type} {P : σ → Prop} {word : Wording σ κ}

/-- Putting something into words keeps what the foreign texts keep. -/
theorem keeps_say (said : ∀ w, Keeps P (word w)) (w : Wordable κ) : Keeps P (word.say w) := by
  unfold say
  split
  · exact said w
  · exact .pure _

theorem fixedOn_say (said : ∀ w, FixedOn P (word w)) (w : Wordable κ) :
    FixedOn P (word.say w) := by
  unfold say
  split
  · exact said w
  · exact .pure _

end Wording

end CacheTelemetry
