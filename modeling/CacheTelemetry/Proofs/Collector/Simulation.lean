import CacheTelemetry.Collector.Scrape
import CacheTelemetry.Proofs.Effect

/-!
# Collectors that scrape alike

A scrape looks at the state only through the settings and the answers of foreign code. So if the
states of two collectors are related such that settings and answers agree, and what the scrape does
to the states keeps them related, **the two scrapes end alike** (`Simulates.visitAll`,
`Simulates.collect`). Nothing is asked of the relation; the two collectors may have different
states.

`Collector.Reached c s` are the states that a scrape from `s` may pass through: `s` itself, and
whatever reads, texts for messages and log records make of such a state. What holds in `s` and is
kept by these holds in all of them, and a scrape does not leave them (`Reached.visitAll`).
-/

namespace CacheTelemetry

namespace Collector

open Effect (Agree)

variable {σ τ κ χ : Type} [BEq κ]

/-- States related by `R` look the same to a scrape, and a scrape keeps states related. -/
structure Simulates (c : Collector σ κ χ) (d : Collector τ κ χ) (R : σ → τ → Prop) : Prop where
  settings : ∀ {s t}, R s t → c.settings s = d.settings t
  managerUri : ∀ {s t}, R s t → ∀ x, Agree R (c.managerUri x) s (d.managerUri x) t
  isRegistered : ∀ {s t}, R s t → ∀ n, Agree R (c.isRegistered n) s (d.isRegistered n) t
  readAttribute : ∀ {s t}, R s t → ∀ n (st : Statistic),
    Agree R (c.readAttribute n st.attrName) s (d.readAttribute n st.attrName) t
  wording : ∀ {s t}, R s t → ∀ w, Agree R (c.wording w) s (d.wording w) t
  log : ∀ {s t}, R s t → ∀ record, R (c.log record s) (d.log record t)

namespace Simulates

variable {c : Collector σ κ χ} {d : Collector τ κ χ} {R : σ → τ → Prop} {s : σ} {t : τ}

theorem note (h : Simulates c d R) (hR : R s t) (message : String) :
    Agree R (c.note message) s (d.note message) t :=
  ⟨rfl, h.log hR _⟩

theorem nameFor (h : Simulates c d R) (hR : R s t) (label : Value κ) (cache : χ) :
    Agree R (c.nameFor label cache) s (d.nameFor label cache) t := by
  refine (h.managerUri hR cache).bind fun uri s' t' hR' => ?_
  -- the settings are looked at after the address has been read
  refine Agree.get_bind ?_
  rw [h.settings hR']
  exact .ofExcept hR' _

theorem say (h : Simulates c d R) (hR : R s t) (w : Wordable κ) :
    Agree R (c.wording.say w) s (d.wording.say w) t :=
  Wording.agree_say hR (h.wording hR w)

theorem hasStatistics (h : Simulates c d R) (hR : R s t) (n : ObjectName) :
    Agree R (c.hasStatistics n) s (d.hasStatistics n) t := by
  refine ((h.isRegistered hR n).wrapErrors fun f _ _ hR' => ?_).bind fun _ _ _ hR' => .pure hR' _
  exact (h.say hR' _).bind fun _ _ _ hR'' => .pure hR'' _

theorem countFault (h : Simulates c d R) (hR : R s t) (n : ObjectName) (attr : String)
    (v : Value κ) : Agree R (c.countFault n attr v) s (d.countFault n attr v) t :=
  (h.say hR _).bind fun _ _ _ hR' => .pure hR' _

theorem readCount (h : Simulates c d R) (hR : R s t) (n : ObjectName) (st : Statistic) :
    Agree R (c.readCount n st) s (d.readCount n st) t := by
  refine ((h.readAttribute hR n st).wrapErrors fun f _ _ hR' => ?_).bind fun v _ _ hR' => ?_
  · exact (h.say hR' _).bind fun _ _ _ hR'' => .pure hR'' _
  · cases v <;> first
      | exact .pure hR' _
      | exact (h.countFault hR' n _ _).bind fun _ _ _ hR'' => .throw hR'' _

theorem readAll (h : Simulates c d R) (hR : R s t) (n : ObjectName) :
    Agree R (Counts.readAll (c.readCount n)) s (Counts.readAll (d.readCount n)) t := by
  refine (h.readCount hR n _).bind fun hits _ _ hR₁ => ?_
  refine (h.readCount hR₁ n _).bind fun misses _ _ hR₂ => ?_
  refine (h.readCount hR₂ n _).bind fun gets _ _ hR₃ => ?_
  refine (h.readCount hR₃ n _).bind fun puts _ _ hR₄ => ?_
  refine (h.readCount hR₄ n _).bind fun evictions _ _ hR₅ => ?_
  exact (h.readCount hR₅ n _).bind fun removals _ _ hR₆ => .pure hR₆ _

theorem readStatistics (h : Simulates c d R) (hR : R s t) (n : ObjectName) :
    Agree R (c.readStatistics n) s (d.readStatistics n) t := by
  unfold Collector.readStatistics
  split
  · exact .pure hR _
  · refine (h.hasStatistics hR n).bind fun found _ _ hR' => ?_
    cases found with
    | true => exact (h.readAll hR' n).bind fun _ _ _ hR'' => .pure hR'' _
    | false => exact .pure hR' _

theorem handleFailure (h : Simulates c d R) (hR : R s t) (label : Value κ) (n : ObjectName)
    (f : Fault) : Agree R (c.handleFailure label n f) s (d.handleFailure label n f) t := by
  refine Agree.get_bind ?_
  rw [h.settings hR]
  split
  · exact Agree.bind ⟨rfl, h.log hR _⟩ fun _ _ _ hR' => .pure hR' _
  · exact .throw hR _

/-- Visits of a cache end alike. -/
theorem visit (h : Simulates c d R) (hR : R s t) (label : Value κ) (cache : χ) :
    Agree R (c.visit label cache) s (d.visit label cache) t := by
  refine (h.nameFor hR label cache).bind fun n s₁ t₁ hR₁ => ?_
  refine Agree.bind (.tryCatch ?_ fun f _ _ hR₂ => h.handleFailure hR₂ label n f)
    fun outcome s₂ t₂ hR₂ => ?_
  · refine (h.readStatistics hR₁ n).bind fun found _ _ hR₂ => ?_
    cases found <;> exact .pure hR₂ _
  · split
    · exact (h.note hR₂ _).bind fun _ _ _ hR₃ => .pure hR₃ _
    · exact .pure hR₂ _

/-- Visits of a list of caches end alike. -/
theorem visitAll (h : Simulates c d R) (entries : List (Value κ × χ)) {s : σ} {t : τ}
    (hR : R s t) : Agree R (c.visitAll entries) s (d.visitAll entries) t := by
  -- the states of the two walks change from entry to entry and stay related
  induction entries generalizing s t with
  | nil => exact .pure hR _
  | cons e rest ih =>
    refine (h.visit hR e.1 e.2).bind fun outcome _ _ hR₁ => ?_
    refine (ih hR₁).bind fun readings _ _ hR₂ => ?_
    cases outcome <;> exact .pure hR₂ _

/-- Scrapes of the same caches end alike. -/
theorem collect (h : Simulates c d R) (hR : R s t)
    (roster : (c.roster s).entries = (d.roster t).entries) :
    Agree R c.collect s d.collect t := by
  refine Agree.bind ?_ fun _ _ _ hR' => .pure hR' _
  refine Agree.get_bind ?_
  rw [roster]
  exact h.visitAll (d.roster t).entries hR

end Simulates

/-! ### The states of a scrape -/

/-- The states that reads, texts for messages and log records lead to from `s`. -/
inductive Reached (c : Collector σ κ χ) (s : σ) : σ → Prop where
  | start : Reached c s s
  | managerUri {t : σ} (h : Reached c s t) (x : χ) : Reached c s ((c.managerUri x).runFrom t).2
  | isRegistered {t : σ} (h : Reached c s t) (n : ObjectName) :
    Reached c s ((c.isRegistered n).runFrom t).2
  | readAttribute {t : σ} (h : Reached c s t) (n : ObjectName) (st : Statistic) :
    Reached c s ((c.readAttribute n st.attrName).runFrom t).2
  | wording {t : σ} (h : Reached c s t) (w : Wordable κ) :
    Reached c s ((c.wording w).runFrom t).2
  | log {t : σ} (h : Reached c s t) (record : LogRecord) : Reached c s (c.log record t)

namespace Reached

variable {c : Collector σ κ χ} {s t : σ}

/-- A collector looks like itself in every state that it reaches. -/
theorem simulates (c : Collector σ κ χ) (s : σ) :
    Simulates c c fun t u => t = u ∧ c.Reached s t where
  settings h := by rw [h.1]
  managerUri h x := by obtain ⟨rfl, h⟩ := h; exact ⟨rfl, rfl, h.managerUri x⟩
  isRegistered h n := by obtain ⟨rfl, h⟩ := h; exact ⟨rfl, rfl, h.isRegistered n⟩
  readAttribute h n st := by obtain ⟨rfl, h⟩ := h; exact ⟨rfl, rfl, h.readAttribute n st⟩
  wording h w := by obtain ⟨rfl, h⟩ := h; exact ⟨rfl, rfl, h.wording w⟩
  log h record := by obtain ⟨rfl, h⟩ := h; exact ⟨rfl, h.log record⟩

/-- The state that a run is known to leave. -/
theorem after {α : Type} {run : Except Fault α × σ} {outcome : Except Fault α}
    (h : c.Reached s run.2) (left : run = (outcome, t)) : c.Reached s t := by
  rwa [left] at h

theorem trans {u : σ} (h : c.Reached s t) (h' : c.Reached t u) : c.Reached s u := by
  induction h' with
  | start => exact h
  | managerUri _ x ih => exact ih.managerUri x
  | isRegistered _ n ih => exact ih.isRegistered n
  | readAttribute _ n st ih => exact ih.readAttribute n st
  | wording _ w ih => exact ih.wording w
  | log _ record ih => exact ih.log record

/-- Collectors with the same foreign code reach the same states. -/
theorem of_eq {d : Collector σ κ χ} (h : d.Reached s t) (managerUri : d.managerUri = c.managerUri)
    (isRegistered : d.isRegistered = c.isRegistered)
    (readAttribute : d.readAttribute = c.readAttribute) (wording : d.wording = c.wording)
    (log : d.log = c.log) : c.Reached s t := by
  induction h with
  | start => exact .start
  | managerUri _ x ih => exact managerUri ▸ ih.managerUri x
  | isRegistered _ n ih => exact isRegistered ▸ ih.isRegistered n
  | readAttribute _ n st ih => exact readAttribute ▸ ih.readAttribute n st
  | wording _ w ih => exact wording ▸ ih.wording w
  | log _ record ih => exact log ▸ ih.log record

theorem visit (h : c.Reached s t) (label : Value κ) (cache : χ) :
    c.Reached s ((c.visit label cache).runFrom t).2 :=
  ((simulates c s).visit ⟨rfl, h⟩ label cache).2.2

theorem visitAll (h : c.Reached s t) (entries : List (Value κ × χ)) :
    c.Reached s ((c.visitAll entries).runFrom t).2 :=
  ((simulates c s).visitAll entries ⟨rfl, h⟩).2.2

end Reached

end Collector

end CacheTelemetry
