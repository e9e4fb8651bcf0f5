import Mathlib.Data.List.Basic

/-- A deterministic machine. A call reports success or an error and leaves a state. -/
structure CallMachine (σ : Type u) (κ : Type v) (ε : Type w) (α : Type x) where
  call : σ → κ → Except ε α × σ

namespace CallMachine

/-- The state a list of calls leaves, whether or not each of them succeeds. -/
def run (m : CallMachine σ κ ε α) (s : σ) : List κ → σ
  | [] => s
  | k :: ks => m.run (m.call s k).2 ks

/-- What the calls of a run report, in order. -/
def results (m : CallMachine σ κ ε α) (s : σ) : List κ → List (Except ε α)
  | [] => []
  | k :: ks => (m.call s k).1 :: m.results (m.call s k).2 ks

/-- The calls of a run that succeed, in order. -/
def accepted (m : CallMachine σ κ ε α) (s : σ) : List κ → List κ
  | [] => []
  | k :: ks =>
    match (m.call s k).1 with
    | .ok _ => k :: m.accepted (m.call s k).2 ks
    | .error _ => m.accepted (m.call s k).2 ks

@[simp] theorem run_nil (m : CallMachine σ κ ε α) (s : σ) : m.run s [] = s := rfl

@[simp] theorem run_cons (m : CallMachine σ κ ε α) (s : σ) (k : κ) (ks : List κ) :
    m.run s (k :: ks) = m.run (m.call s k).2 ks := rfl

theorem run_append (m : CallMachine σ κ ε α) (s : σ) (xs ys : List κ) :
    m.run s (xs ++ ys) = m.run (m.run s xs) ys := by
  induction xs generalizing s with
  | nil => rfl
  | cons k ks ih => exact ih (m.call s k).2

/-- What each call preserves, every run preserves. -/
theorem run_invariant (m : CallMachine σ κ ε α) {P : σ → Prop}
    (step : ∀ s k, P s → P (m.call s k).2) (h : P s) (ks : List κ) : P (m.run s ks) := by
  induction ks generalizing s with
  | nil => exact h
  | cons k ks ih => exact ih (step s k h)

/-- Where the last successful call of a run stands. -/
theorem accepted_last (m : CallMachine σ κ ε α) {s : σ} {ks xs : List κ} {k : κ}
    (h : m.accepted s ks = xs ++ [k]) :
    ∃ before after a, ks = before ++ k :: after ∧ m.accepted s before = xs ∧
      (m.call (m.run s before) k).1 = .ok a ∧
      m.accepted (m.call (m.run s before) k).2 after = [] := by
  induction ks generalizing s xs with
  | nil => simp [accepted] at h
  | cons c cs ih =>
    cases hc : (m.call s c).1 with
    | error e =>
      simp only [accepted, hc] at h
      obtain ⟨before, after, a, rfl, hb, hk, hn⟩ := ih h
      exact ⟨c :: before, after, a, rfl, by simpa [accepted, hc] using hb, hk, hn⟩
    | ok b =>
      simp only [accepted, hc] at h
      cases xs with
      | nil =>
        simp only [List.nil_append, List.cons.injEq] at h
        obtain ⟨rfl, hn⟩ := h
        exact ⟨[], cs, b, rfl, rfl, hc, hn⟩
      | cons x xs =>
        simp only [List.cons_append, List.cons.injEq] at h
        obtain ⟨rfl, ht⟩ := h
        obtain ⟨before, after, a, rfl, hb, hk, hn⟩ := ih ht
        exact ⟨c :: before, after, a, rfl, by simp [accepted, hc, hb], hk, hn⟩

/-- In a phase that every call keeps and that refuses some calls, none of those succeeds. -/
theorem accepted_never (m : CallMachine σ κ ε α) {Q : σ → Prop} {p : κ → Bool}
    (keep : ∀ s k, Q s → Q (m.call s k).2)
    (refuse : ∀ s k a, Q s → p k = true → (m.call s k).1 ≠ .ok a) (h : Q s) (ks : List κ) :
    (m.accepted s ks).countP p = 0 := by
  induction ks generalizing s with
  | nil => rfl
  | cons k ks ih =>
    have hrest := ih (keep s k h)
    cases hc : (m.call s k).1 with
    | error e => simpa [accepted, hc] using hrest
    | ok a =>
      have hp : p k = false := by
        cases hp : p k with
        | false => rfl
        | true => exact absurd hc (refuse s k a h hp)
      simpa [accepted, hc, hp] using hrest

/-- A call that ends the only phase it can succeed in succeeds at most once. -/
theorem accepted_once (m : CallMachine σ κ ε α) {P Q : σ → Prop} {p : κ → Bool}
    (stay : ∀ s k, P s → (p k = false ∨ ∃ e, (m.call s k).1 = .error e) → P (m.call s k).2)
    (enter : ∀ s k a, P s → p k = true → (m.call s k).1 = .ok a → Q (m.call s k).2)
    (keep : ∀ s k, Q s → Q (m.call s k).2)
    (refuse : ∀ s k a, Q s → p k = true → (m.call s k).1 ≠ .ok a) (h : P s) (ks : List κ) :
    (m.accepted s ks).countP p ≤ 1 := by
  induction ks generalizing s with
  | nil => simp [accepted]
  | cons k ks ih =>
    cases hc : (m.call s k).1 with
    | error e =>
      have hrest := ih (stay s k h (.inr ⟨e, hc⟩))
      simpa [accepted, hc] using hrest
    | ok a =>
      cases hp : p k with
      | false =>
        have hrest := ih (stay s k h (.inl hp))
        simpa [accepted, hc, hp] using hrest
      | true =>
        have hrest := m.accepted_never keep refuse (enter s k a h hp hc) ks
        simp [accepted, hc, hp, hrest]

/-- Two machines in lockstep report the same results and stay related. -/
theorem lockstep (m : CallMachine σ κ ε α) (n : CallMachine τ κ ε α) {R : σ → τ → Prop}
    (step : ∀ s t k, R s t →
      (m.call s k).1 = (n.call t k).1 ∧ R (m.call s k).2 (n.call t k).2)
    {s : σ} {t : τ} (h : R s t) (ks : List κ) :
    m.results s ks = n.results t ks ∧ R (m.run s ks) (n.run t ks) := by
  induction ks generalizing s t with
  | nil => exact ⟨rfl, h⟩
  | cons k ks ih =>
    obtain ⟨hr, hs⟩ := step s t k h
    obtain ⟨hrs, hrun⟩ := ih hs
    exact ⟨by simp [results, hr, hrs], hrun⟩

/-- Calls that one side of a relation does not notice can be dropped there. -/
theorem run_filter (m : CallMachine σ κ ε α) (p : κ → Bool) {R : σ → σ → Prop}
    (keep : ∀ s t k, R s t → p k = true → R (m.call s k).2 (m.call t k).2)
    (skip : ∀ s t k, R s t → p k = false → R (m.call s k).2 t)
    {s t : σ} (h : R s t) (ks : List κ) : R (m.run s ks) (m.run t (ks.filter p)) := by
  induction ks generalizing s t with
  | nil => exact h
  | cons k ks ih =>
    cases hp : p k with
    | true => simpa [hp] using ih (keep s t k h hp)
    | false => simpa [hp] using ih (skip s t k h hp)

end CallMachine
