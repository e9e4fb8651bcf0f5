import Mathlib.Order.Basic

namespace Paths

/-- A path of labelled steps, all of whose labels are allowed. -/
inductive Path (step : σ → ℓ → σ → Prop) (allowed : ℓ → Prop) : σ → σ → Prop
  | refl (s : σ) : Path step allowed s s
  | snoc {s t u : σ} {l : ℓ} (h : Path step allowed s t) (hl : allowed l) (hs : step t l u) :
      Path step allowed s u

variable {step : σ → ℓ → σ → Prop} {allowed : ℓ → Prop}

theorem Path.single {s t : σ} {l : ℓ} (hl : allowed l) (hs : step s l t) :
    Path step allowed s t := .snoc (.refl s) hl hs

theorem Path.trans {s t u : σ} (h : Path step allowed s t) (h' : Path step allowed t u) :
    Path step allowed s u := by
  induction h' with
  | refl => exact h
  | snoc _ hl hs ih => exact .snoc ih hl hs

/-- What every allowed step keeps, every path keeps. -/
theorem Path.invariant {P : σ → Prop}
    (keep : ∀ s l t, P s → allowed l → step s l t → P t) {s t : σ}
    (h : Path step allowed s t) (hs : P s) : P t := by
  induction h with
  | refl => exact hs
  | snoc _ hl hst ih => exact keep _ _ _ ih hl hst

/-- A rank that no step lowers, on states with an invariant that all steps keep. -/
theorem Path.rank_le [Preorder ρ] {I : σ → Prop} {rank : σ → ρ}
    (keep : ∀ s l t, I s → allowed l → step s l t → I t ∧ rank s ≤ rank t) {s t : σ}
    (h : Path step allowed s t) (hs : I s) : rank s ≤ rank t := by
  have hall : I t ∧ rank s ≤ rank t := by
    induction h with
    | refl => exact ⟨hs, le_refl _⟩
    | snoc _ hl hst ih =>
      obtain ⟨hi, hle⟩ := ih
      obtain ⟨hj, hle'⟩ := keep _ _ _ hi hl hst
      exact ⟨hj, le_trans hle hle'⟩
  exact hall.2

/-- A path that leaves a region leaves it at some first step. -/
theorem Path.first_exit {P : σ → Prop} {s u : σ} (h : Path step allowed s u) (hs : P s)
    (hu : ¬P u) : ∃ t l t', Path step allowed s t ∧ P t ∧ allowed l ∧ step t l t' ∧ ¬P t' ∧
      Path step allowed t' u := by
  induction h with
  | refl => exact absurd hs hu
  | @snoc t u l hp hl hst ih =>
    by_cases ht : P t
    · exact ⟨t, l, u, hp, ht, hl, hst, hu, .refl u⟩
    · obtain ⟨a, k, b, ha, hpa, hk, hab, hb, hrest⟩ := ih ht
      exact ⟨a, k, b, ha, hpa, hk, hab, hb, .snoc hrest hl hst⟩

/-- A simulation of every step by paths simulates every path. -/
theorem Path.simulate {step' : τ → κ → τ → Prop} {allowed' : κ → Prop} {f : σ → τ}
    {I : σ → Prop} (keep : ∀ s l t, I s → allowed l → step s l t →
      I t ∧ Path step' allowed' (f s) (f t)) {s t : σ} (h : Path step allowed s t) (hs : I s) :
    I t ∧ Path step' allowed' (f s) (f t) := by
  induction h with
  | refl => exact ⟨hs, .refl _⟩
  | snoc _ hl hst ih =>
    obtain ⟨hi, hp⟩ := ih
    obtain ⟨hj, hp'⟩ := keep _ _ _ hi hl hst
    exact ⟨hj, hp.trans hp'⟩

end Paths
