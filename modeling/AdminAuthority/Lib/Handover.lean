import Mathlib.Data.List.Basic

namespace Handover

/-- A role with one holder and at most one nominee. One identity, called vacant
below, stands for an empty place. -/
structure Seat (ι : Type u) where
  holder : ι
  nominee : ι
deriving DecidableEq

/-- What moves the role, with the identity that authenticated itself. -/
inductive Act (ι : Type u) where
  | transfer (actor next : ι)
  | nominate (actor next : ι)
  | accept (actor : ι)
  | renounce (actor : ι)

/-- The seat an act leaves. Everything but a nomination clears the nominee. -/
def Seat.after (vacant : ι) (s : Seat ι) : Act ι → Seat ι
  | .transfer _ next => ⟨next, vacant⟩
  | .nominate _ next => ⟨s.holder, next⟩
  | .accept actor => ⟨actor, vacant⟩
  | .renounce _ => ⟨vacant, vacant⟩

/-- The holder alone moves or gives up the role, and the nominee alone takes it. -/
def Seat.Permits (vacant : ι) (s : Seat ι) : Act ι → Prop
  | .transfer actor next => s.holder ≠ vacant ∧ actor = s.holder ∧ next ≠ vacant
  | .nominate actor _ => s.holder ≠ vacant ∧ actor = s.holder
  | .accept actor => s.holder ≠ vacant ∧ s.nominee ≠ vacant ∧ actor = s.nominee
  | .renounce actor => s.holder ≠ vacant ∧ actor = s.holder

/-- The seat a history leaves. -/
def Seat.replay (vacant : ι) (s : Seat ι) (acts : List (Act ι)) : Seat ι :=
  acts.foldl (Seat.after vacant) s

/-- A history each of whose acts was permitted when it happened. -/
def Seat.Legal (vacant : ι) (s : Seat ι) : List (Act ι) → Prop
  | [] => True
  | a :: acts => s.Permits vacant a ∧ (s.after vacant a).Legal vacant acts

theorem Seat.replay_concat (vacant : ι) (s : Seat ι) (xs : List (Act ι)) (a : Act ι) :
    s.replay vacant (xs ++ [a]) = (s.replay vacant xs).after vacant a := by
  simp [replay]

theorem Seat.legal_append (vacant : ι) (s : Seat ι) (xs ys : List (Act ι)) :
    s.Legal vacant (xs ++ ys) ↔ s.Legal vacant xs ∧ (s.replay vacant xs).Legal vacant ys := by
  induction xs generalizing s with
  | nil => simp [Legal, replay]
  | cons a acts ih => simp [Legal, replay, ih, and_assoc]

theorem Seat.legal_concat (vacant : ι) (s : Seat ι) (xs : List (Act ι)) (a : Act ι) :
    s.Legal vacant (xs ++ [a]) ↔ s.Legal vacant xs ∧ (s.replay vacant xs).Permits vacant a := by
  simp [legal_append, Legal]

/-- The three ways the holder changes. -/
theorem Seat.holder_change {vacant : ι} {s : Seat ι} {a : Act ι} (hp : s.Permits vacant a)
    (hc : (s.after vacant a).holder ≠ s.holder) :
    s.holder ≠ vacant ∧
      (a = .transfer s.holder (s.after vacant a).holder ∨
        (a = .accept (s.after vacant a).holder ∧ (s.after vacant a).holder = s.nominee) ∨
        (a = .renounce s.holder ∧ (s.after vacant a).holder = vacant)) := by
  cases a with
  | transfer actor next =>
    obtain ⟨hh, rfl, _⟩ := hp
    exact ⟨hh, .inl rfl⟩
  | nominate actor next => exact absurd rfl hc
  | accept actor =>
    obtain ⟨hh, _, rfl⟩ := hp
    exact ⟨hh, .inr (.inl ⟨rfl, rfl⟩)⟩
  | renounce actor =>
    obtain ⟨hh, rfl⟩ := hp
    exact ⟨hh, .inr (.inr ⟨rfl, rfl⟩)⟩

/-- A standing nomination is the last act of its history, made by the holder. -/
theorem Seat.nominee_source {vacant : ι} {s : Seat ι} {acts : List (Act ι)}
    (hs : s.nominee = vacant) (hl : s.Legal vacant acts)
    (hn : (s.replay vacant acts).nominee ≠ vacant) :
    ∃ xs, acts = xs ++ [.nominate (s.replay vacant acts).holder (s.replay vacant acts).nominee] ∧
      (s.replay vacant xs).holder = (s.replay vacant acts).holder := by
  rcases List.eq_nil_or_concat' acts with rfl | ⟨xs, a, rfl⟩
  · exact absurd hs hn
  · rw [replay_concat] at hn ⊢
    cases a with
    | nominate actor next =>
      obtain ⟨_, rfl⟩ := ((legal_concat vacant s xs _).mp hl).2
      exact ⟨xs, rfl, rfl⟩
    | transfer actor next => exact absurd rfl hn
    | accept actor => exact absurd rfl hn
    | renounce actor => exact absurd rfl hn

end Handover
