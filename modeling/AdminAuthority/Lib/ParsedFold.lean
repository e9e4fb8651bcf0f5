import Mathlib.Data.List.Basic
import Mathlib.Data.List.Perm.Basic

namespace ParsedFold

/-- A loop step that parses its item on its own, and then takes in what it says. -/
def Parses (step : σ → α → Except ε σ) (parse : α → Except ε β) (set : σ → β → σ) : Prop :=
  ∀ s a, step s a = (parse a).map (set s)

/-- All items parsed, up to the first that does not parse. -/
def parseAll (parse : α → Except ε β) : List α → Except ε (List β)
  | [] => .ok []
  | a :: xs =>
    match parse a with
    | .error e => .error e
    | .ok b => (parseAll parse xs).map (b :: ·)

variable {step : σ → α → Except ε σ} {parse : α → Except ε β} {set : σ → β → σ}

/-- The loop is a parse of all its items, followed by a fold. -/
theorem foldlM_eq (h : Parses step parse set) (xs : List α) (s : σ) :
    xs.foldlM step s = (parseAll parse xs).map (List.foldl set s) := by
  induction xs generalizing s with
  | nil => rfl
  | cons a xs ih =>
    rw [List.foldlM_cons, h s a, parseAll]
    cases parse a with
    | error e => rfl
    | ok b =>
      change xs.foldlM step (set s b) = _
      rw [ih]
      cases parseAll parse xs <;> rfl

theorem parseAll_cons_ok {a : α} {xs : List α} {bs : List β} :
    parseAll parse (a :: xs) = .ok bs ↔
      ∃ b cs, parse a = .ok b ∧ parseAll parse xs = .ok cs ∧ bs = b :: cs := by
  rw [parseAll]
  cases parse a with
  | error e => simp
  | ok b => cases parseAll parse xs <;> simp [Except.map, eq_comm]

/-- Everything read was said by some item. -/
theorem parseAll_mem {xs : List α} {bs : List β} (h : parseAll parse xs = .ok bs) {b : β}
    (hb : b ∈ bs) : ∃ a ∈ xs, parse a = .ok b := by
  induction xs generalizing bs with
  | nil =>
    cases h
    cases hb
  | cons a xs ih =>
    obtain ⟨c, cs, hc, hcs, rfl⟩ := parseAll_cons_ok.mp h
    rcases List.mem_cons.mp hb with rfl | hb
    · exact ⟨a, List.mem_cons_self, hc⟩
    · obtain ⟨a', ha', hp⟩ := ih hcs hb
      exact ⟨a', List.mem_cons_of_mem a ha', hp⟩

/-- A parse fails with what is wrong with the first item that does not parse. -/
theorem parseAll_error {xs : List α} {e : ε} :
    parseAll parse xs = .error e ↔ ∃ before a after, xs = before ++ a :: after ∧
      (∀ b ∈ before, ∃ c, parse b = .ok c) ∧ parse a = .error e := by
  induction xs with
  | nil => simp [parseAll]
  | cons a xs ih =>
    rw [parseAll]
    cases ha : parse a with
    | error e' =>
      constructor
      · intro he
        obtain rfl := Except.error.inj he
        exact ⟨[], a, xs, rfl, by simp, ha⟩
      · intro h
        obtain ⟨before, b, after, hsplit, hbefore, hb⟩ := h
        rcases before with _ | ⟨c, before⟩
        · cases hsplit
          apply congrArg Except.error
          exact Except.error.inj (ha.symm.trans hb)
        · cases hsplit
          obtain ⟨c, hc⟩ := hbefore a (by simp)
          cases hc.symm.trans ha
    | ok b =>
      have hmap : (parseAll parse xs).map (b :: ·) = .error e ↔ parseAll parse xs = .error e := by
        cases parseAll parse xs <;> simp [Except.map]
      refine hmap.trans (ih.trans ?_)
      constructor
      · intro h
        obtain ⟨before, c, after, rfl, hbefore, hc⟩ := h
        refine ⟨a :: before, c, after, rfl, ?_, hc⟩
        intro d hd
        rcases List.mem_cons.mp hd with rfl | hd
        · exact ⟨b, ha⟩
        · exact hbefore d hd
      · intro h
        obtain ⟨before, c, after, hsplit, hbefore, hc⟩ := h
        rcases before with _ | ⟨d, before⟩
        · cases hsplit
          cases ha.symm.trans hc
        · cases hsplit
          exact ⟨before, c, after, rfl, fun d hd => hbefore d (by simp [hd]), hc⟩

/-- Items in another order parse to the same things in another order. -/
theorem parseAll_perm {xs ys : List α} (hp : xs.Perm ys) {bs : List β}
    (h : parseAll parse xs = .ok bs) : ∃ cs, bs.Perm cs ∧ parseAll parse ys = .ok cs := by
  induction hp generalizing bs with
  | nil => exact ⟨bs, List.Perm.refl bs, h⟩
  | cons a _ ih =>
    obtain ⟨b, bs, hb, hbs, rfl⟩ := parseAll_cons_ok.mp h
    obtain ⟨cs, hperm, hcs⟩ := ih hbs
    exact ⟨b :: cs, hperm.cons b, parseAll_cons_ok.mpr ⟨b, cs, hb, hcs, rfl⟩⟩
  | swap a a' xs =>
    obtain ⟨b', rest, hb', hrest, rfl⟩ := parseAll_cons_ok.mp h
    obtain ⟨b, cs, hb, hcs, rfl⟩ := parseAll_cons_ok.mp hrest
    refine ⟨b :: b' :: cs, List.Perm.swap b b' cs, ?_⟩
    exact parseAll_cons_ok.mpr ⟨b, b' :: cs, hb, parseAll_cons_ok.mpr ⟨b', cs, hb', hcs, rfl⟩, rfl⟩
  | trans _ _ ih₁ ih₂ =>
    obtain ⟨cs, hp₁, hcs⟩ := ih₁ h
    obtain ⟨ds, hp₂, hds⟩ := ih₂ hcs
    exact ⟨ds, hp₁.trans hp₂, hds⟩

/-- Where what the items say commutes, their order decides neither whether the loop runs
to its end nor what it leaves. -/
theorem foldlM_perm (h : Parses step parse set) {xs ys : List α} (hp : xs.Perm ys)
    (hcomm : ∀ bs, parseAll parse xs = .ok bs →
      ∀ b ∈ bs, ∀ c ∈ bs, ∀ s, set (set s b) c = set (set s c) b)
    {s t : σ} (hs : xs.foldlM step s = .ok t) : ys.foldlM step s = .ok t := by
  rw [foldlM_eq h] at hs ⊢
  cases hx : parseAll parse xs with
  | error e =>
    rw [hx] at hs
    cases hs
  | ok bs =>
    obtain ⟨cs, hperm, hcs⟩ := parseAll_perm hp hx
    rw [hx] at hs
    rw [hcs, ← hs]
    apply congrArg Except.ok
    exact (hperm.foldl_eq' (hcomm bs hx) s).symm

end ParsedFold
