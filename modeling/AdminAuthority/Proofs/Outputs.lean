import AdminAuthority.Proofs.Gates
import AdminAuthority.Spec.Programs

namespace AdminAuthority.Proofs
open AuthorityCrate Block ParsedFold

variable [Lez]

theorem data_ext {d e : Data} (h : d.bytes = e.bytes) : d = e := by
  cases d
  cases e
  cases h
  rfl

theorem own_post_refl (written : Prop) (a : Account) : OwnPost written a a :=
  ⟨rfl, rfl, rfl, fun _ => rfl⟩

/-- Only an equal account can stand for one that was not written to. -/
theorem own_post_unwritten {written : Prop} (hw : ¬written) {pre post : Account} :
    OwnPost written pre post ↔ post = pre := by
  constructor
  · intro h
    cases pre
    cases post
    obtain ⟨rfl, rfl, rfl, hd⟩ := h
    obtain rfl := hd hw
    rfl
  · rintro rfl
    exact own_post_refl _ _

theorem rewritten_refl (writable : List Ident) (s : Accounts) : Rewritten writable s s :=
  fun _ => .inl rfl

theorem rewritten_trans {writable : List Ident} {s t u : Accounts} (h : Rewritten writable s t)
    (h' : Rewritten writable t u) : Rewritten writable s u := by
  intro x
  rcases h' x with he | ⟨hx, d, he⟩
  · rw [he]
    exact h x
  · right
    refine ⟨hx, d, ?_⟩
    rw [he]
    rcases h x with ht | ⟨_, e, ht⟩
    · rw [ht]
    · rw [ht]
      rfl

theorem rewritten_update {writable : List Ident} {x : Ident} (hx : x ∈ writable) (s : Accounts)
    (d : Data) : Rewritten writable s (Function.update s x ((s x).withData d)) := by
  intro y
  by_cases hy : y = x
  · subst hy
    exact .inr ⟨hx, d, Function.update_self ..⟩
  · exact .inl (Function.update_of_ne hy _ _)

theorem rewritten_own {writable : List Ident} {s t : Accounts} (h : Rewritten writable s t)
    (x : Ident) : OwnPost (x ∈ writable) (s x).account (t x).account := by
  rcases h x with he | ⟨hx, d, he⟩
  · rw [he]
    exact own_post_refl _ _
  · rw [he]
    exact ⟨rfl, rfl, rfl, fun hno => absurd hx hno⟩

/-- An account that no statement may write is the same after all of them. -/
theorem rewritten_fixed {writable : List Ident} {s t : Accounts} (h : Rewritten writable s t)
    {x : Ident} (hx : x ∉ writable) : t x = s x := by
  rcases h x with he | ⟨hx', _⟩
  · exact he
  · exact absurd hx' hx

/-- A statement that keeps to the writable accounts. -/
def Confined (writable : List Ident) (st : Stmt Accounts SpelError) : Prop :=
  ∀ s t, (st s).result = .ok t → Rewritten writable s t

theorem exec_confined {writable : List Ident} {stmts : List (Stmt Accounts SpelError)}
    (h : ∀ st ∈ stmts, Confined writable st) : Confined writable (exec stmts) := by
  induction stmts with
  | nil =>
    intro s t ht
    cases ht
    exact rewritten_refl writable s
  | cons st rest ih =>
    simp only [List.forall_mem_cons] at h
    intro s t ht
    rw [exec_cons] at ht
    have hst := h.1 s
    cases hf : st s with
    | next u =>
      rw [hf] at ht hst
      apply rewritten_trans (hst u rfl)
      exact ih h.2 u t ht
    | ret u =>
      rw [hf] at ht hst
      exact hst t ht
    | fail e =>
      rw [hf] at ht
      cases ht

/-- A successful call on `&mut` an account that replaces nothing but its data. -/
theorem mutate_confined {writable : List Ident} {x : Ident} (hx : x ∈ writable)
    {call : Accounts → Except AdminError Unit × AccountWithMetadata}
    (hcall : ∀ s, (call s).1 = .ok () → ∃ d, (call s).2 = (s x).withData d) :
    Confined writable (Accounts.handler.mutate x call) := by
  intro s t ht
  unfold Handler.mutate at ht
  have hs := hcall s
  cases hc : call s with
  | mk result account =>
    rw [hc] at ht hs
    cases result with
    | error e => cases ht
    | ok u =>
      obtain ⟨d, hd⟩ := hs rfl
      cases ht
      change account = _ at hd
      subst hd
      exact rewritten_update hx s d

/-- Whether an output pairs is a matter of which accounts its vector puts where. -/
theorem paired_iff {i : Instruction} {accounts t : Accounts} :
    i.Paired accounts (i.finish t) ↔ List.Forall₂
      (fun x y => OwnPost (x ∈ i.writable) (accounts x).account (t y).account)
      i.params i.output :=
  List.forall₂_map_right_iff

/-- A vector in the order of the parameters always pairs. -/
theorem paired_in_order {i : Instruction} {accounts t : Accounts} (ho : i.output = i.params)
    (ht : Rewritten i.writable accounts t) : i.Paired accounts (i.finish t) := by
  rw [paired_iff, ho, List.forall₂_same]
  intro x _
  exact rewritten_own ht x

/-- A vector with the last two of three accounts exchanged pairs when each can stand for
the other, and only then. -/
theorem paired_swapped {i : Instruction} {accounts t : Accounts} {x y z : Ident}
    (hp : i.params = [x, y, z]) (ho : i.output = [x, z, y])
    (ht : Rewritten i.writable accounts t) :
    i.Paired accounts (i.finish t) ↔
      OwnPost (y ∈ i.writable) (accounts y).account (t z).account ∧
        OwnPost (z ∈ i.writable) (accounts z).account (t y).account := by
  rw [paired_iff, hp, ho]
  simp only [List.forall₂_cons, List.Forall₂.nil, and_true]
  constructor
  · intro h
    obtain ⟨_, h⟩ := h
    exact h
  · intro h
    exact ⟨rewritten_own ht x, h⟩

variable [AuthorityCrate]

/-- Behind its gates, an instruction puts out what its own statements make of the
accounts, in the order of its vector. -/
theorem run_ok {i : Instruction} {usizeMax : Nat} {accounts : Accounts} {out : SpelOutput}
    (h : i.run usizeMax accounts = .ok (.ok out)) :
    ∃ t, (exec i.body accounts).result = .ok t ∧ out = i.finish t := by
  unfold Instruction.run at h
  cases he : Accounts.handler.expand usizeMax i.attrs i.body with
  | error halt =>
    rw [he] at h
    cases h
  | ok stmts =>
    rw [he] at h
    obtain ⟨gates, rfl⟩ := expand_gates he
    have hr := Except.ok.inj h
    beta_reduce at hr
    rcases first_failure (gates.reverse.map Accounts.handler.prologue) accounts with
      hall | ⟨passed, c, failed, e, hsplit, hpassed, hc⟩
    · rw [exec_ensures hall] at hr
      cases hb : (exec i.body accounts).result with
      | error e =>
        rw [hb] at hr
        cases hr
      | ok t =>
        rw [hb] at hr
        exact ⟨t, rfl, (Except.ok.inj hr).symm⟩
    · rw [hsplit, exec_ensures_stop hpassed hc] at hr
      cases hr

end AdminAuthority.Proofs
