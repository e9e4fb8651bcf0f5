import AdminAuthority.Lib.ParsedFold
import AdminAuthority.Model.Handlers
import AdminAuthority.Model.Reference
import AdminAuthority.Proofs.Perform

namespace AdminAuthority.Proofs
open AuthorityCrate Lifecycle Block ParsedFold

section
variable [Lez] [AuthorityCrate] {σ : Type u} {ε : Type v}

theorem require_admin_parses (h : Handler σ ε) (usizeMax : Nat) :
    Parses (fun stmts args => h.requireAdmin usizeMax args stmts) (requireAdminArgs usizeMax)
      (fun stmts g => ensure (h.prologue g) :: stmts) := by
  intro stmts args
  simp only [Handler.requireAdmin]
  cases requireAdminArgs usizeMax args <;> rfl

/-- Every expansion puts its gate in front of the ones before, so the gate at the `fn`
comes first. -/
theorem expand_ok (h : Handler σ ε) {usizeMax : Nat} {attrs : List (List MetaNameValue)}
    {gates : List GateArgs} (ha : parseAll (requireAdminArgs usizeMax) attrs = .ok gates)
    (body : List (Stmt σ ε)) :
    h.expand usizeMax attrs body =
      .ok ((gates.reverse.map h.prologue).map ensure ++ body) := by
  rw [Handler.expand, foldlM_eq (require_admin_parses h usizeMax), ha, List.map_map,
    List.map_reverse]
  exact congrArg Except.ok List.foldl_flip_cons_eq_append

/-- Whatever a stack expands to is its gates and then the body. -/
theorem expand_gates {h : Handler σ ε} {usizeMax : Nat} {attrs : List (List MetaNameValue)}
    {body stmts : List (Stmt σ ε)} (he : h.expand usizeMax attrs body = .ok stmts) :
    ∃ gates : List GateArgs, stmts = (gates.reverse.map h.prologue).map ensure ++ body := by
  cases hp : parseAll (requireAdminArgs usizeMax) attrs with
  | error halt =>
    rw [Handler.expand, foldlM_eq (require_admin_parses h usizeMax), hp] at he
    cases he
  | ok gates => exact ⟨gates, Except.ok.inj (he.symm.trans (expand_ok h hp body))⟩

/-- Both calls of a gate succeed: its config reads, and the caller is the admin in it. -/
def Passes (h : Handler σ ε) (g : GateArgs) (s : σ) : Prop :=
  ∃ c, AdminConfig.fromAccountAt (h.account g.configIdent s) g.offset = .ok c ∧
    c.assertAdmin (h.account g.callerIdent s) = .ok ()

/-- The call of a gate that fails, and with what: the config does not read, or its check
on the caller fails. -/
def FailsWith (h : Handler σ ε) (g : GateArgs) (s : σ) (e : AdminError) : Prop :=
  AdminConfig.fromAccountAt (h.account g.configIdent s) g.offset = .error e ∨
    ∃ c, AdminConfig.fromAccountAt (h.account g.configIdent s) g.offset = .ok c ∧
      c.assertAdmin (h.account g.callerIdent s) = .error e

theorem admits_ok {h : Handler σ ε} {g : GateArgs} {s : σ} :
    h.admits g s = .ok () ↔ Passes h g s := by
  rw [Handler.admits, GateArgs.check, AdminConfig.gateAt, Passes]
  cases AdminConfig.fromAccountAt (h.account g.configIdent s) g.offset with
  | error e => simp
  | ok c => simp

theorem admits_error {h : Handler σ ε} {g : GateArgs} {s : σ} {e : AdminError} :
    h.admits g s = .error e ↔ FailsWith h g s e := by
  rw [Handler.admits, GateArgs.check, AdminConfig.gateAt, FailsWith]
  cases AdminConfig.fromAccountAt (h.account g.configIdent s) g.offset with
  | error e' => simp
  | ok c => simp

theorem prologue_ok {h : Handler σ ε} {g : GateArgs} {s : σ} :
    h.prologue g s = .ok () ↔ Passes h g s := by
  rw [← admits_ok, Handler.prologue]
  cases h.admits g s <;> simp [Except.mapError]

theorem prologue_error {h : Handler σ ε} {g : GateArgs} {s : σ} {e : ε} :
    h.prologue g s = .error e ↔ ∃ a, FailsWith h g s a ∧ h.raise a s = e := by
  simp only [← admits_error, Handler.prologue]
  cases h.admits g s <;> simp [Except.mapError]

theorem prologues_ok {h : Handler σ ε} {gates : List GateArgs} {s : σ} :
    (∀ c ∈ gates.map h.prologue, c s = .ok ()) ↔ ∀ g ∈ gates, Passes h g s := by
  simp only [List.forall_mem_map, prologue_ok]

/-- The body behind the gates of a stack is reached when all of them pass, and only then. -/
theorem expand_reaches {h : Handler σ ε} {usizeMax : Nat} {attrs : List (List MetaNameValue)}
    {gates : List GateArgs} {body expanded : List (Stmt σ ε)}
    (ha : parseAll (requireAdminArgs usizeMax) attrs = .ok gates)
    (he : h.expand usizeMax attrs body = .ok expanded) (s : σ) :
    Reaches expanded s gates.length ↔ ∀ g ∈ gates, Passes h g s := by
  obtain rfl := Except.ok.inj ((expand_ok h ha body).symm.trans he)
  have hr : Reaches ((gates.reverse.map h.prologue).map ensure ++ body) s
      (gates.reverse.map h.prologue).length ↔ _ := reaches_ensures
  rw [prologues_ok, List.length_map, List.length_reverse] at hr
  rw [hr]
  simp only [List.mem_reverse]

/-- A stack that does not pass ends in the error of the gate nearest the `fn` that fails. -/
theorem expand_stops {h : Handler σ ε} {usizeMax : Nat} {attrs : List (List MetaNameValue)}
    {gates : List GateArgs} {body expanded : List (Stmt σ ε)}
    (ha : parseAll (requireAdminArgs usizeMax) attrs = .ok gates)
    (he : h.expand usizeMax attrs body = .ok expanded) {s : σ}
    (hs : ¬∀ g ∈ gates, Passes h g s) :
    ∃ outer g inner e, gates = outer ++ g :: inner ∧ FailsWith h g s e ∧
      (∀ i ∈ inner, Passes h i s) ∧ exec expanded s = .fail (h.raise e s) := by
  obtain rfl := Except.ok.inj ((expand_ok h ha body).symm.trans he)
  rcases first_failure (gates.reverse.map h.prologue) s with
    hall | ⟨passed, c, failed, e, hsplit, hpassed, hc⟩
  · refine absurd ?_ hs
    intro g hg
    apply prologues_ok.mp hall
    exact List.mem_reverse.mpr hg
  · obtain ⟨inner, rest, hgates, rfl, hrest⟩ := List.map_eq_append_iff.mp hsplit
    obtain ⟨g, outer, rfl, rfl, rfl⟩ := List.map_eq_cons_iff.mp hrest
    obtain ⟨a, hg, rfl⟩ := prologue_error.mp hc
    refine ⟨outer.reverse, g, inner.reverse, a, ?_, hg, ?_, ?_⟩
    · rw [← List.reverse_reverse gates, hgates]
      simp
    · intro i hi
      apply prologues_ok.mp hpassed
      exact List.mem_reverse.mp hi
    · rw [hsplit]
      exact exec_ensures_stop hpassed hc body

/-- The admin's operations begin with the check on the caller. -/
theorem transition_refused {s : AdminSeat} {op : Operation} {e : AdminError}
    (hop : op.byAdmin = true) (h : authorise s (signer op) = .error e) :
    transition s op = .error e := by
  cases op with
  | transfer current candidate newAccount =>
    simp only [signer] at h
    simp only [transition, h, bind, Except.bind]
  | nominate current newAdmin =>
    simp only [signer] at h
    simp only [transition, h, bind, Except.bind]
  | renounce current =>
    simp only [signer] at h
    simp only [transition, h, bind, Except.bind]
  | accept nominee => cases hop

variable [LawfulAuthority]

/-- A gate asks what the lifecycle asks of a caller. -/
theorem admits_verdict (h : Handler σ ε) (g : GateArgs) (s : σ) :
    h.admits g s =
      verdict (h.account g.configIdent s).bytes g.offset (h.account g.callerIdent s) :=
  gate_at_verdict _ _ _

/-- An operation of the admin's refuses a caller as the gate at its window does. -/
theorem perform_at_gated {op : Operation} (hop : op.byAdmin = true)
    {config : AccountWithMetadata} {offset : Nat} {e : AdminError}
    (h : AdminConfig.gateAt config offset (signer op) = .error e) :
    op.performAt config offset = (.error e, config) := by
  have hstep : step config.bytes offset op = .error e := by
    rw [gate_at_verdict] at h
    rcases verdict_error.mp h with hs | ⟨s, hs, ha⟩
    · exact step_refused hs op
    · rw [step_stored hs, transition_refused hop ha]
  rw [perform_at_step, hstep]

/-- The gate's verdict is the first thing an operation on the same accounts comes to. -/
theorem perform_refused_by_gate {h : Handler σ ε} {g : GateArgs} {op : σ → Operation} {s : σ}
    {e : AdminError} (hop : (op s).byAdmin = true)
    (hsigner : signer (op s) = h.account g.callerIdent s) (he : h.admits g s = .error e) :
    h.perform g.configIdent g.offset op s = .fail (h.raise e s) := by
  have hp : (op s).performAt (h.account g.configIdent s) g.offset =
      (.error e, h.account g.configIdent s) := by
    apply perform_at_gated hop
    rw [hsigner]
    exact he
  simp only [Handler.perform, Handler.mutate, hp, h.assign_account]

/-- What comes before the operation left its accounts alone. -/
structure Untouched (h : Handler σ ε) (g : GateArgs) (s t : σ) : Prop where
  config : h.account g.configIdent t = h.account g.configIdent s
  caller : h.account g.callerIdent t = h.account g.callerIdent s
  raise : ∀ e, h.raise e t = h.raise e s

/-- A gate in front of an operation that makes the same check adds nothing. -/
theorem gate_redundant {h : Handler σ ε} {usizeMax : Nat} {args : List MetaNameValue}
    {g : GateArgs} (ha : requireAdminArgs usizeMax args = .ok g) {op : σ → Operation}
    {before : List (Stmt σ ε)} {s t : σ} (hb : exec before s = .next t)
    (hu : Untouched h g s t) (hop : (op t).byAdmin = true)
    (hsigner : signer (op t) = h.account g.callerIdent t) (after : List (Stmt σ ε)) :
    ∃ gated, h.requireAdmin usizeMax args
        (before ++ h.perform g.configIdent g.offset op :: after) = .ok gated ∧
      exec gated s = exec (before ++ h.perform g.configIdent g.offset op :: after) s := by
  refine ⟨_, by rw [Handler.requireAdmin, ha], ?_⟩
  rw [exec_cons]
  cases hg : h.admits g s with
  | ok u => rw [ensure_ok (prologue_ok.mpr (admits_ok.mp hg)), andThen_next]
  | error e =>
    have ht : h.admits g t = .error e := by
      rw [Handler.admits, hu.config, hu.caller]
      exact hg
    rw [ensure_error (prologue_error.mpr ⟨e, admits_error.mp hg, rfl⟩), andThen_fail, exec_append, hb,
      andThen_next, exec_cons, perform_refused_by_gate hop hsigner ht, andThen_fail, hu.raise]

/-- Gates are sound and transparent, in whatever order they are written, and redundant
before an operation on the same accounts. A gate passes, or fails, as the lifecycle's check
of the caller does. -/
theorem gates_sound_and_transparent (h : Handler σ ε) (usizeMax : Nat) :
    (∀ (attrs : List (List MetaNameValue)) (gates : List GateArgs) (body : List (Stmt σ ε)),
      parseAll (requireAdminArgs usizeMax) attrs = .ok gates →
      ∃ expanded, h.expand usizeMax attrs body = .ok expanded ∧ ∀ s,
        ((∀ g ∈ gates, Passes h g s) → exec expanded s = exec body s) ∧
        ((¬∀ g ∈ gates, Passes h g s) →
          (∀ n, gates.length ≤ n → ¬Reaches expanded s n) ∧
          ∃ outer g inner e, gates = outer ++ g :: inner ∧ FailsWith h g s e ∧
            (∀ i ∈ inner, Passes h i s) ∧ exec expanded s = .fail (h.raise e s)) ∧
        ∀ others, attrs.Perm others → ∃ reordered,
          h.expand usizeMax others body = .ok reordered ∧
          (Reaches reordered s gates.length ↔ Reaches expanded s gates.length)) ∧
    (∀ (args : List MetaNameValue) (g : GateArgs), requireAdminArgs usizeMax args = .ok g →
      ∀ (op : σ → Operation) (before after : List (Stmt σ ε)) (s t : σ),
        exec before s = .next t → Untouched h g s t → (op t).byAdmin = true →
        signer (op t) = h.account g.callerIdent t →
        ∃ gated, h.requireAdmin usizeMax args
            (before ++ h.perform g.configIdent g.offset op :: after) = .ok gated ∧
          exec gated s = exec (before ++ h.perform g.configIdent g.offset op :: after) s) ∧
    ∀ (g : GateArgs) (s : σ),
      (Passes h g s ↔ verdict (h.account g.configIdent s).bytes g.offset
        (h.account g.callerIdent s) = .ok ()) ∧
      ∀ e, FailsWith h g s e ↔ verdict (h.account g.configIdent s).bytes g.offset
        (h.account g.callerIdent s) = .error e := by
  refine ⟨?_, ?_, ?_⟩
  · intro attrs gates body ha
    refine ⟨_, expand_ok h ha body, fun s => ⟨?_, ?_, ?_⟩⟩
    · intro hs
      apply exec_ensures
      apply prologues_ok.mpr
      intro g hg
      apply hs
      exact List.mem_reverse.mp hg
    · intro hs
      refine ⟨?_, expand_stops ha (expand_ok h ha body) hs⟩
      intro n hn hr
      apply hs
      apply (expand_reaches ha (expand_ok h ha body) s).mp
      exact hr.mono hn
    · intro others hp
      obtain ⟨gates', hperm, ho⟩ := parseAll_perm hp ha
      refine ⟨_, expand_ok h ho body, ?_⟩
      rw [expand_reaches ha (expand_ok h ha body) s, hperm.length_eq,
        expand_reaches ho (expand_ok h ho body) s]
      simp only [hperm.mem_iff]
  · intro args g ha op before after s t hb hu hop hsigner
    exact gate_redundant ha hb hu hop hsigner after
  · intro g s
    rw [← admits_verdict h g s]
    exact ⟨admits_ok.symm, fun e => admits_error.symm⟩

end

open Reference in
/-- Two gates at offset 8: the admin passes both, nobody else reaches the body, and before a
renounce whoever is not the admin gets from one gate what the renounce would say. -/
theorem gates_sound_and_transparent_renounce :
    let args : List MetaNameValue := [⟨⟨false, [⟨"offset", true⟩]⟩, .lit (.int 8)⟩]
    let gate : GateArgs := ⟨"admin_config", "caller", 8⟩
    let env : Env Unit := ⟨embedded ⟨id 1, default⟩, ()⟩
    let admin : Handler (Env Unit) SpelError := Env.handler "caller" (acct 1 true)
    let other : Handler (Env Unit) SpelError := Env.handler "caller" (acct 2 true)
    (∃ expanded, admin.expand 65535 [args, args] [] = .ok expanded ∧
      exec expanded env = exec [] env ∧ Reaches expanded env 2) ∧
    (∃ blocked, other.expand 65535 [args, args] [] = .ok blocked ∧ ¬Reaches blocked env 2 ∧
      exec blocked env = .fail (.ofAdmin .notAdmin)) ∧
    ∃ gated, other.requireAdmin 65535 args
        ([] ++ other.perform gate.configIdent gate.offset (fun _ => .renounce (acct 2 true)) ::
          []) = .ok gated ∧
      exec gated env = .fail (.ofAdmin .notAdmin) := by
  intro args gate env admin other
  have ha : requireAdminArgs 65535 args = .ok gate := rfl
  have hp : parseAll (requireAdminArgs 65535) [args, args] = .ok [gate, gate] := rfl
  obtain ⟨hadmin, _, hpasses⟩ := gates_sound_and_transparent admin 65535
  obtain ⟨hother, hredundant, hfails⟩ := gates_sound_and_transparent other 65535
  have hgate : ∀ g ∈ [gate, gate], g = gate := by simp
  have hpass : ∀ g ∈ [gate, gate], Passes admin g env := by
    intro g hg
    obtain rfl := hgate g hg
    exact (hpasses gate env).1.mpr rfl
  have hstop : ∀ e, FailsWith other gate env e → e = .notAdmin := by
    intro e he
    have hv : Except.error .notAdmin = Except.error e := ((hfails gate env).2 e).mp he
    exact (Except.error.inj hv).symm
  refine ⟨?_, ?_, ?_⟩
  · obtain ⟨expanded, he, hs⟩ := hadmin _ _ [] hp
    exact ⟨expanded, he, (hs env).1 hpass, (expand_reaches hp he env).mpr hpass⟩
  · obtain ⟨blocked, hb, hs⟩ := hother _ _ [] hp
    have hnot : ¬∀ g ∈ [gate, gate], Passes other g env := by
      intro hall
      have hv := (hfails gate env).1.mp (hall gate (by simp))
      cases hv
    obtain ⟨hreach, outer, g, inner, e, hsplit, he, _, hexec⟩ := (hs env).2.1 hnot
    obtain rfl := hgate g (by rw [hsplit]; simp)
    obtain rfl := hstop e he
    exact ⟨blocked, hb, hreach 2 (Nat.le_refl 2), hexec⟩
  · obtain ⟨gated, hg, he⟩ := hredundant args gate ha (fun _ => .renounce (acct 2 true)) [] []
      env env rfl ⟨rfl, rfl, fun _ => rfl⟩ rfl rfl
    exact ⟨gated, hg, he⟩

end AdminAuthority.Proofs
