import AdminAuthority.Lib.ParsedFold
import AdminAuthority.Spec.Arguments

namespace AdminAuthority.Proofs
open ParsedFold

theorem is_ident_iff {p : Path} {ident : Ident} :
    p.isIdent ident = true ↔ p.getIdent = some ident := by
  simp [Path.isIdent]

/-- A path that is an identifier is that identifier and nothing else. -/
theorem get_ident_eq {p : Path} {ident : Ident} (h : p.getIdent = some ident) :
    p = ⟨false, [⟨ident, true⟩]⟩ := by
  obtain ⟨leadingColon, segments⟩ := p
  simp only [Path.getIdent] at h
  split at h
  · rename_i s
    obtain ⟨name, bare⟩ := s
    cases bare with
    | true => cases h; rfl
    | false => cases h
  · cases h

theorem initialize_parses : Parses initializeStep initializeSetting InitializeVars.set := by
  intro vars pair
  unfold initializeSetting initializeStep
  cases hk : pair.path.getIdent with
  | none => rfl
  | some key =>
    simp only []
    by_cases ho : key = "offset"
    · simp [ho, Except.map, InitializeVars.set]
    · rw [if_neg ho, if_neg ho]
      by_cases hn : key = "admin_config" ∨ key = "caller"
      · rw [if_pos hn, if_pos hn]
        cases pair.value with
        | lit lit => rfl
        | other tokens => rfl
        | path p =>
          simp only []
          cases p.getIdent with
          | none => rfl
          | some ident =>
            by_cases hc : key = "admin_config"
            · simp [hc, hk, Except.map, InitializeVars.set, Path.isIdent]
            · simp [hc, hk, Except.map, InitializeVars.set, Path.isIdent]
      · rw [if_neg hn, if_neg hn]
        rfl

theorem gate_parses (usizeMax : Nat) :
    Parses (gateStep usizeMax) (gateSetting usizeMax) GateArgs.set := by
  intro vars pair
  unfold gateSetting gateStep
  by_cases ho : pair.path.isIdent "offset" = true
  · rw [if_pos ho, if_pos ho]
    cases pair.value with
    | path p => rfl
    | other tokens => rfl
    | lit lit =>
      cases lit with
      | other token => rfl
      | negative value => rfl
      | int value =>
        by_cases hv : value ≤ usizeMax
        · simp [hv, ho, Except.map, GateArgs.set]
        · simp [hv, Except.map]
  · rw [if_neg ho, if_neg ho]
    cases pair.value with
    | lit lit => rfl
    | other tokens => rfl
    | path p =>
      simp only []
      cases p.getIdent with
      | none => rfl
      | some ident =>
        by_cases hc : pair.path.isIdent "admin_config" = true
        · simp [hc, ho, Except.map, GateArgs.set]
        · by_cases hl : pair.path.isIdent "caller" = true
          · simp [hc, hl, ho, Except.map, GateArgs.set]
          · simp [hc, hl, Except.map]

theorem initialize_offset {pair : MetaNameValue} (h : pair.path.isIdent "offset" = true) :
    initializeSetting pair = .ok (.offset pair.value) := by
  simp [initializeSetting, initializeStep, is_ident_iff.mp h, Except.map]

theorem initialize_config {pair : MetaNameValue} {ident : Ident}
    (h : pair.path.isIdent "admin_config" = true) (hv : pair.value.Names ident) :
    initializeSetting pair = .ok (.configIdent ident) := by
  obtain ⟨p, hp, hi⟩ := hv
  simp [initializeSetting, initializeStep, is_ident_iff.mp h, h, hp, hi, Except.map]

theorem initialize_caller {pair : MetaNameValue} {ident : Ident}
    (h : pair.path.isIdent "caller" = true) (hv : pair.value.Names ident) :
    initializeSetting pair = .ok (.callerIdent ident) := by
  obtain ⟨p, hp, hi⟩ := hv
  have hk := is_ident_iff.mp h
  simp [initializeSetting, initializeStep, hk, hp, hi, Except.map, Path.isIdent]

/-- The unguarded `expect`. -/
theorem initialize_split {pair : MetaNameValue} (h : pair.SplitName) :
    initializeSetting pair = .error (.panic "bare ident") := by
  obtain ⟨hk, p, hp, hi⟩ := h
  rcases hk with hk | hk
  · simp [initializeSetting, initializeStep, is_ident_iff.mp hk, hp, hi, Except.map]
  · simp [initializeSetting, initializeStep, is_ident_iff.mp hk, hp, hi, Except.map]

/-- Every other argument is refused where it stands. -/
theorem initialize_refused {pair : MetaNameValue} (hr : ¬pair.Readable) (hs : ¬pair.SplitName) :
    ∃ span message, initializeSetting pair = .error (.compileError span message) ∧
      (span = .key pair ∨ span = .value pair) := by
  unfold initializeSetting initializeStep
  cases hk : pair.path.getIdent with
  | none => exact ⟨_, _, rfl, .inl rfl⟩
  | some key =>
    have ho : key ≠ "offset" := by
      rintro rfl
      apply hr
      exact .inl (is_ident_iff.mpr hk)
    simp only [if_neg ho]
    by_cases hn : key = "admin_config" ∨ key = "caller"
    · have hname : pair.NameKey := by
        rcases hn with rfl | rfl
        · exact .inl (is_ident_iff.mpr hk)
        · exact .inr (is_ident_iff.mpr hk)
      rw [if_pos hn]
      cases hv : pair.value with
      | lit lit => exact ⟨_, _, rfl, .inr rfl⟩
      | other tokens => exact ⟨_, _, rfl, .inr rfl⟩
      | path p =>
        cases hi : p.getIdent with
        | none => exact absurd ⟨hname, p, hv, hi⟩ hs
        | some ident => exact absurd (.inr ⟨hname, ident, p, hv, hi⟩) hr
    · rw [if_neg hn]
      exact ⟨_, _, rfl, .inl rfl⟩

/-- An argument sets the variable its key names, and only readable ones set any. -/
theorem initialize_setting_ok {pair : MetaNameValue} {b : Setting Expr}
    (h : initializeSetting pair = .ok b) :
    pair.path.isIdent b.key = true ∧ pair.Readable := by
  by_cases hr : pair.Readable
  · refine ⟨?_, hr⟩
    rcases hr with ho | ⟨hc | hc, ident, hv⟩
    · obtain rfl := Except.ok.inj ((initialize_offset ho).symm.trans h)
      exact ho
    · obtain rfl := Except.ok.inj ((initialize_config hc hv).symm.trans h)
      exact hc
    · obtain rfl := Except.ok.inj ((initialize_caller hc hv).symm.trans h)
      exact hc
  · by_cases hs : pair.SplitName
    · cases (initialize_split hs).symm.trans h
    · obtain ⟨_, _, he, _⟩ := initialize_refused hr hs
      cases he.symm.trans h

theorem initialize_readable {pair : MetaNameValue} :
    (∃ b, initializeSetting pair = .ok b) ↔ pair.Readable := by
  constructor
  · intro h
    obtain ⟨b, hb⟩ := h
    exact (initialize_setting_ok hb).2
  · rintro (ho | ⟨hc | hc, ident, hv⟩)
    · exact ⟨_, initialize_offset ho⟩
    · exact ⟨_, initialize_config hc hv⟩
    · exact ⟨_, initialize_caller hc hv⟩

/-- What one argument can do to the loop of `#[require_admin]`. No argument makes it panic. -/
theorem gate_setting_cases (usizeMax : Nat) (pair : MetaNameValue) :
    (∃ ident, gateSetting usizeMax pair = .ok (.configIdent ident) ∧
      pair.path.isIdent "admin_config" = true ∧ pair.value.Names ident) ∨
    (∃ ident, gateSetting usizeMax pair = .ok (.callerIdent ident) ∧
      pair.path.isIdent "caller" = true ∧ pair.value.Names ident) ∨
    (∃ value, gateSetting usizeMax pair = .ok (.offset value) ∧
      pair.path.isIdent "offset" = true ∧ pair.value = .lit (.int value) ∧ value ≤ usizeMax) ∨
    (∃ span message, gateSetting usizeMax pair = .error (.compileError span message) ∧
      (span = .key pair ∨ span = .value pair)) := by
  unfold gateSetting gateStep
  by_cases ho : pair.path.isIdent "offset" = true
  · simp only [if_pos ho]
    right; right
    cases hv : pair.value with
    | path p => exact .inr ⟨_, _, rfl, .inr rfl⟩
    | other tokens => exact .inr ⟨_, _, rfl, .inr rfl⟩
    | lit lit =>
      cases lit with
      | other token => exact .inr ⟨_, _, rfl, .inr rfl⟩
      | negative value => exact .inr ⟨_, _, rfl, .inr rfl⟩
      | int value =>
        by_cases hle : value ≤ usizeMax
        · simp only [if_pos hle]
          exact .inl ⟨value, rfl, ho, rfl, hle⟩
        · simp only [if_neg hle]
          exact .inr ⟨_, _, rfl, .inr rfl⟩
  · simp only [if_neg ho]
    cases hv : pair.value with
    | lit lit => exact .inr (.inr (.inr ⟨_, _, rfl, .inr rfl⟩))
    | other tokens => exact .inr (.inr (.inr ⟨_, _, rfl, .inr rfl⟩))
    | path p =>
      cases hi : p.getIdent with
      | none =>
        simp only [hi]
        exact .inr (.inr (.inr ⟨_, _, rfl, .inr rfl⟩))
      | some ident =>
        simp only [hi]
        by_cases hc : pair.path.isIdent "admin_config" = true
        · simp only [if_pos hc]
          exact .inl ⟨ident, rfl, hc, p, rfl, hi⟩
        · by_cases hl : pair.path.isIdent "caller" = true
          · simp only [if_neg hc, if_pos hl]
            exact .inr (.inl ⟨ident, rfl, hl, p, rfl, hi⟩)
          · simp only [if_neg hc, if_neg hl]
            exact .inr (.inr (.inr ⟨_, _, rfl, .inl rfl⟩))

theorem gate_setting_key {usizeMax : Nat} {pair : MetaNameValue} {c : Setting Nat}
    (h : gateSetting usizeMax pair = .ok c) : pair.path.isIdent c.key = true := by
  rcases gate_setting_cases usizeMax pair with
    ⟨_, he, hk, _⟩ | ⟨_, he, hk, _⟩ | ⟨_, he, hk, _⟩ | ⟨_, _, he, _⟩
  · obtain rfl := Except.ok.inj (he.symm.trans h)
    exact hk
  · obtain rfl := Except.ok.inj (he.symm.trans h)
    exact hk
  · obtain rfl := Except.ok.inj (he.symm.trans h)
    exact hk
  · cases he.symm.trans h

/-- An argument that both macros read tells them the same. -/
theorem settings_agree {usizeMax : Nat} {pair : MetaNameValue} {b : Setting Expr}
    {c : Setting Nat} (hb : initializeSetting pair = .ok b)
    (hc : gateSetting usizeMax pair = .ok c) : Setting.Agree usizeMax b c := by
  rcases gate_setting_cases usizeMax pair with
    ⟨ident, he, hk, hv⟩ | ⟨ident, he, hk, hv⟩ | ⟨value, he, hk, hv, hle⟩ | ⟨_, _, he, _⟩
  · obtain rfl := Except.ok.inj (he.symm.trans hc)
    obtain rfl := Except.ok.inj ((initialize_config hk hv).symm.trans hb)
    exact .configIdent ident
  · obtain rfl := Except.ok.inj (he.symm.trans hc)
    obtain rfl := Except.ok.inj ((initialize_caller hk hv).symm.trans hb)
    exact .callerIdent ident
  · obtain rfl := Except.ok.inj (he.symm.trans hc)
    obtain rfl := Except.ok.inj ((initialize_offset hk).symm.trans hb)
    rw [hv]
    exact .offset hle
  · cases he.symm.trans hc

theorem set_agree {usizeMax : Nat} {vars : InitializeVars} {gate : GateArgs} {b : Setting Expr}
    {c : Setting Nat} (h : VarsAgree usizeMax vars gate) (hbc : Setting.Agree usizeMax b c) :
    VarsAgree usizeMax (vars.set b) (gate.set c) := by
  cases hbc with
  | configIdent ident => exact ⟨rfl, h.callerIdent, h.offset⟩
  | callerIdent ident => exact ⟨h.configIdent, rfl, h.offset⟩
  | offset hle =>
    refine ⟨h.configIdent, h.callerIdent, ?_⟩
    intro e he
    cases he
    exact ⟨rfl, hle⟩

/-- Two loops over the same arguments stay in agreement. -/
theorem loops_agree {usizeMax : Nat} {args : List MetaNameValue} {bs : List (Setting Expr)}
    {cs : List (Setting Nat)} (hb : parseAll initializeSetting args = .ok bs)
    (hc : parseAll (gateSetting usizeMax) args = .ok cs) {vars : InitializeVars}
    {gate : GateArgs} (h : VarsAgree usizeMax vars gate) :
    VarsAgree usizeMax (bs.foldl InitializeVars.set vars) (cs.foldl GateArgs.set gate) := by
  induction args generalizing bs cs vars gate with
  | nil =>
    cases hb
    cases hc
    exact h
  | cons pair args ih =>
    obtain ⟨b, bs, hpair, hbs, rfl⟩ := parseAll_cons_ok.mp hb
    obtain ⟨c, cs, hpair', hcs, rfl⟩ := parseAll_cons_ok.mp hc
    apply ih hbs hcs
    apply set_agree h
    exact settings_agree hpair hpair'

theorem initialize_args_foldlM {args : List MetaNameValue} {r : InitializeArgs} :
    adminInitializeArgs args = .ok r ↔
      args.foldlM initializeStep ⟨"admin_config", "caller", none⟩ =
        .ok ⟨r.configIdent, r.callerIdent, some r.offset⟩ := by
  rw [adminInitializeArgs]
  cases args.foldlM initializeStep ⟨"admin_config", "caller", none⟩ with
  | error halt => simp
  | ok vars =>
    obtain ⟨configIdent, callerIdent, offsetExpr⟩ := vars
    cases offsetExpr with
    | none => simp
    | some offset =>
      cases r
      simp

/-- What an accepted list of arguments of `#[admin_initialize]` went through. -/
theorem initialize_args_ok {args : List MetaNameValue} {r : InitializeArgs} :
    adminInitializeArgs args = .ok r ↔ ∃ bs, parseAll initializeSetting args = .ok bs ∧
      bs.foldl InitializeVars.set ⟨"admin_config", "caller", none⟩ =
        ⟨r.configIdent, r.callerIdent, some r.offset⟩ := by
  rw [initialize_args_foldlM, foldlM_eq initialize_parses]
  cases parseAll initializeSetting args <;> simp [Except.map]

theorem gate_args_ok {usizeMax : Nat} {args : List MetaNameValue} {g : GateArgs} :
    requireAdminArgs usizeMax args = .ok g ↔
      ∃ cs, parseAll (gateSetting usizeMax) args = .ok cs ∧
        cs.foldl GateArgs.set ⟨"admin_config", "caller", 0⟩ = g := by
  rw [requireAdminArgs, foldlM_eq (gate_parses usizeMax)]
  cases parseAll (gateSetting usizeMax) args <;> simp [Except.map]

/-- Arguments that both macros accept resolve to the same accounts and the same offset. -/
theorem resolved_agree {usizeMax : Nat} {args : List MetaNameValue} {r : InitializeArgs}
    {g : GateArgs} (hr : adminInitializeArgs args = .ok r)
    (hg : requireAdminArgs usizeMax args = .ok g) :
    r.configIdent = g.configIdent ∧ r.callerIdent = g.callerIdent ∧
      r.offset = .lit (.int g.offset) ∧ g.offset ≤ usizeMax := by
  obtain ⟨bs, hb, hbs⟩ := initialize_args_ok.mp hr
  obtain ⟨cs, hc, hcs⟩ := gate_args_ok.mp hg
  have hstart : VarsAgree usizeMax ⟨"admin_config", "caller", none⟩ ⟨"admin_config", "caller", 0⟩ :=
    ⟨rfl, rfl, fun e he => by cases he⟩
  have h := loops_agree hb hc hstart
  rw [hbs, hcs] at h
  exact ⟨h.configIdent, h.callerIdent, h.offset _ rfl⟩

end AdminAuthority.Proofs
