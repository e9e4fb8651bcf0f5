import AdminAuthority.Proofs.Arguments
import Mathlib.Data.List.Nodup

namespace AdminAuthority.Proofs
open ParsedFold

/-- The loop of `#[admin_initialize]` panics at a split name that nothing before it
was refused for, and nowhere else. -/
theorem initialize_ends_well {args : List MetaNameValue} :
    EndsWell args (adminInitializeArgs args) ↔
      ∀ before pair after, args = before ++ pair :: after →
        (∀ a ∈ before, a.Readable) → ¬pair.SplitName := by
  constructor
  · rintro h before pair after rfl hbefore hs
    have hp : parseAll initializeSetting (before ++ pair :: after) = .error (.panic "bare ident") :=
      parseAll_error.mpr ⟨before, pair, after, rfl,
        fun a ha => initialize_readable.mpr (hbefore a ha), initialize_split hs⟩
    rw [adminInitializeArgs, foldlM_eq initialize_parses, hp] at h
    exact h
  · intro h
    rw [adminInitializeArgs, foldlM_eq initialize_parses]
    cases hp : parseAll initializeSetting args with
    | ok bs =>
      simp only [Except.map]
      cases bs.foldl InitializeVars.set ⟨"admin_config", "caller", none⟩ with
      | mk configIdent callerIdent offsetExpr => cases offsetExpr <;> trivial
    | error halt =>
      obtain ⟨before, pair, after, rfl, hbefore, he⟩ := parseAll_error.mp hp
      have hs := h before pair after rfl fun a ha => initialize_readable.mp (hbefore a ha)
      have hr : ¬pair.Readable := by
        intro hr
        obtain ⟨b, hb⟩ := initialize_readable.mpr hr
        cases hb.symm.trans he
      obtain ⟨span, message, hc, hspan⟩ := initialize_refused hr hs
      obtain rfl := Except.error.inj (he.symm.trans hc)
      rcases hspan with rfl | rfl
      · exact List.mem_append_right _ (List.mem_cons_self ..)
      · exact List.mem_append_right _ (List.mem_cons_self ..)

theorem gate_ends_well (usizeMax : Nat) (args : List MetaNameValue) :
    EndsWell args (requireAdminArgs usizeMax args) := by
  rw [requireAdminArgs, foldlM_eq (gate_parses usizeMax)]
  cases hp : parseAll (gateSetting usizeMax) args with
  | ok cs => trivial
  | error halt =>
    obtain ⟨before, pair, after, rfl, _, he⟩ := parseAll_error.mp hp
    rcases gate_setting_cases usizeMax pair with
      ⟨_, hc, _⟩ | ⟨_, hc, _⟩ | ⟨_, hc, _⟩ | ⟨span, message, hc, hspan⟩
    · cases hc.symm.trans he
    · cases hc.symm.trans he
    · cases hc.symm.trans he
    · obtain rfl := Except.error.inj (he.symm.trans hc)
      rcases hspan with rfl | rfl
      · exact List.mem_append_right _ (List.mem_cons_self ..)
      · exact List.mem_append_right _ (List.mem_cons_self ..)

/-- Arguments under different keys set different variables. -/
theorem settings_nodup {ω : Type} {parse : MetaNameValue → Except Halt (Setting ω)}
    (hkey : ∀ pair b, parse pair = .ok b → pair.path.isIdent b.key = true)
    {args : List MetaNameValue} {bs : List (Setting ω)} (h : parseAll parse args = .ok bs)
    (hn : (args.map MetaNameValue.path).Nodup) : (bs.map Setting.key).Nodup := by
  induction args generalizing bs with
  | nil =>
    cases h
    exact List.nodup_nil
  | cons pair args ih =>
    obtain ⟨b, cs, hb, hcs, rfl⟩ := parseAll_cons_ok.mp h
    obtain ⟨hout, hrest⟩ := List.nodup_cons.mp hn
    refine List.nodup_cons.mpr ⟨?_, ih hcs hrest⟩
    intro hmem
    obtain ⟨c, hc, he⟩ := List.mem_map.mp hmem
    obtain ⟨pair', hpair', hparse⟩ := parseAll_mem hcs hc
    have hk := get_ident_eq (is_ident_iff.mp (hkey pair' c hparse))
    rw [he, ← get_ident_eq (is_ident_iff.mp (hkey pair b hb))] at hk
    apply hout
    rw [← hk]
    exact List.mem_map_of_mem hpair'

/-- Settings of different variables commute where any two of the three do. -/
theorem set_comm {ν ω : Type} {set : ν → Setting ω → ν}
    (hnames : ∀ vars x y, set (set vars (.configIdent x)) (.callerIdent y) =
      set (set vars (.callerIdent y)) (.configIdent x))
    (hconfig : ∀ vars x e, set (set vars (.configIdent x)) (.offset e) =
      set (set vars (.offset e)) (.configIdent x))
    (hcaller : ∀ vars x e, set (set vars (.callerIdent x)) (.offset e) =
      set (set vars (.offset e)) (.callerIdent x))
    {b c : Setting ω} (hne : b.key ≠ c.key) (vars : ν) :
    set (set vars b) c = set (set vars c) b := by
  cases b with
  | configIdent x =>
    cases c with
    | configIdent y => exact absurd rfl hne
    | callerIdent y => exact hnames vars x y
    | offset e => exact hconfig vars x e
  | callerIdent x =>
    cases c with
    | configIdent y => exact (hnames vars y x).symm
    | callerIdent y => exact absurd rfl hne
    | offset e => exact hcaller vars x e
  | offset e =>
    cases c with
    | configIdent y => exact (hconfig vars y e).symm
    | callerIdent y => exact (hcaller vars y e).symm
    | offset e' => exact absurd rfl hne

/-- Under pairwise distinct keys the order of the arguments decides nothing in a loop
whose setter commutes. -/
theorem loop_perm {ν ω : Type} {step : ν → MetaNameValue → Except Halt ν}
    {parse : MetaNameValue → Except Halt (Setting ω)} {set : ν → Setting ω → ν}
    (hparses : Parses step parse set)
    (hkey : ∀ pair b, parse pair = .ok b → pair.path.isIdent b.key = true)
    (hcomm : ∀ b c : Setting ω, b.key ≠ c.key → ∀ vars, set (set vars b) c = set (set vars c) b)
    {args others : List MetaNameValue} (hp : args.Perm others)
    (hn : (args.map MetaNameValue.path).Nodup) {s t : ν} (hs : args.foldlM step s = .ok t) :
    others.foldlM step s = .ok t := by
  apply foldlM_perm hparses hp _ hs
  intro bs hbs b hb c hc vars
  have hkeys := settings_nodup hkey hbs hn
  by_cases hk : b.key = c.key
  · rw [List.inj_on_of_nodup_map hkeys hb hc hk]
  · exact hcomm b c hk vars

theorem initialize_args_perm {args others : List MetaNameValue} (hp : args.Perm others)
    (hn : (args.map MetaNameValue.path).Nodup) {r : InitializeArgs}
    (h : adminInitializeArgs args = .ok r) : adminInitializeArgs others = .ok r := by
  rw [initialize_args_foldlM] at h ⊢
  refine loop_perm initialize_parses (fun _ _ ho => (initialize_setting_ok ho).1) ?_ hp hn h
  intro b c hne
  exact set_comm (fun _ _ _ => rfl) (fun _ _ _ => rfl) (fun _ _ _ => rfl) hne

theorem gate_args_perm {usizeMax : Nat} {args others : List MetaNameValue}
    (hp : args.Perm others) (hn : (args.map MetaNameValue.path).Nodup) {g : GateArgs}
    (h : requireAdminArgs usizeMax args = .ok g) : requireAdminArgs usizeMax others = .ok g := by
  refine loop_perm (gate_parses usizeMax) (fun _ _ ho => gate_setting_key ho) ?_ hp hn h
  intro b c hne
  exact set_comm (fun _ _ _ => rfl) (fun _ _ _ => rfl) (fun _ _ _ => rfl) hne

/-- Exactly when both loops end as they should on a list of arguments: the name after
`admin_config` or `caller` must not be a path such as `a::b`, unless an argument before
it was refused. The order of the arguments never matters. -/
theorem argument_loops_total_iff (usizeMax : Nat) (args : List MetaNameValue) :
    (EndsWell args (adminInitializeArgs args) ∧ EndsWell args (requireAdminArgs usizeMax args) ∧
      ∀ others, args.Perm others → (args.map MetaNameValue.path).Nodup →
        (∀ r, adminInitializeArgs args = .ok r ↔ adminInitializeArgs others = .ok r) ∧
        (∀ g, requireAdminArgs usizeMax args = .ok g ↔ requireAdminArgs usizeMax others = .ok g)) ↔
    ∀ before pair after, args = before ++ pair :: after →
      (∀ a ∈ before, a.Readable) → ¬pair.SplitName := by
  constructor
  · intro h
    obtain ⟨h, _, _⟩ := h
    exact initialize_ends_well.mp h
  · intro h
    refine ⟨initialize_ends_well.mpr h, gate_ends_well usizeMax args, ?_⟩
    intro others hp hn
    have hn' : (others.map MetaNameValue.path).Nodup := (hp.map _).nodup hn
    refine ⟨fun r => ⟨?_, ?_⟩, fun g => ⟨?_, ?_⟩⟩
    · exact initialize_args_perm hp hn
    · exact initialize_args_perm hp.symm hn'
    · exact gate_args_perm hp hn
    · exact gate_args_perm hp.symm hn'

/-- `#[admin_initialize(admin_config = a::b, offset = 32)]` crashes the macro. -/
theorem admin_initialize_panics_on_path :
    let args : List MetaNameValue := [
      ⟨⟨false, [⟨"admin_config", true⟩]⟩, .path ⟨false, [⟨"a", true⟩, ⟨"b", true⟩]⟩⟩,
      ⟨⟨false, [⟨"offset", true⟩]⟩, .lit (.int 32)⟩]
    adminInitializeArgs args = .error (.panic "bare ident") ∧
      ¬EndsWell args (adminInitializeArgs args) := by
  intro args
  have h : adminInitializeArgs args = .error (.panic "bare ident") := by decide
  refine ⟨h, ?_⟩
  rw [h]
  exact not_false

end AdminAuthority.Proofs
