import AdminAuthority.Model.Marker

namespace AdminAuthority.Proofs
open Marker

/-- Some attribute is spelled `lez_program`, with nothing around it. -/
def Spelled (attrs : List Attribute) : Prop :=
  ∃ a ∈ attrs, a.path.isIdent "lez_program" = true

def inert (attrs : List Attribute) : List Attribute :=
  attrs.filter fun a => a.target = .inert

/-- A marker still has such an attribute in sight when its turn comes. -/
def Misplaced (kept above rest : List Attribute) : Prop :=
  ∃ before m after, above = before ++ m :: after ∧ m.target = .adminAuthority ∧
    Spelled (kept ++ inert before ++ after ++ rest)

theorem misplaced_cons (kept : List Attribute) (a : Attribute) (above rest : List Attribute) :
    Misplaced kept (a :: above) rest ↔
      a.target = .adminAuthority ∧ Spelled (kept ++ (above ++ rest)) ∨
        Misplaced (kept ++ inert [a]) above rest := by
  constructor
  · rintro ⟨before, m, after, he, hm, hs⟩
    cases before with
    | nil =>
      obtain ⟨rfl, rfl⟩ := List.cons.inj he
      refine .inl ⟨hm, ?_⟩
      simpa [inert] using hs
    | cons b before =>
      obtain ⟨rfl, rfl⟩ := List.cons.inj he
      refine .inr ⟨before, m, after, rfl, hm, ?_⟩
      rw [← List.singleton_append, inert, List.filter_append] at hs
      simpa [inert] using hs
  · rintro (⟨ha, hs⟩ | ⟨before, m, after, rfl, hm, hs⟩)
    · exact ⟨[], a, above, rfl, ha, by simpa [inert] using hs⟩
    · refine ⟨a :: before, m, after, rfl, hm, ?_⟩
      rw [← List.singleton_append, inert, List.filter_append]
      simpa [inert] using hs

theorem admin_authority_spelled (ident : Ident) (attrs : List Attribute) :
    (Spelled attrs → ∃ err, adminAuthority ⟨ident, attrs⟩ = .error err ∧ err.span = ident) ∧
      (¬Spelled attrs → adminAuthority ⟨ident, attrs⟩ = .ok ⟨ident, attrs⟩) := by
  constructor
  · intro h
    have hany : (attrs.any fun a => a.path.isIdent "lez_program") = true := List.any_eq_true.mpr h
    rw [adminAuthority, misplacedAboveLezProgram, if_pos hany]
    exact ⟨_, rfl, rfl⟩
  · intro h
    have hany : ¬(attrs.any fun a => a.path.isIdent "lez_program") = true :=
      fun ht => h (List.any_eq_true.mp ht)
    rw [adminAuthority, misplacedAboveLezProgram, if_neg hany]

/-- Down to the framework's own attribute, each marker either stops the expansion or is
gone, and the rest of it is on its way. -/
theorem expand_above (ident : Ident) {above : List Attribute}
    (h : ∀ a ∈ above, a.target ≠ .lezProgram) (kept rest : List Attribute) :
    (Misplaced kept above rest →
      ∃ err, expand ident kept (above ++ rest) = .error err ∧ err.span = ident) ∧
    (¬Misplaced kept above rest →
      expand ident kept (above ++ rest) = expand ident (kept ++ inert above) rest) := by
  induction above generalizing kept with
  | nil =>
    constructor
    · rintro ⟨before, m, after, he, _⟩
      cases before <;> cases he
    · intro _
      simp [inert]
  | cons a above ih =>
    have hrest := ih fun b hb => h b (List.mem_cons_of_mem a hb)
    rw [misplaced_cons, List.cons_append, expand]
    cases ht : a.target with
    | inert =>
      have ha : inert [a] = [a] := by simp [inert, ht]
      have hall : kept ++ inert (a :: above) = kept ++ [a] ++ inert above := by
        simp [inert, ht]
      rw [ha, hall]
      simpa using hrest (kept ++ [a])
    | lezProgram => exact absurd ht (h a (List.mem_cons_self ..))
    | adminAuthority =>
      have ha : inert [a] = [] := by simp [inert, ht]
      have hall : inert (a :: above) = inert above := by simp [inert, ht]
      rw [ha, hall, List.append_nil]
      obtain ⟨hspelled, hunspelled⟩ := admin_authority_spelled ident (kept ++ (above ++ rest))
      by_cases hs : Spelled (kept ++ (above ++ rest))
      · obtain ⟨err, he, hspan⟩ := hspelled hs
        rw [he]
        exact ⟨fun _ => ⟨err, rfl, hspan⟩, fun hn => absurd (.inl ⟨rfl, hs⟩) hn⟩
      · rw [hunspelled hs]
        obtain ⟨hstop, hgo⟩ := hrest kept
        constructor
        · rintro (⟨_, hs'⟩ | hm)
          · exact absurd hs' hs
          · exact hstop hm
        · intro hn
          exact hgo fun hm => hn (.inr hm)

theorem misplaced_spelled {above : List Attribute} {f : Attribute}
    (hf : f.path.isIdent "lez_program" = true) (below : List Attribute) {m : Attribute}
    (hm : m ∈ above) (ht : m.target = .adminAuthority) : Misplaced [] above (f :: below) := by
  obtain ⟨before, after, rfl⟩ := List.append_of_mem hm
  exact ⟨before, m, after, rfl, ht, f, by simp, hf⟩

/-- Where the framework's attribute is written by its bare name, a module either does not
compile or keeps every marker it has for the framework to see. Where no attribute is
written so, it compiles, and the markers above are lost. -/
theorem marker_placement (ident : Ident) {above : List Attribute} {f : Attribute}
    (habove : ∀ a ∈ above, a.target ≠ .lezProgram) (hf : f.target = .lezProgram)
    (below : List Attribute) :
    let attrs := above ++ f :: below
    (∀ seen, expand ident [] attrs = .ok seen ↔
      ¬Misplaced [] above (f :: below) ∧ seen = some (inert above ++ below)) ∧
    (f.path.isIdent "lez_program" = true → ∀ seen, expand ident [] attrs = .ok (some seen) →
      ∀ m ∈ attrs, m.target = .adminAuthority → m ∈ seen) ∧
    (¬Spelled attrs → ∃ seen, expand ident [] attrs = .ok (some seen) ∧
      ∀ m ∈ seen, m.target = .adminAuthority → m ∈ below) := by
  intro attrs
  obtain ⟨hstop, hgo⟩ := expand_above ident habove [] (f :: below)
  have hseen : expand ident (inert above) (f :: below) = .ok (some (inert above ++ below)) := by
    rw [expand, hf]
  have hok : ∀ seen, expand ident [] attrs = .ok seen ↔
      ¬Misplaced [] above (f :: below) ∧ seen = some (inert above ++ below) := by
    intro seen
    constructor
    · intro h
      have hn : ¬Misplaced [] above (f :: below) := by
        intro hm
        obtain ⟨err, he, _⟩ := hstop hm
        cases he.symm.trans h
      have hs := (hgo hn).trans hseen
      exact ⟨hn, Except.ok.inj (h.symm.trans hs)⟩
    · rintro ⟨hn, rfl⟩
      exact (hgo hn).trans hseen
  refine ⟨hok, ?_, ?_⟩
  · intro hbare seen h m hm ht
    obtain ⟨hn, he⟩ := (hok _).mp h
    obtain rfl := Option.some.inj he
    rcases List.mem_append.mp hm with ha | hb
    · exact absurd (misplaced_spelled hbare below ha ht) hn
    · rcases List.mem_cons.mp hb with rfl | hb
      · cases hf.symm.trans ht
      · exact List.mem_append_right _ hb
  · intro hs
    have hn : ¬Misplaced [] above (f :: below) := by
      rintro ⟨before, m, after, rfl, _, a, ha, hbare⟩
      refine hs ⟨a, ?_, hbare⟩
      simp only [attrs, inert, List.nil_append, List.mem_append, List.mem_cons,
        List.mem_filter] at ha ⊢
      grind
    refine ⟨_, (hok _).mpr ⟨hn, rfl⟩, ?_⟩
    intro m hm ht
    rcases List.mem_append.mp hm with ha | hb
    · have hi := of_decide_eq_true (List.mem_filter.mp ha).2
      cases hi.symm.trans ht
    · exact hb

/-- A marker above the framework's attribute, which is written with its crate's name. -/
theorem marker_placement_qualified :
    let marker : Attribute := ⟨⟨false, [⟨"admin_authority", true⟩]⟩, .adminAuthority⟩
    let lezProgram : Attribute :=
      ⟨⟨false, [⟨"spel_framework", true⟩, ⟨"lez_program", true⟩]⟩, .lezProgram⟩
    ∃ seen, expand "my_program" [] [marker, lezProgram] = .ok (some seen) ∧
      ∀ m ∈ seen, m.target = .adminAuthority → m ∈ [] := by
  intro marker lezProgram
  have hs : ¬Spelled [marker, lezProgram] := by
    rintro ⟨a, ha, hbare⟩
    simp only [List.mem_cons, List.not_mem_nil, or_false] at ha
    rcases ha with rfl | rfl
    · cases hbare
    · cases hbare
  have habove : ∀ a ∈ [marker], a.target ≠ .lezProgram := by
    intro a ha
    obtain rfl := List.mem_singleton.mp ha
    decide
  exact (marker_placement "my_program" habove rfl []).2.2 hs

end AdminAuthority.Proofs
