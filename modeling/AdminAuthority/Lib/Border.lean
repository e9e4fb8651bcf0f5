import AdminAuthority.Lib.Window

namespace Window

/-- A word that meets itself in no proper shift: none of its proper suffixes is one of
its prefixes. -/
def Borderless (w : List α) : Prop :=
  ∀ d, 0 < d → d < w.length → w.drop d ≠ w.take (w.length - d)

/-- Two occurrences that overlap show the word a border. -/
theorem border_of_overlap {xs w : List α} (ho : read xs o w.length = w)
    (hp : read xs p w.length = w) (hlt : o < p) (hover : p < o + w.length) :
    w.drop (p - o) = w.take (w.length - (p - o)) := by
  apply List.ext_getElem?
  intro k
  rw [List.getElem?_drop, List.getElem?_take]
  have hread : ∀ q, read xs q w.length = w → ∀ j, w[j]? =
      if j < w.length then xs[q + j]? else none := by
    intro q hq j
    have hj := getElem?_read xs q w.length j
    rwa [hq] at hj
  rw [hread o ho (p - o + k), hread p hp k]
  by_cases hk : k < w.length - (p - o)
  · rw [if_pos (by omega), if_pos hk, if_pos (by omega)]
    congr 1
    omega
  · rw [if_neg (by omega), if_neg hk]

/-- A borderless word does not occur twice within its own length. -/
theorem Borderless.occurs_once {xs w : List α} (hw : Borderless w)
    (ho : read xs o w.length = w) (hp : read xs p w.length = w)
    (hop : o < p + w.length) (hpo : p < o + w.length) : o = p := by
  rcases Nat.lt_trichotomy o p with h | h | h
  · exact absurd (border_of_overlap ho hp h hpo) (hw (p - o) (by omega) (by omega))
  · exact h
  · exact absurd (border_of_overlap hp ho h hop) (hw (o - p) (by omega) (by omega))

/-- One letter repeated, then another one repeated. -/
theorem borderless_runs {a b : α} {m n : Nat} (hab : a ≠ b) (hm : 0 < m) (hn : 0 < n) :
    Borderless (List.replicate m a ++ List.replicate n b) := by
  intro d hd hlen heq
  simp only [List.length_append, List.length_replicate] at hlen heq
  -- The shift moves some position of the first run into the second.
  have hj := congrArg (fun w => w[m - d]?) heq
  simp only [List.getElem?_drop, List.getElem?_take] at hj
  rw [if_pos (by omega), List.getElem?_append_right (by simp; omega),
    List.getElem?_append_left (by simp; omega), List.getElem?_replicate, List.getElem?_replicate,
    if_pos (by simp; omega), if_pos (by omega)] at hj
  exact hab (Option.some.inj hj).symm

end Window
