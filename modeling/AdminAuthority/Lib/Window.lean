import Mathlib.Data.List.Basic
import Mathlib.Data.List.Pairwise

namespace Window

/-- The `n` entries of `xs` that start at position `o`. -/
def read (xs : List α) (o n : Nat) : List α := (xs.drop o).take n

/-- `xs` with the entries from position `o` on overwritten by `ys`. -/
def splice (xs : List α) (o : Nat) (ys : List α) : List α :=
  xs.take o ++ ys ++ xs.drop (o + ys.length)

/-- Two windows that share no position. -/
def Apart (o m p n : Nat) : Prop := o + m ≤ p ∨ p + n ≤ o

theorem Apart.symm (h : Apart o m p n) : Apart p n o m := Or.symm h

@[simp] theorem read_length (h : o + n ≤ xs.length) : (read xs o n).length = n := by
  simp only [read, List.length_take, List.length_drop]
  omega

@[simp] theorem splice_length (h : o + ys.length ≤ xs.length) :
    (splice xs o ys).length = xs.length := by
  simp only [splice, List.length_append, List.length_take, List.length_drop]
  omega

theorem getElem?_read (xs : List α) (o n k : Nat) :
    (read xs o n)[k]? = if k < n then xs[o + k]? else none := by
  simp [read, List.getElem?_take, List.getElem?_drop]

/-- A splice is its new entries inside the window and the old ones outside. -/
theorem getElem?_splice (h : o + ys.length ≤ xs.length) (k : Nat) :
    (splice xs o ys)[k]? = if o ≤ k ∧ k < o + ys.length then ys[k - o]? else xs[k]? := by
  have ho : min o xs.length = o := Nat.min_eq_left (by omega)
  rw [splice, List.append_assoc, List.getElem?_append, List.length_take, ho]
  by_cases hk : k < o
  · simp [hk, show ¬(o ≤ k) by omega]
  · rw [if_neg hk, List.getElem?_append]
    by_cases hy : k < o + ys.length
    · simp [hy, show o ≤ k by omega, show k - o < ys.length by omega]
    · simp only [hy, and_false, if_false, show ¬(k - o < ys.length) by omega, List.getElem?_drop]
      congr 1
      omega

/-- Reading back the window just written. -/
theorem read_splice (h : o + ys.length ≤ xs.length) : read (splice xs o ys) o ys.length = ys := by
  apply List.ext_getElem?
  intro k
  rw [getElem?_read, getElem?_splice h]
  by_cases hk : k < ys.length
  · simp [hk]
  · simp [hk]

/-- A splice leaves every window apart from its own alone. -/
theorem read_splice_apart (h : o + ys.length ≤ xs.length) (ha : Apart o ys.length p n) :
    read (splice xs o ys) p n = read xs p n := by
  apply List.ext_getElem?
  intro k
  rw [getElem?_read, getElem?_read, getElem?_splice h]
  by_cases hk : k < n
  · have hout : ¬(o ≤ p + k ∧ p + k < o + ys.length) := by
      rcases ha with ha | ha <;> omega
    simp only [hk, if_true, hout, if_false]
  · simp [hk]

/-- A second splice into a window leaves no trace of the first. -/
theorem splice_splice (h : o + ys.length ≤ xs.length) (hl : zs.length = ys.length) :
    splice (splice xs o ys) o zs = splice xs o zs := by
  apply List.ext_getElem?
  intro k
  rw [getElem?_splice (by rw [splice_length h, hl]; exact h), getElem?_splice h,
    getElem?_splice (by rw [hl]; exact h), hl]
  by_cases hk : o ≤ k ∧ k < o + ys.length
  · simp only [if_pos hk]
  · simp only [if_neg hk]

theorem read_append (pre w suf : List α) : read (pre ++ w ++ suf) pre.length w.length = w := by
  simp [read]

theorem splice_append (pre w suf : List α) (h : ys.length = w.length) :
    splice (pre ++ w ++ suf) pre.length ys = pre ++ ys ++ suf := by
  simp [splice, h, List.append_assoc, List.drop_append]

theorem read_all (xs : List α) : read xs 0 xs.length = xs := by
  simp [read]

theorem splice_all (h : ys.length = xs.length) : splice xs 0 ys = ys := by
  simp [splice, h]

end Window
