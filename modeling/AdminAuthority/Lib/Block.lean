import Mathlib.Data.List.Basic

namespace Block

/-- How a statement ends: it falls through, returns early with success, or fails. -/
inductive Flow (σ : Type u) (ε : Type v) where
  | next (s : σ)
  | ret (s : σ)
  | fail (e : ε)

/-- A statement of a function body, over the variables in scope. -/
abbrev Stmt (σ : Type u) (ε : Type v) := σ → Flow σ ε

def Flow.andThen (f : Flow σ ε) (k : σ → Flow σ ε) : Flow σ ε :=
  match f with
  | .next s => k s
  | .ret s => .ret s
  | .fail e => .fail e

/-- A body runs its statements until one of them does not fall through. -/
def exec : List (Stmt σ ε) → Stmt σ ε
  | [], s => .next s
  | st :: rest, s => (st s).andThen (exec rest)

/-- What the function returns. The value of the last statement and an early
return are both a success. -/
def Flow.result : Flow σ ε → Except ε σ
  | .next s => .ok s
  | .ret s => .ok s
  | .fail e => .error e

/-- A fallible call made for its effect, followed by `?`. -/
def attempt (f : σ → Except ε σ) : Stmt σ ε := fun s =>
  match f s with
  | .ok t => .next t
  | .error e => .fail e

@[simp] theorem exec_nil (s : σ) : exec ([] : List (Stmt σ ε)) s = .next s := rfl

@[simp] theorem exec_cons (st : Stmt σ ε) (rest : List (Stmt σ ε)) (s : σ) :
    exec (st :: rest) s = (st s).andThen (exec rest) := rfl

@[simp] theorem andThen_next (s : σ) (k : σ → Flow σ ε) : (Flow.next s).andThen k = k s := rfl

@[simp] theorem andThen_ret (s : σ) (k : σ → Flow σ ε) : (Flow.ret s).andThen k = .ret s := rfl

@[simp] theorem andThen_fail (e : ε) (k : σ → Flow σ ε) : (Flow.fail e).andThen k = .fail e := rfl

theorem andThen_assoc (f : Flow σ ε) (k l : σ → Flow σ ε) :
    (f.andThen k).andThen l = f.andThen (fun s => (k s).andThen l) := by
  cases f <;> rfl

/-- A body split anywhere runs its two parts in sequence. -/
theorem exec_append (xs ys : List (Stmt σ ε)) (s : σ) :
    exec (xs ++ ys) s = (exec xs s).andThen (exec ys) := by
  induction xs generalizing s with
  | nil => rfl
  | cons st rest ih =>
    simp only [List.cons_append, exec_cons, andThen_assoc]
    exact congrArg (st s).andThen (funext ih)

@[simp] theorem result_andThen_next (f : Flow σ ε) : (f.andThen .next).result = f.result := by
  cases f <;> rfl

/-- A check that changes nothing, followed by `?`. -/
def ensure (check : σ → Except ε Unit) : Stmt σ ε := fun s =>
  match check s with
  | .ok () => .next s
  | .error e => .fail e

theorem ensure_ok {check : σ → Except ε Unit} {s : σ} (h : check s = .ok ()) :
    ensure check s = .next s := by
  simp only [ensure, h]

theorem ensure_error {check : σ → Except ε Unit} {s : σ} {e : ε} (h : check s = .error e) :
    ensure check s = .fail e := by
  simp only [ensure, h]

/-- Control gets past the first `n` statements of a body. -/
def Reaches (stmts : List (Stmt σ ε)) (s : σ) (n : Nat) : Prop :=
  ∃ t, exec (stmts.take n) s = .next t

/-- Whoever gets past `n` statements got past the ones before. -/
theorem Reaches.mono {stmts : List (Stmt σ ε)} {s : σ} {m n : Nat} (h : Reaches stmts s n)
    (hm : m ≤ n) : Reaches stmts s m := by
  obtain ⟨t, ht⟩ := h
  obtain ⟨k, rfl⟩ := Nat.exists_eq_add_of_le hm
  rw [List.take_add, exec_append] at ht
  cases hx : exec (stmts.take m) s with
  | next u => exact ⟨u, hx⟩
  | ret u =>
    rw [hx] at ht
    cases ht
  | fail e =>
    rw [hx] at ht
    cases ht

/-- Checks that all pass are as if they were not there. -/
theorem exec_ensures {checks : List (σ → Except ε Unit)} {s : σ}
    (h : ∀ c ∈ checks, c s = .ok ()) (rest : List (Stmt σ ε)) :
    exec (checks.map ensure ++ rest) s = exec rest s := by
  induction checks with
  | nil => rfl
  | cons c checks ih =>
    rw [List.map_cons, List.cons_append, exec_cons, ensure_ok (h c (List.mem_cons_self ..)),
      andThen_next]
    exact ih fun d hd => h d (List.mem_cons_of_mem c hd)

/-- The first check that does not pass ends the body with its error. -/
theorem exec_ensures_stop {passed failed : List (σ → Except ε Unit)} {c : σ → Except ε Unit}
    {s : σ} {e : ε} (h : ∀ d ∈ passed, d s = .ok ()) (hc : c s = .error e)
    (rest : List (Stmt σ ε)) :
    exec ((passed ++ c :: failed).map ensure ++ rest) s = .fail e := by
  rw [List.map_append, List.append_assoc, exec_ensures h, List.map_cons, List.cons_append,
    exec_cons, ensure_error hc, andThen_fail]

/-- Either all checks pass, or there is a first one that does not. -/
theorem first_failure {σ : Type u} {ε : Type v} (checks : List (σ → Except ε Unit)) (s : σ) :
    (∀ c ∈ checks, c s = .ok ()) ∨ ∃ passed c failed e, checks = passed ++ c :: failed ∧
      (∀ d ∈ passed, d s = .ok ()) ∧ c s = .error e := by
  induction checks with
  | nil =>
    left
    intro c hc
    cases hc
  | cons c checks ih =>
    cases hc : c s with
    | error e => exact .inr ⟨[], c, checks, e, rfl, by simp, hc⟩
    | ok u =>
      rcases ih with hall | ⟨passed, d, failed, e, rfl, hp, hd⟩
      · left
        intro d hd
        rcases List.mem_cons.mp hd with rfl | hd
        · exact hc
        · exact hall d hd
      · refine .inr ⟨c :: passed, d, failed, e, rfl, ?_, hd⟩
        intro d hd
        rcases List.mem_cons.mp hd with rfl | hd
        · exact hc
        · exact hp d hd

/-- What comes behind a row of checks is reached when they all pass, and only then. -/
theorem reaches_ensures {checks : List (σ → Except ε Unit)} {s : σ} {rest : List (Stmt σ ε)} :
    Reaches (checks.map ensure ++ rest) s checks.length ↔ ∀ c ∈ checks, c s = .ok () := by
  have htake : (checks.map ensure ++ rest).take checks.length = checks.map ensure ++ [] := by
    rw [List.append_nil]
    exact List.take_left' (by simp)
  rw [Reaches, htake]
  constructor
  · intro h
    obtain ⟨t, ht⟩ := h
    rcases first_failure checks s with hall | ⟨passed, c, failed, e, rfl, hp, hc⟩
    · exact hall
    · rw [exec_ensures_stop hp hc] at ht
      cases ht
  · intro h
    exact ⟨s, exec_ensures h []⟩

end Block
