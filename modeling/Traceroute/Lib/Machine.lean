import Mathlib.Logic.Function.Iterate

/-! Machines whose step is a partial function of the state and of the action taken: runs over a list of
    actions, invariants over runs, runs whose steps all meet a condition, runs in an environment that allows
    some of the steps, and runs without end. -/

/-- `step s a` is the state after the action `a` in `s`, or `none` when `a` is not possible there. -/
structure Machine (σ α : Type) where
  step : σ → α → Option σ

namespace Machine
variable {σ α : Type} {M : Machine σ α} {s t u : σ} {a : α} {as bs : List α}

/-- The state after the actions, taken in order. -/
def exec (M : Machine σ α) : σ → List α → Option σ
  | s, [] => some s
  | s, a :: as => (M.step s a).bind fun t => M.exec t as

@[simp] theorem exec_nil : M.exec s [] = some s := rfl

theorem exec_cons_eq_some : M.exec s (a :: as) = some t ↔ ∃ u, M.step s a = some u ∧ M.exec u as = some t := by
  simp [exec, Option.bind_eq_some_iff]

@[simp] theorem exec_singleton : M.exec s [a] = M.step s a := by
  simp [exec]

theorem exec_append_eq_some :
    M.exec s (as ++ bs) = some t ↔ ∃ u, M.exec s as = some u ∧ M.exec u bs = some t := by
  induction as generalizing s with
  | nil => simp
  | cons a as ih =>
    simp only [List.cons_append, exec_cons_eq_some, ih]
    constructor
    · rintro ⟨v, hv, u, hu, ht⟩
      exact ⟨u, ⟨v, hv, hu⟩, ht⟩
    · rintro ⟨u, ⟨v, hv, hu⟩, ht⟩
      exact ⟨v, hv, u, hu, ht⟩

theorem exec_append (h : M.exec s as = some t) (h' : M.exec t bs = some u) : M.exec s (as ++ bs) = some u :=
  exec_append_eq_some.mpr ⟨t, h, h'⟩

/-- What every step keeps, a run keeps. -/
theorem exec_invariant {I : σ → Prop} (step : ∀ {s t : σ} {a : α}, I s → M.step s a = some t → I t) (hs : I s)
    (h : M.exec s as = some t) : I t := by
  induction as generalizing s with
  | nil =>
    cases h
    exact hs
  | cons a as ih =>
    obtain ⟨u, hu, ht⟩ := exec_cons_eq_some.mp h
    exact ih (step hs hu) ht

/-- What every step relates, a run relates. -/
theorem exec_relation {R : σ → σ → Prop} (refl : ∀ s, R s s) (trans : ∀ {s t u : σ}, R s t → R t u → R s u)
    (step : ∀ {s t : σ} {a : α}, M.step s a = some t → R s t) (h : M.exec s as = some t) : R s t :=
  exec_invariant (I := R s) (fun hs ht => trans hs (step ht)) (refl s) h

/-! ### Runs whose steps meet a condition -/

/-- Every step of the run of `as` from `s` meets `P`, a condition on the state before it and its action. -/
def Along (M : Machine σ α) (P : σ → α → Prop) : σ → List α → Prop
  | _, [] => True
  | s, a :: as => P s a ∧ ∀ t, M.step s a = some t → M.Along P t as

theorem along_cons_of_some {P : σ → α → Prop} (h : M.step s a = some t) :
    M.Along P s (a :: as) ↔ P s a ∧ M.Along P t as := by
  simp [Along, h]

instance decidableAlong {P : σ → α → Prop} [∀ s a, Decidable (P s a)] : ∀ s as, Decidable (M.Along P s as)
  | _, [] => .isTrue trivial
  | s, a :: as =>
    match h : M.step s a with
    | some t =>
      have : Decidable (M.Along P t as) := decidableAlong t as
      decidable_of_iff (P s a ∧ M.Along P t as) (along_cons_of_some h).symm
    | none => decidable_of_iff (P s a) (by simp [Along, h])

/-- A condition on the actions alone is met when every action meets it. -/
theorem along_of_forall {P : α → Prop} (h : ∀ a ∈ as, P a) : M.Along (fun _ a => P a) s as := by
  induction as generalizing s with
  | nil => trivial
  | cons a as ih => exact ⟨h a (by simp), fun t _ => ih fun b hb => h b (by simp [hb])⟩

/-- A condition that is always met. -/
theorem along_of_all {P : σ → α → Prop} (h : ∀ s a, P s a) : M.Along P s as := by
  induction as generalizing s with
  | nil => trivial
  | cons a as ih => exact ⟨h s a, fun t _ => ih⟩

theorem Along.and {P Q : σ → α → Prop} (hP : M.Along P s as) (hQ : M.Along Q s as) :
    M.Along (fun s a => P s a ∧ Q s a) s as := by
  induction as generalizing s with
  | nil => trivial
  | cons a as ih => exact ⟨⟨hP.1, hQ.1⟩, fun t ht => ih (hP.2 t ht) (hQ.2 t ht)⟩

/-- What every step that meets the condition keeps, a run whose steps all meet it keeps. -/
theorem along_invariant {P : σ → α → Prop} {I : σ → Prop}
    (step : ∀ {s t : σ} {a : α}, P s a → I s → M.step s a = some t → I t) (hs : I s) (hP : M.Along P s as)
    (h : M.exec s as = some t) : I t := by
  induction as generalizing s with
  | nil =>
    cases h
    exact hs
  | cons a as ih =>
    obtain ⟨u, hu, ht⟩ := exec_cons_eq_some.mp h
    exact ih (step hP.1 hs hu) (hP.2 u hu) ht

/-- A condition that every step of the run meets, seen from the end of the run. -/
theorem along_of_exec {P Q : σ → α → Prop}
    (step : ∀ {s t : σ} {a : α} {as : List α}, Q s a → M.step s a = some t → M.exec t as = some u → P s a)
    (hQ : M.Along Q s as) (h : M.exec s as = some u) : M.Along P s as := by
  induction as generalizing s with
  | nil => trivial
  | cons a as ih =>
    obtain ⟨v, hv, hu⟩ := exec_cons_eq_some.mp h
    refine (along_cons_of_some hv).mpr ⟨step hQ.1 hv hu, ih (hQ.2 v hv) hu⟩

/-- A condition that the steps meet up to each step, seen from the end of the run. -/
theorem along_of_invariant {P : σ → α → Prop} {I : σ → Prop}
    (step : ∀ {s t : σ} {a : α}, P s a → I s → M.step s a = some t → I t)
    (condition : ∀ {s t : σ} {a : α} {as : List α}, I s → M.step s a = some t → M.exec t as = some u → P s a) (hs : I s)
    (h : M.exec s as = some u) : M.Along P s as := by
  induction as generalizing s with
  | nil => trivial
  | cons a as ih =>
    obtain ⟨t, ht, hu⟩ := exec_cons_eq_some.mp h
    have hP := condition hs ht hu
    exact (along_cons_of_some ht).mpr ⟨hP, ih (step hP hs ht) hu⟩

/-! ### Runs in an environment -/

variable {ε : Type} {Env : σ → ε → α → ε → Prop} {e f g : ε}

/-- The run of `as` from `s` to `t` in an environment that goes from `e` to `f`: in the state `s` it allows the
    action `a` and goes from `e` to `f` when `Env s e a f`. -/
inductive Within (M : Machine σ α) (Env : σ → ε → α → ε → Prop) : σ → ε → List α → σ → ε → Prop where
  | nil {s : σ} {e : ε} : Within M Env s e [] s e
  | cons {s t u : σ} {e f g : ε} {a : α} {as : List α} (step : M.step s a = some t) (env : Env s e a f) (rest : Within M Env t f as u g) :
      Within M Env s e (a :: as) u g

namespace Within

theorem exec (h : M.Within Env s e as t f) : M.exec s as = some t := by
  induction h with
  | nil => rfl
  | cons step _ _ ih => exact exec_cons_eq_some.mpr ⟨_, step, ih⟩

theorem single (step : M.step s a = some t) (env : Env s e a f) : M.Within Env s e [a] t f := .cons step env .nil

theorem append (h : M.Within Env s e as t f) (h' : M.Within Env t f bs u g) : M.Within Env s e (as ++ bs) u g := by
  induction h with
  | nil => exact h'
  | cons step env _ ih => exact .cons step env (ih h')

/-- A run in an environment, seen in one that it determines. -/
theorem map {δ : Type} {Env' : σ → δ → α → δ → Prop} (view : ε → δ)
    (env : ∀ {s : σ} {e f : ε} {a : α}, Env s e a f → Env' s (view e) a (view f)) (h : M.Within Env s e as t f) :
    M.Within Env' s (view e) as t (view f) := by
  induction h with
  | nil => exact .nil
  | cons step henv _ ih => exact .cons step (env henv) ih

/-- A condition on the actions that the environment asks for is met by every action of the run. -/
theorem forall_mem {P : α → Prop} (allows : ∀ {s : σ} {e f : ε} {a : α}, Env s e a f → P a) (h : M.Within Env s e as t f) :
    ∀ a ∈ as, P a := by
  induction h with
  | nil => simp
  | cons _ env _ ih => exact List.forall_mem_cons.mpr ⟨allows env, ih⟩

/-- What every step that the environment allows keeps, the run keeps. -/
theorem invariant {I : σ → ε → Prop}
    (step : ∀ {s t : σ} {a : α} {e f : ε}, I s e → M.step s a = some t → Env s e a f → I t f) (hs : I s e)
    (h : M.Within Env s e as t f) : I t f := by
  induction h with
  | nil => exact hs
  | cons hstep env _ ih => exact ih (step hs hstep env)

/-- What every step that the environment allows and that meets the condition keeps, the run keeps. -/
theorem along_invariant {P : σ → α → Prop} {I : σ → ε → Prop}
    (step : ∀ {s t : σ} {a : α} {e f : ε}, P s a → I s e → M.step s a = some t → Env s e a f → I t f) (hs : I s e)
    (hP : M.Along P s as) (h : M.Within Env s e as t f) : I t f := by
  induction h with
  | nil => exact hs
  | cons hstep env _ ih => exact ih (step hP.1 hs hstep env) (hP.2 _ hstep)

/-- A condition that the steps meet up to each step, seen from the end of the run. -/
theorem along {P : σ → α → Prop} {I : σ → ε → Prop}
    (step : ∀ {s t : σ} {a : α} {e f : ε}, P s a → I s e → M.step s a = some t → Env s e a f → I t f)
    (condition : ∀ {s t : σ} {a : α} {as : List α} {e f : ε}, I s e → M.step s a = some t → Env s e a f →
      M.Within Env t f as u g → P s a)
    (hs : I s e) (h : M.Within Env s e as u g) : M.Along P s as := by
  induction h with
  | nil => trivial
  | cons hstep env rest ih =>
    have hP := condition hs hstep env rest
    exact (along_cons_of_some hstep).mpr ⟨hP, ih condition (step hP hs hstep env)⟩

/-- When some measure of the state can be made smaller until the goal is reached, some run reaches it. -/
theorem exists_of_measure {I : σ → ε → Prop} {goal : σ → Prop} (measure : σ → ε → Nat)
    (progress : ∀ {s : σ} {e : ε}, I s e → ¬goal s → ∃ as t f, M.Within Env s e as t f ∧ I t f ∧ measure t f < measure s e)
    (hs : I s e) : ∃ as t f, M.Within Env s e as t f ∧ I t f ∧ goal t := by
  induction hn : measure s e using Nat.strongRecOn generalizing s e with
  | ind n ih =>
    by_cases hgoal : goal s
    · exact ⟨[], s, e, .nil, hs, hgoal⟩
    · obtain ⟨as, t, f, hrun, ht, hlt⟩ := progress hs hgoal
      obtain ⟨bs, u, g, hrun', hu⟩ := ih (measure t f) (hn ▸ hlt) ht rfl
      exact ⟨as ++ bs, u, g, hrun.append hrun', hu⟩

end Within

/-- Some run leads from `s` to `t` in an environment that goes from `e` to `f`. -/
def Reaches (M : Machine σ α) (Env : σ → ε → α → ε → Prop) (s : σ) (e : ε) (t : σ) (f : ε) : Prop :=
  ∃ as, M.Within Env s e as t f

namespace Reaches

theorem refl : M.Reaches Env s e s e := ⟨[], .nil⟩

theorem head (step : M.step s a = some t) (env : Env s e a f) (h : M.Reaches Env t f u g) : M.Reaches Env s e u g := by
  obtain ⟨as, hrun⟩ := h
  exact ⟨a :: as, .cons step env hrun⟩

theorem trans (h : M.Reaches Env s e t f) (h' : M.Reaches Env t f u g) : M.Reaches Env s e u g := by
  obtain ⟨as, hrun⟩ := h
  obtain ⟨bs, hrun'⟩ := h'
  exact ⟨as ++ bs, hrun.append hrun'⟩

theorem invariant {I : σ → ε → Prop}
    (step : ∀ {s t : σ} {a : α} {e f : ε}, I s e → M.step s a = some t → Env s e a f → I t f) (hs : I s e)
    (h : M.Reaches Env s e t f) : I t f := by
  obtain ⟨as, hrun⟩ := h
  exact hrun.invariant step hs

end Reaches

/-! ### Runs without end -/

structure Run (M : Machine σ α) (s : σ) where
  state : Nat → σ
  action : Nat → α
  start : state 0 = s
  step : ∀ i, M.step (state i) (action i) = some (state (i + 1))

namespace Run
variable (run : M.Run s)

/-- Some step that meets the condition is possible in state `i`. -/
def Possible (P : σ → α → Prop) (i : Nat) : Prop := ∃ a t, P (run.state i) a ∧ M.step (run.state i) a = some t

/-- Steps that are possible from some state on are taken. -/
def WeaklyFair (P : σ → α → Prop) : Prop :=
  ∀ n, (∀ i, n ≤ i → run.Possible P i) → ∃ i, n ≤ i ∧ P (run.state i) (run.action i)

/-- Steps that are possible again and again are taken again and again. -/
def StronglyFair (P : σ → α → Prop) : Prop :=
  (∀ n, ∃ i, n ≤ i ∧ run.Possible P i) → ∀ n, ∃ i, n ≤ i ∧ P (run.state i) (run.action i)

variable {run} {P : σ → α → Prop} {n : Nat}

theorem invariant {I : σ → Prop} (step : ∀ {s t : σ} {a : α}, I s → M.step s a = some t → I t) (hs : I s) (i : Nat) :
    I (run.state i) := by
  induction i with
  | zero =>
    rw [run.start]
    exact hs
  | succ i ih => exact step ih (run.step i)

/-- What every step keeps goes on to hold. -/
theorem stays {I : σ → Prop} (step : ∀ {s t : σ} {a : α}, I s → M.step s a = some t → I t) (hn : I (run.state n)) {i : Nat}
    (hi : n ≤ i) : I (run.state i) := by
  induction hi with
  | refl => exact hn
  | step _ ih => exact step ih (run.step _)

theorem measure_le {measure : σ → Nat} (falls : ∀ i, n ≤ i → measure (run.state (i + 1)) ≤ measure (run.state i)) {i : Nat}
    (hi : n ≤ i) : measure (run.state i) ≤ measure (run.state n) := by
  induction hi with
  | refl => exact Nat.le_refl _
  | step hi ih => exact Nat.le_trans (falls _ hi) ih

/-- Steps that make smaller what no other step makes greater come to an end. -/
theorem exists_last (measure : σ → Nat) (falls : ∀ i, n ≤ i → measure (run.state (i + 1)) ≤ measure (run.state i))
    (smaller : ∀ i, n ≤ i → P (run.state i) (run.action i) → measure (run.state (i + 1)) < measure (run.state i)) :
    ∃ k, n ≤ k ∧ ∀ i, k ≤ i → ¬P (run.state i) (run.action i) := by
  induction hm : measure (run.state n) using Nat.strongRecOn generalizing n with
  | ind m ih =>
    by_cases hmore : ∃ i, n ≤ i ∧ P (run.state i) (run.action i)
    · obtain ⟨i, hi, hP⟩ := hmore
      have hlt : measure (run.state (i + 1)) < m :=
        hm ▸ Nat.lt_of_lt_of_le (smaller i hi hP) (measure_le falls hi)
      obtain ⟨k, hk, hlast⟩ := ih _ hlt (n := i + 1) (fun j hj => falls j (by omega)) (fun j hj => smaller j (by omega)) rfl
      exact ⟨k, by omega, hlast⟩
    · exact ⟨n, Nat.le_refl n, fun i hi hP => hmore ⟨i, hi, hP⟩⟩

/-- What no step makes greater stays the same from some step on. -/
theorem exists_constant (measure : σ → Nat) (falls : ∀ i, n ≤ i → measure (run.state (i + 1)) ≤ measure (run.state i)) :
    ∃ k, n ≤ k ∧ ∀ i, k ≤ i → measure (run.state i) = measure (run.state k) := by
  obtain ⟨k, hk, hlast⟩ := exists_last (P := fun s a => ∃ t, M.step s a = some t ∧ measure t < measure s) measure falls
    fun i _ ⟨t, hs, hlt⟩ => by
      obtain rfl := Option.some.inj ((run.step i).symm.trans hs)
      exact hlt
  refine ⟨k, hk, fun i hi => ?_⟩
  induction hi with
  | refl => rfl
  | @step i hi ih =>
    have hnot := fun hlt => hlast i hi ⟨_, run.step i, hlt⟩
    rw [← ih]
    exact Nat.le_antisymm (falls i (Nat.le_trans hk hi)) (Nat.le_of_not_lt hnot)

/-! A finite run goes on for ever when one action is always possible. -/

/-- The states in which the actions `as` are taken, and then the one that leads to `rest`. -/
def prolonged (M : Machine σ α) (rest : σ → σ) : σ → List α → Nat → σ
  | s, _, 0 => s
  | s, [], n + 1 => prolonged M rest (rest s) [] n
  | s, a :: as, n + 1 =>
    match M.step s a with
    | some t => prolonged M rest t as n
    | none => s

variable {rest : σ → σ} {last : α} {t : σ} {as : List α}

theorem step_prolonged (hlast : ∀ s, M.step s last = some (rest s)) (h : M.exec s as = some t) (n : Nat) :
    M.step (prolonged M rest s as n) (as.getD n last) = some (prolonged M rest s as (n + 1)) := by
  induction n generalizing s as t with
  | zero =>
    cases as with
    | nil => simp [prolonged, hlast]
    | cons a as =>
      obtain ⟨u, hu, -⟩ := exec_cons_eq_some.mp h
      simp [prolonged, hu]
  | succ n ih =>
    cases as with
    | nil => simpa [prolonged] using ih (show M.exec (rest s) [] = some (rest s) from rfl)
    | cons a as =>
      obtain ⟨u, hu, hrest⟩ := exec_cons_eq_some.mp h
      simpa [prolonged, hu] using ih hrest

def prolong (last : α) (hlast : ∀ s, M.step s last = some (rest s)) (h : M.exec s as = some t) : M.Run s where
  state := prolonged M rest s as
  action n := as.getD n last
  start := by cases as <;> rfl
  step := step_prolonged hlast h

/-- After the actions of the finite run nothing but the one action is taken. -/
theorem prolonged_length_add (h : M.exec s as = some t) (n : Nat) :
    prolonged M rest s as (as.length + n) = rest^[n] t := by
  induction as generalizing s with
  | nil =>
    cases h
    rw [List.length_nil, Nat.zero_add]
    induction n generalizing t with
    | zero => rfl
    | succ n ih => exact ih
  | cons a as ih =>
    obtain ⟨u, hu, hrest⟩ := exec_cons_eq_some.mp h
    rw [List.length_cons, Nat.succ_add, prolonged, hu]
    exact ih hrest

end Run

end Machine
