import Traceroute.Lib.Machine

/-! Scripts: programs that make calls and go on with what is answered. What a script ensures
    against a world, and machines whose threads run scripts between their own steps. -/

/-- A program that makes calls, each answered by a value of `R`, and ends with a result. -/
inductive Script (C : Type) (R : C → Type) (ρ : Type) where
  | done (r : ρ)
  | call (c : C) (next : R c → Script C R ρ)

namespace Script
variable {C : Type} {R : C → Type} {ρ τ : Type} {p : Script C R ρ} {c : C}

def bind : Script C R ρ → (ρ → Script C R τ) → Script C R τ
  | done r, f => f r
  | call c next, f => call c fun reply => (next reply).bind f

instance : Monad (Script C R) where
  pure := done
  bind := bind

/-- The script that makes one call. -/
def request (c : C) : Script C R (R c) := call c done

@[simp] theorem pure_eq (r : ρ) : (pure r : Script C R ρ) = done r := rfl

/-- The result, when every call is answered by `answers`. -/
def run (answers : (c : C) → R c) : Script C R ρ → ρ
  | done r => r
  | call c next => (next (answers c)).run answers

@[simp] theorem run_bind {answers : (c : C) → R c} (f : ρ → Script C R τ) :
    (p >>= f).run answers = (f (p.run answers)).run answers := by
  induction p with
  | done r => rfl
  | call c next ih => exact ih (answers c)

/-! ### What a script can do -/

/-- Every call that the script can make meets `P`. -/
def Makes (P : C → Prop) : Script C R ρ → Prop
  | done _ => True
  | call c next => P c ∧ ∀ reply, (next reply).Makes P

/-- Every result that the script can have meets `P`. -/
def Ends (P : ρ → Prop) : Script C R ρ → Prop
  | done r => P r
  | call _ next => ∀ reply, (next reply).Ends P

theorem makes_bind {P : C → Prop} {f : ρ → Script C R τ} (hp : p.Makes P) (hf : ∀ r, (f r).Makes P) :
    (p >>= f).Makes P := by
  induction p with
  | done r => exact hf r
  | call c next ih => exact ⟨hp.1, fun reply => ih reply (hp.2 reply)⟩

/-- In code that may throw. -/
theorem makes_run_bind {E α β : Type} {P : C → Prop} {m : ExceptT E (Script C R) α} {f : α → ExceptT E (Script C R) β}
    (hm : m.run.Makes P) (hf : ∀ a, (f a).run.Makes P) : (m >>= f).run.Makes P := by
  rw [ExceptT.run_bind]
  refine makes_bind hm fun r => ?_
  cases r with
  | ok a => exact hf a
  | error x => trivial

theorem Makes.mono {P Q : C → Prop} (h : p.Makes P) (hPQ : ∀ c, P c → Q c) : p.Makes Q := by
  induction p with
  | done r => trivial
  | call c next ih => exact ⟨hPQ c h.1, fun reply => ih reply (h.2 reply)⟩

theorem Ends.mono {P Q : ρ → Prop} (h : p.Ends P) (hPQ : ∀ r, P r → Q r) : p.Ends Q := by
  induction p with
  | done r => exact hPQ r h
  | call c next ih => exact fun reply => ih reply (h reply)

theorem Ends.and {P Q : ρ → Prop} (hP : p.Ends P) (hQ : p.Ends Q) : p.Ends fun r => P r ∧ Q r := by
  induction p with
  | done r => exact ⟨hP, hQ⟩
  | call c next ih => exact fun reply => ih reply (hP reply) (hQ reply)

theorem ends_of_forall {P : ρ → Prop} (h : ∀ r, P r) : p.Ends P := by
  induction p with
  | done r => exact h r
  | call c next ih => exact fun reply => ih reply

theorem ends_bind {P : τ → Prop} {f : ρ → Script C R τ} (hf : ∀ r, (f r).Ends P) : (p >>= f).Ends P := by
  induction p with
  | done r => exact hf r
  | call c next ih => exact fun reply => ih reply

variable {ε : Type} {Eff : ε → (c : C) → R c → ε → Prop} {J J' : ε → Prop} {Q Q' : ρ → ε → Prop} {e f : ε}

/-- `Eff e c reply f`: the world may answer the call `c` by `reply` and go from `e` to `f`. In every run of the script
    from `e` the world meets `J` all along, and `Q` at the end. -/
def Ensures (Eff : ε → (c : C) → R c → ε → Prop) (J : ε → Prop) (Q : ρ → ε → Prop) : Script C R ρ → ε → Prop
  | done r, e => J e ∧ Q r e
  | call c next, e => J e ∧ ∀ reply f, Eff e c reply f → (next reply).Ensures Eff J Q f

theorem Ensures.now (h : p.Ensures Eff J Q e) : J e := by
  cases p with
  | done r => exact h.1
  | call c next => exact h.1

theorem ensures_done {r : ρ} (hJ : J e) (hQ : Q r e) : (done r : Script C R ρ).Ensures Eff J Q e := ⟨hJ, hQ⟩

theorem Ensures.mono_now (hJ : ∀ e, J e → J' e) (hQ : ∀ r e, J e → Q r e → Q' r e) (h : p.Ensures Eff J Q e) :
    p.Ensures Eff J' Q' e := by
  induction p generalizing e with
  | done r => exact ⟨hJ e h.1, hQ r e h.1 h.2⟩
  | call c next ih => exact ⟨hJ e h.1, fun reply f hf => ih reply (h.2 reply f hf)⟩

theorem Ensures.mono (hJ : ∀ e, J e → J' e) (hQ : ∀ r e, Q r e → Q' r e) (h : p.Ensures Eff J Q e) :
    p.Ensures Eff J' Q' e :=
  h.mono_now hJ fun r e _ => hQ r e

theorem ensures_bind {f : ρ → Script C R τ} {Q : τ → ε → Prop}
    (h : p.Ensures Eff J (fun r e => (f r).Ensures Eff J Q e) e) : (p >>= f).Ensures Eff J Q e := by
  induction p generalizing e with
  | done r => exact h.2
  | call c next ih => exact ⟨h.1, fun reply g hg => ih reply (h.2 reply g hg)⟩

/-- In code that may throw, what follows goes on from a value, and from an exception nothing does. -/
theorem ensures_run_bind {E α β : Type} {m : ExceptT E (Script C R) α} {f : α → ExceptT E (Script C R) β}
    {Q : Except E β → ε → Prop} {S : Except E α → ε → Prop} (h : m.run.Ensures Eff J S e)
    (value : ∀ a e, J e → S (.ok a) e → (f a).run.Ensures Eff J Q e)
    (thrown : ∀ x e, S (.error x) e → Q (.error x) e) : (m >>= f).run.Ensures Eff J Q e := by
  rw [ExceptT.run_bind]
  refine ensures_bind (h.mono_now (fun _ => id) fun r e hJ hS => ?_)
  cases r with
  | ok a => exact value a e hJ hS
  | error x => exact ensures_done hJ (thrown x e hS)

/-- Calls that leave the world as it is keep what it meets. -/
theorem ensures_of_makes {P : C → Prop} (quiet : ∀ {e f : ε} {c : C} {reply : R c}, P c → Eff e c reply f → f = e)
    (hp : p.Makes P) {S : ρ → Prop} (hS : p.Ends S) (hJ : J e) : p.Ensures Eff J (fun r f => S r ∧ f = e) e := by
  induction p with
  | done r => exact ⟨hJ, hS, rfl⟩
  | call c next ih =>
    refine ⟨hJ, fun reply f hf => ?_⟩
    obtain rfl := quiet hp.1 hf
    exact ih reply (hp.2 reply) (hS reply)

end Script

/-! ### Threads that run scripts -/

/-- A machine some of whose actions are what a thread's script has ended with: in the state `s` the thread `t` stands at
    a call when `script s t` is a script. -/
structure Threaded (σ α τ C : Type) (R : C → Type) where
  machine : Machine σ α
  script : σ → τ → Option (Script C R α)
  /-- The thread whose call returns in the action. -/
  returnsTo : α → Option τ
  ends : ∀ {s : σ} {t : τ} {p : Script C R α}, script s t = some p → p.Ends (returnsTo · = some t)

namespace Threaded
variable {σ α τ C : Type} {R : C → Type}

/-- A state of the machine, and what is left of the script of each thread that is in a call. -/
structure State (σ α τ C : Type) (R : C → Type) where
  base : σ
  running : τ → Option (Script C R α)

/-- No thread is in a call. -/
def State.idle (s : σ) : State σ α τ C R := ⟨s, fun _ => none⟩

/-- A step of the machine that is no return; a thread enters its call; its script's next call is answered; it returns. -/
inductive Action (α τ C : Type) (R : C → Type) where
  | own (a : α)
  | start (t : τ)
  | answer (t : τ) (reply : (c : C) → R c)
  | finish (t : τ)

variable [DecidableEq τ]

def State.set (s : State σ α τ C R) (t : τ) (p : Option (Script C R α)) : State σ α τ C R :=
  { s with running := fun t' => if t' = t then p else s.running t' }

def step (T : Threaded σ α τ C R) (s : State σ α τ C R) : Action α τ C R → Option (State σ α τ C R)
  | .own a =>
    match T.returnsTo a with
    | none => (T.machine.step s.base a).map fun base => { s with base }
    | some _ => none
  | .start t =>
    match s.running t, T.script s.base t with
    | none, some p => some (s.set t (some p))
    | _, _ => none
  | .answer t reply =>
    match s.running t with
    | some (.call c next) => some (s.set t (some (next (reply c))))
    | _ => none
  | .finish t =>
    match s.running t with
    | some (.done a) => (T.machine.step s.base a).map fun base => { s.set t none with base }
    | _ => none

/-- The machine and its threads, as a machine. -/
def composed (T : Threaded σ α τ C R) : Machine (State σ α τ C R) (Action α τ C R) := ⟨T.step⟩

/-- The world changes when a call is answered. -/
inductive Env {ε : Type} (Eff : ε → (c : C) → R c → ε → Prop) (s : State σ α τ C R) (e : ε) : Action α τ C R → ε → Prop where
  | own {a : α} : Env Eff s e (.own a) e
  | start {t : τ} : Env Eff s e (.start t) e
  | answer {t : τ} {c : C} {next : R c → Script C R α} {reply : (c : C) → R c} {f : ε} (calls : s.running t = some (.call c next))
      (effect : Eff e c (reply c) f) : Env Eff s e (.answer t reply) f
  | finish {t : τ} : Env Eff s e (.finish t) e

/-- Two worlds side by side, both of which may give the answer. -/
inductive Both {ε δ : Type} (Eff : ε → (c : C) → R c → ε → Prop) (Eff' : δ → (c : C) → R c → δ → Prop) :
    ε × δ → (c : C) → R c → ε × δ → Prop where
  | both {e f : ε} {e' f' : δ} {c : C} {reply : R c} (left : Eff e c reply f) (right : Eff' e' c reply f') :
      Both Eff Eff' (e, e') c reply (f, f')

omit [DecidableEq τ] in
theorem Env.map {ε δ : Type} {Eff : ε → (c : C) → R c → ε → Prop} {Eff' : δ → (c : C) → R c → δ → Prop} (view : ε → δ)
    (h : ∀ {e f : ε} {c : C} {reply : R c}, Eff e c reply f → Eff' (view e) c reply (view f)) {s : State σ α τ C R} {e f : ε}
    {a : Action α τ C R} (henv : Env Eff s e a f) : Env Eff' s (view e) a (view f) := by
  cases henv with
  | own => exact .own
  | start => exact .start
  | answer calls effect => exact .answer calls (h effect)
  | finish => exact .finish

variable {T : Threaded σ α τ C R} {s s' : State σ α τ C R} {as : List (Action α τ C R)} {a : Action α τ C R}

section
variable {ε δ : Type} {Eff : ε → (c : C) → R c → ε → Prop} {Eff' : δ → (c : C) → R c → δ → Prop} {e f : ε × δ}

/-- A run in both worlds is one in each of them. -/
theorem within_left (h : T.composed.Within (Env (Both Eff Eff')) s e as s' f) : T.composed.Within (Env Eff) s e.1 as s' f.1 :=
  h.map Prod.fst fun henv => henv.map Prod.fst fun ⟨left, _⟩ => left

theorem within_right (h : T.composed.Within (Env (Both Eff Eff')) s e as s' f) : T.composed.Within (Env Eff') s e.2 as s' f.2 :=
  h.map Prod.snd fun henv => henv.map Prod.snd fun ⟨_, right⟩ => right

end

@[simp] theorem set_base {t : τ} {p : Option (Script C R α)} : (s.set t p).base = s.base := rfl

@[simp] theorem set_running_self {t : τ} {p : Option (Script C R α)} : (s.set t p).running t = p := by
  simp [State.set]

theorem set_running_of_ne {t t' : τ} {p : Option (Script C R α)} (h : t' ≠ t) : (s.set t p).running t' = s.running t' := by
  simp [State.set, h]

/-- What a step is. -/
inductive Step (T : Threaded σ α τ C R) (s : State σ α τ C R) : Action α τ C R → State σ α τ C R → Prop where
  | own {a : α} {base : σ} (stays : T.returnsTo a = none) (step : T.machine.step s.base a = some base) :
      Step T s (.own a) { s with base }
  | start {t : τ} {p : Script C R α} (free : s.running t = none) (script : T.script s.base t = some p) :
      Step T s (.start t) (s.set t (some p))
  | answer {t : τ} {reply : (c : C) → R c} {c : C} {next : R c → Script C R α} (calls : s.running t = some (.call c next)) :
      Step T s (.answer t reply) (s.set t (some (next (reply c))))
  | finish {t : τ} {a : α} {base : σ} (ended : s.running t = some (.done a)) (step : T.machine.step s.base a = some base) :
      Step T s (.finish t) { s.set t none with base }

theorem step_of_composed (h : T.composed.step s a = some s') : T.Step s a s' := by
  cases a with
  | own a =>
    simp only [composed, step] at h
    split at h
    · next hstays =>
      obtain ⟨base, hbase, rfl⟩ := Option.map_eq_some_iff.mp h
      exact .own hstays hbase
    · cases h
  | start t =>
    simp only [composed, step] at h
    split at h
    · next hfree hscript =>
      cases h
      exact .start hfree hscript
    · cases h
  | answer t reply =>
    simp only [composed, step] at h
    split at h
    · next hcalls =>
      cases h
      exact .answer hcalls
    · cases h
  | finish t =>
    simp only [composed, step] at h
    split at h
    · next hended =>
      obtain ⟨base, hbase, rfl⟩ := Option.map_eq_some_iff.mp h
      exact .finish hended hbase
    · cases h

/-- A step of the threads is a step of the machine, or none. -/
theorem step_refines (h : T.composed.step s a = some s') : s'.base = s.base ∨ ∃ b, T.machine.step s.base b = some s'.base := by
  cases step_of_composed h with
  | own stays step => exact Or.inr ⟨_, step⟩
  | start free script => exact Or.inl rfl
  | answer calls => exact Or.inl rfl
  | finish ended step => exact Or.inr ⟨_, step⟩

/-- A run of the threads is a run of the machine. -/
theorem exec_refines (h : T.composed.exec s as = some s') : ∃ bs, T.machine.exec s.base bs = some s'.base := by
  refine Machine.exec_relation (R := fun s s' : State σ α τ C R => ∃ bs, T.machine.exec s.base bs = some s'.base)
    (fun s => ⟨[], rfl⟩) ?_ ?_ h
  · rintro s t u ⟨bs, hbs⟩ ⟨bs', hbs'⟩
    exact ⟨bs ++ bs', Machine.exec_append hbs hbs'⟩
  · intro s t a hstep
    rcases step_refines hstep with hsame | ⟨b, hb⟩
    · exact ⟨[], by rw [hsame, Machine.exec_nil]⟩
    · exact ⟨[b], by rw [Machine.exec_singleton, hb]⟩

/-- `P` is what is known of the actions of the machine: a script of a thread ends with an action that meets it, and what
    the others do meanwhile does not change that. -/
structure Known (T : Threaded σ α τ C R) (P : σ → α → Prop) : Prop where
  own : ∀ {s : σ} {a : α}, T.returnsTo a = none → P s a
  call : ∀ {s : σ} {t : τ} {p : Script C R α}, T.script s t = some p → p.Ends (P s)
  keeps : ∀ {s s' : σ} {a : α} {t : τ}, T.script s t ≠ none → T.machine.step s a = some s' → T.returnsTo a ≠ some t →
    T.script s' t ≠ none ∧ ∀ b, T.returnsTo b = some t → P s b → P s' b

/-- What is known of what the threads are running. -/
def Returning (T : Threaded σ α τ C R) (P : σ → α → Prop) (s : State σ α τ C R) : Prop :=
  ∀ t p, s.running t = some p → T.script s.base t ≠ none ∧ p.Ends fun b => T.returnsTo b = some t ∧ P s.base b

omit [DecidableEq τ] in
theorem Returning.other {P : σ → α → Prop} (hP : T.Known P) (h : T.Returning P s) {a : α} {base : σ}
    (hstep : T.machine.step s.base a = some base) {t : τ} {p : Script C R α} (hp : s.running t = some p)
    (hother : T.returnsTo a ≠ some t) : T.script base t ≠ none ∧ p.Ends fun b => T.returnsTo b = some t ∧ P base b := by
  obtain ⟨hcall, hends⟩ := h t p hp
  obtain ⟨hcall', hkeeps⟩ := hP.keeps hcall hstep hother
  exact ⟨hcall', hends.mono fun b hb => ⟨hb.1, hkeeps b hb.1 hb.2⟩⟩

theorem Returning.step {P : σ → α → Prop} (hP : T.Known P) (h : T.Returning P s) (hstep : T.composed.step s a = some s') :
    T.Returning P s' ∧ (s'.base = s.base ∨ ∃ b, P s.base b ∧ T.machine.step s.base b = some s'.base) := by
  cases step_of_composed hstep with
  | @own a base stays step =>
    exact ⟨fun t p hp => h.other hP step hp (by simp [stays]), Or.inr ⟨a, hP.own stays, step⟩⟩
  | @start t p free script =>
    refine ⟨fun t' p' hp' => ?_, Or.inl rfl⟩
    by_cases ht : t' = t
    · subst ht
      rw [set_running_self] at hp'
      cases hp'
      refine ⟨by simp [script], ((T.ends script).and (hP.call script))⟩
    · rw [set_running_of_ne ht] at hp'
      exact h t' p' hp'
  | @answer t reply c next calls =>
    refine ⟨fun t' p' hp' => ?_, Or.inl rfl⟩
    by_cases ht : t' = t
    · subst ht
      rw [set_running_self] at hp'
      cases hp'
      exact ⟨(h t' _ calls).1, (h t' _ calls).2 _⟩
    · rw [set_running_of_ne ht] at hp'
      exact h t' p' hp'
  | @finish t a base ended step =>
    obtain ⟨hreturns, hPa⟩ := (h t _ ended).2
    refine ⟨fun t' p' hp' => ?_, Or.inr ⟨a, hPa, step⟩⟩
    have ht : t' ≠ t := by
      rintro rfl
      rw [show ({ s.set t' none with base } : State σ α τ C R).running t' = none from set_running_self] at hp'
      cases hp'
    rw [show ({ s.set t none with base } : State σ α τ C R).running t' = s.running t' from set_running_of_ne ht] at hp'
    exact h.other hP step hp' (by rw [hreturns]; exact fun heq => ht (Option.some.inj heq).symm)

/-- A run of the threads is a run of the machine of which all that is known holds. -/
theorem exec_refines_along {P : σ → α → Prop} (hP : T.Known P) (hs : T.Returning P s) (h : T.composed.exec s as = some s') :
    ∃ bs, T.machine.exec s.base bs = some s'.base ∧ T.machine.Along P s.base bs := by
  induction as generalizing s with
  | nil =>
    cases h
    exact ⟨[], rfl, trivial⟩
  | cons a as ih =>
    obtain ⟨u, hu, hs'⟩ := Machine.exec_cons_eq_some.mp h
    obtain ⟨hreturning, hbase⟩ := hs.step hP hu
    obtain ⟨bs, hexec, halong⟩ := ih hreturning hs'
    rcases hbase with hsame | ⟨b, hb, hstep⟩
    · exact ⟨bs, hsame ▸ hexec, hsame ▸ halong⟩
    · exact ⟨b :: bs, Machine.exec_cons_eq_some.mpr ⟨_, hstep, hexec⟩, (Machine.along_cons_of_some hstep).mpr ⟨hb, halong⟩⟩

/-! ### One thread that changes the world -/

variable {κ ε : Type}

/-- The thread `t₀` is the only one whose calls change the world, and `view` is what it has to do with of the machine's
    state. `I` holds between its calls, and `J` in them. -/
structure Guarantee (T : Threaded σ α τ C R) (Eff : ε → (c : C) → R c → ε → Prop) (t₀ : τ) (view : σ → κ)
    (I J : κ → ε → Prop) : Prop where
  /-- The calls of the other threads leave the world as it is. -/
  quiet : ∀ {s : σ} {t : τ} {p : Script C R α}, t ≠ t₀ → T.script s t = some p →
    p.Makes fun c => ∀ e reply f, Eff e c reply f → f = e
  /-- What the other threads return is nothing to the view. -/
  others : ∀ {s s' : σ} {a : α} {t : τ}, T.returnsTo a = some t → t ≠ t₀ → T.machine.step s a = some s' → view s' = view s
  /-- The machine's own steps either leave the view, or take place outside of the thread's calls and keep `I`. -/
  own : ∀ {s s' : σ} {a : α}, T.returnsTo a = none → T.machine.step s a = some s' →
    view s' = view s ∨ T.script s t₀ = none ∧ ∀ e, I (view s) e → I (view s') e
  /-- Whether the thread stands at a call is seen in the view. -/
  visible : ∀ {s s' : σ}, view s' = view s → T.script s' t₀ = none → T.script s t₀ = none
  call : ∀ {s : σ} {p : Script C R α} {e : ε}, T.script s t₀ = some p → I (view s) e →
    p.Ensures Eff (J (view s)) (fun a f => ∀ s' s'', view s' = view s → T.machine.step s' a = some s'' → I (view s'') f) e

/-- What holds of the threads and the world in every state of a run. -/
structure Guaranteed (T : Threaded σ α τ C R) (Eff : ε → (c : C) → R c → ε → Prop) (t₀ : τ) (view : σ → κ)
    (I J : κ → ε → Prop) (s : State σ α τ C R) (e : ε) : Prop where
  between : s.running t₀ = none → I (view s.base) e
  within : ∀ p, s.running t₀ = some p → T.script s.base t₀ ≠ none ∧ p.Ensures Eff (J (view s.base))
    (fun a f => ∀ s' s'', view s' = view s.base → T.machine.step s' a = some s'' → I (view s'') f) e
  quiet : ∀ t p, t ≠ t₀ → s.running t = some p →
    p.Makes (fun c => ∀ e reply f, Eff e c reply f → f = e) ∧ p.Ends (T.returnsTo · = some t)

variable {Eff : ε → (c : C) → R c → ε → Prop} {t₀ : τ} {view : σ → κ} {I J : κ → ε → Prop} {e f : ε}

omit [DecidableEq τ] in
/-- A step that changes neither the world nor what `t₀` sees and runs keeps what holds. -/
theorem Guaranteed.of_view (G : T.Guarantee Eff t₀ view I J) (h : T.Guaranteed Eff t₀ view I J s e)
    (hview : view s'.base = view s.base) (hrunning : s'.running t₀ = s.running t₀)
    (quiet : ∀ t p, t ≠ t₀ → s'.running t = some p →
      p.Makes (fun c => ∀ e reply f, Eff e c reply f → f = e) ∧ p.Ends (T.returnsTo · = some t)) :
    T.Guaranteed Eff t₀ view I J s' e := by
  refine ⟨fun hnone => ?_, fun p hp => ?_, quiet⟩
  · rw [hview]
    exact h.between (hrunning ▸ hnone)
  · obtain ⟨hcall, hensures⟩ := h.within p (hrunning ▸ hp)
    rw [hview]
    exact ⟨fun hnone => hcall (G.visible hview hnone), hensures⟩

/-- What the other threads run is quiet, also after one of them has gone on. -/
theorem Guaranteed.quiet_set {t : τ} {q : Option (Script C R α)} (h : T.Guaranteed Eff t₀ view I J s e)
    (hq : ∀ p, t ≠ t₀ → q = some p → p.Makes (fun c => ∀ e reply f, Eff e c reply f → f = e) ∧ p.Ends (T.returnsTo · = some t)) :
    ∀ t' p, t' ≠ t₀ → (s.set t q).running t' = some p →
      p.Makes (fun c => ∀ e reply f, Eff e c reply f → f = e) ∧ p.Ends (T.returnsTo · = some t') := by
  intro t' p ht' hp
  by_cases heq : t' = t
  · subst heq
    rw [set_running_self] at hp
    exact hq p ht' hp
  · rw [set_running_of_ne heq] at hp
    exact h.quiet t' p ht' hp

theorem Guaranteed.step (G : T.Guarantee Eff t₀ view I J) (h : T.Guaranteed Eff t₀ view I J s e)
    (hstep : T.composed.step s a = some s') (henv : Env Eff s e a f) : T.Guaranteed Eff t₀ view I J s' f := by
  cases step_of_composed hstep with
  | own stays step =>
    cases henv
    rcases G.own stays step with hview | ⟨hnone, hkeeps⟩
    · exact h.of_view G hview rfl h.quiet
    · have hidle : s.running t₀ = none := by
        cases hrun : s.running t₀ with
        | none => rfl
        | some p => exact absurd hnone (h.within p hrun).1
      refine ⟨fun _ => hkeeps e (h.between hidle), fun p hp => ?_, h.quiet⟩
      rw [hidle] at hp
      cases hp
  | @start t p free script =>
    cases henv
    have hquiet := h.quiet_set (t := t) (q := some p) fun p' ht hp' => by
      cases hp'
      exact ⟨G.quiet ht script, T.ends script⟩
    by_cases ht : t = t₀
    · subst ht
      refine ⟨fun hnone => ?_, fun p' hp' => ?_, hquiet⟩
      · rw [set_running_self] at hnone
        cases hnone
      · rw [set_running_self] at hp'
        cases hp'
        exact ⟨fun hnone => by simp [script] at hnone, G.call script (h.between free)⟩
    · exact h.of_view G rfl (set_running_of_ne (Ne.symm ht)) hquiet
  | @answer t reply c next calls =>
    cases henv with
    | answer calls' effect =>
    rw [calls] at calls'
    cases calls'
    have hquiet := h.quiet_set (t := t) (q := some (next (reply c))) fun p' ht hp' => by
      cases hp'
      obtain ⟨hmakes, hends⟩ := h.quiet t _ ht calls
      exact ⟨hmakes.2 _, hends _⟩
    by_cases ht : t = t₀
    · subst ht
      obtain ⟨hcall, hensures⟩ := h.within _ calls
      refine ⟨fun hnone => ?_, fun p' hp' => ?_, hquiet⟩
      · rw [set_running_self] at hnone
        cases hnone
      · rw [set_running_self] at hp'
        cases hp'
        exact ⟨hcall, hensures.2 _ _ effect⟩
    · obtain rfl := (h.quiet t _ ht calls).1.1 _ _ _ effect
      exact h.of_view G rfl (set_running_of_ne (Ne.symm ht)) hquiet
  | @finish t a base ended step =>
    cases henv
    have hquiet := h.quiet_set (t := t) (q := none) fun p' _ hp' => by cases hp'
    by_cases ht : t = t₀
    · subst ht
      obtain ⟨hcall, hensures⟩ := h.within _ ended
      refine ⟨fun _ => hensures.2 _ _ rfl step, fun p' hp' => ?_, hquiet⟩
      rw [show ({ s.set t none with base } : State σ α τ C R).running t = none from set_running_self] at hp'
      cases hp'
    · exact h.of_view G (G.others (h.quiet t _ ht ended).2 ht step) (set_running_of_ne (Ne.symm ht)) hquiet

/-- In every state of a run from an idle one, the world is as it is between the calls of `t₀`, or in them. -/
theorem Guarantee.run (G : T.Guarantee Eff t₀ view I J) {s₀ : σ} (hI : I (view s₀) e)
    (h : T.composed.Within (Env Eff) (.idle s₀) e as s f) :
    I (view s.base) f ∨ J (view s.base) f := by
  have hstart : T.Guaranteed Eff t₀ view I J (.idle s₀) e :=
    ⟨fun _ => hI, fun p hp => (by cases hp), fun t p _ hp => (by cases hp)⟩
  have hend : T.Guaranteed Eff t₀ view I J s f :=
    h.invariant (fun hs hstep henv => hs.step G hstep henv) hstart
  cases hrun : s.running t₀ with
  | none => exact Or.inl (hend.between hrun)
  | some p => exact Or.inr (hend.within p hrun).2.now

end Threaded
