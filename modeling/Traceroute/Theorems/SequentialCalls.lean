import Traceroute.Theorems.SequentialSteps
import Traceroute.Theorems.Time

/-! The loop in which `SequentialTraceroute` waits for the response to one probe, for every sequence of what its
    `tryReceiving` calls return and of the time that they take. -/

namespace Traceroute.Sequential

/-- A `tryReceiving` call: the nanoseconds that it takes, and what it yields. A response comes with its verdict. -/
structure Wait where
  took : Nat
  response : Option (ResponseInfo × Bool)
  buffer : Bytes

/-- The response is valid. -/
def Wait.valid (w : Wait) : Bool :=
  match w.response with
  | some (_, verdict) => verdict
  | none => false

/-- What the loop does for a call. -/
def Wait.actions (w : Wait) : List Action :=
  match w.response with
  | none => [.testLoop, .tick w.took, .tryReceivingReturns (.ok none) w.buffer]
  | some (respInfo, verdict) =>
    [.testLoop, .tick w.took, .tryReceivingReturns (.ok (some respInfo)) w.buffer, .isValid (.ok verdict)]

/-- What the loop does for the first `n` calls. -/
def rounds (waits : Nat → Wait) (n : Nat) : List Action := (List.range n).flatMap fun j => (waits j).actions

/-- The nanoseconds that the first `n` calls take. -/
def passed (waits : Nat → Wait) (n : Nat) : Nat := ((List.range n).map fun j => (waits j).took).sum

/-- The microseconds that are left behind the first `n` calls of a loop that begins at `start`. -/
def leftAfter (timeout sentAt start : Int) (waits : Nat → Wait) (n : Nat) : Int :=
  getTimeLeft (start + passed waits n) sentAt timeout

/-- The loop makes call `n`: no call before it has yielded a valid response, and enough time is left. -/
structure Makes (timeout sentAt start : Int) (waits : Nat → Wait) (n : Nat) : Prop where
  waiting : ∀ j < n, (waits j).valid = false
  inTime : MinTimeWaitForResponse ≤ leftAfter timeout sentAt start waits n

variable {destination : Nat → SocketAddress} {c : Call} {s t : State} {a : Attempt} {timeout sentAt start : Int}
  {waits : Nat → Wait} {results : List ProbeResult} {n j : Nat}

/-! ### Time -/

theorem passed_succ : passed waits (n + 1) = passed waits n + (waits n).took := by
  simp [passed, List.range_succ]

theorem passed_mono (h : n ≤ j) : passed waits n ≤ passed waits j := by
  induction j, h using Nat.le_induction with
  | base => exact Nat.le_refl _
  | succ j hj ih =>
    rw [passed_succ]
    exact Nat.le_add_right_of_le ih

theorem leftAfter_congr (h : passed waits j = passed waits n) :
    leftAfter timeout sentAt start waits j = leftAfter timeout sentAt start waits n := by
  rw [leftAfter, leftAfter, h]

theorem leftAfter_zero : leftAfter timeout sentAt start waits 0 = getTimeLeft start sentAt timeout := by
  simp [leftAfter, passed]

theorem le_leftAfter_iff (hsent : sentAt ≤ start) :
    MinTimeWaitForResponse ≤ leftAfter timeout sentAt start waits n ↔
      start + passed waits n < sentAt + (timeout - 9) * 1000 :=
  le_getTimeLeft_iff (by omega)

theorem Makes.mono (hsent : sentAt ≤ start) (h : Makes timeout sentAt start waits j) (hn : n ≤ j) :
    Makes timeout sentAt start waits n := by
  have hpassed : passed waits n ≤ passed waits j := passed_mono hn
  have hinTime := h.inTime
  refine ⟨fun i hi => h.waiting i (Nat.lt_of_lt_of_le hi hn), ?_⟩
  rw [le_leftAfter_iff hsent] at hinTime ⊢
  omega

/-! ### The loop behind its calls -/

/-- The last of the first `n` calls has yielded a valid response. -/
def lastValid (waits : Nat → Wait) : Nat → Bool
  | 0 => false
  | n + 1 => (waits n).valid

/-- The response of the last of the first `n` calls. -/
def lastInfo (waits : Nat → Wait) : Nat → Option ResponseInfo
  | 0 => none
  | n + 1 => (waits n).response.map (·.1)

/-- The loop stands behind its first `n` calls, of which only the last can have yielded a valid response. -/
structure Called (waits : Nat → Wait) (a : Attempt) (start : Int) (results : List ProbeResult) (n : Nat) (s : State) :
    Prop where
  position : s.position = .waiting a (lastValid waits n) (lastInfo waits n)
  now : s.now = start + passed waits n
  results : s.probeResults = results
  earlier : ∀ j, j + 1 < n → (waits j).valid = false

theorem Called.zero (pc : s.position = .waiting a false none) : Called waits a s.now s.probeResults 0 s :=
  ⟨pc, by simp [passed], rfl, fun j hj => absurd hj (Nat.not_lt_zero _)⟩

theorem Called.lastValid_iff (h : Called waits a start results n s) :
    lastValid waits n = false ↔ ∀ j < n, (waits j).valid = false := by
  cases n with
  | zero => simp [lastValid]
  | succ n =>
    refine ⟨fun hlast j hj => ?_, fun hall => hall n (Nat.lt_succ_self n)⟩
    rcases Nat.lt_succ_iff_lt_or_eq.mp hj with hj | rfl
    · exact h.earlier j (Nat.succ_lt_succ hj)
    · exact hlast

/-- The test of the loop, behind its first `n` calls. -/
theorem Called.testLoop (destination : Nat → SocketAddress) (c : Call) (h : Called waits a start results n s) :
    (Makes c.timeout a.sentAt start waits n ∧ (machine destination c).step s .testLoop =
      some { s with position := .receiving a (leftAfter c.timeout a.sentAt start waits n) s.now }) ∨
    ¬Makes c.timeout a.sentAt start waits n ∧ (machine destination c).step s .testLoop =
      some { s with position := .waited a (lastValid waits n) (lastInfo waits n) } := by
  have hleft : getTimeLeft s.now a.sentAt c.timeout = leftAfter c.timeout a.sentAt start waits n := by
    rw [h.now, leftAfter]
  by_cases hmakes : Makes c.timeout a.sentAt start waits n
  · refine Or.inl ⟨hmakes, ?_⟩
    simp only [machine, step, h.position, h.lastValid_iff.mpr hmakes.waiting, hleft, Bool.false_or, decide_eq_true_eq,
      if_neg (Int.not_lt.mpr hmakes.inTime)]
  · have hstops : (lastValid waits n || decide (leftAfter c.timeout a.sentAt start waits n < MinTimeWaitForResponse)) = true := by
      cases hvalid : lastValid waits n with
      | true => rfl
      | false => simpa using Int.not_le.mp fun hle => hmakes ⟨h.lastValid_iff.mp hvalid, hle⟩
    exact Or.inr ⟨hmakes, by simp only [machine, step, h.position, hleft, hstops, if_true]⟩

theorem Called.round (destination : Nat → SocketAddress) (h : Called waits a start results n s)
    (hmakes : Makes c.timeout a.sentAt start waits n) :
    ∃ t, (machine destination c).exec s (waits n).actions = some t ∧ Called waits a start results (n + 1) t := by
  obtain ⟨-, htest⟩ := (h.testLoop destination c).resolve_right fun hno => hno.1 hmakes
  have hnow : s.now + (waits n).took = start + passed waits (n + 1) := by
    rw [h.now, passed_succ]
    omega
  have hearlier : ∀ j, j + 1 < n + 1 → (waits j).valid = false := fun j hj => hmakes.waiting j (Nat.lt_of_succ_lt_succ hj)
  unfold Wait.actions
  split
  · rename_i hresponse
    exact ⟨_, Machine.exec_cons_eq_some.mpr ⟨_, htest, rfl⟩, by simp [lastValid, lastInfo, Wait.valid, hresponse], hnow,
      h.results, hearlier⟩
  · rename_i respInfo verdict hresponse
    exact ⟨_, Machine.exec_cons_eq_some.mpr ⟨_, htest, rfl⟩, by simp [lastValid, lastInfo, Wait.valid, hresponse], hnow,
      h.results, hearlier⟩

/-- A call whose actions can be taken is made. -/
theorem Called.makes (h : Called waits a start results n s)
    (hexec : (machine destination c).exec s (waits n).actions = some t) : Makes c.timeout a.sentAt start waits n := by
  by_contra hno
  obtain ⟨-, htest⟩ := (h.testLoop destination c).resolve_left fun hmakes => hno hmakes.1
  unfold Wait.actions at hexec
  -- The loop is left, and there `tryReceiving` does not return.
  split at hexec
  all_goals
    obtain ⟨u, hu, hexec⟩ := Machine.exec_cons_eq_some.mp hexec
    obtain rfl := Option.some.inj (htest.symm.trans hu)
    cases hexec

theorem Called.exec_rounds (destination : Nat → SocketAddress) (h : Called waits a start results 0 s)
    (hmakes : ∀ j < n, Makes c.timeout a.sentAt start waits j) :
    ∃ t, (machine destination c).exec s (rounds waits n) = some t ∧ Called waits a start results n t := by
  induction n with
  | zero => exact ⟨s, rfl, h⟩
  | succ n ih =>
    obtain ⟨t, ht, hcalled⟩ := ih fun j hj => hmakes j (Nat.lt_succ_of_lt hj)
    obtain ⟨u, hu, hcalled'⟩ := hcalled.round destination (hmakes n (Nat.lt_succ_self n))
    refine ⟨u, ?_, hcalled'⟩
    rw [rounds, List.range_succ, List.flatMap_append, List.flatMap_singleton]
    exact Machine.exec_append ht hu

/-- The loop makes a call only without a valid response and with ten microseconds left. -/
theorem Called.of_exec_rounds (h : Called waits a start results 0 s)
    (hexec : (machine destination c).exec s (rounds waits n) = some t) :
    (∀ j < n, Makes c.timeout a.sentAt start waits j) ∧ Called waits a start results n t := by
  induction n generalizing t with
  | zero =>
    obtain rfl := Option.some.inj hexec
    exact ⟨fun j hj => absurd hj (Nat.not_lt_zero j), h⟩
  | succ n ih =>
    rw [rounds, List.range_succ, List.flatMap_append, List.flatMap_singleton] at hexec
    obtain ⟨u, hu, ht⟩ := Machine.exec_append_eq_some.mp hexec
    obtain ⟨hmakes, hcalled⟩ := ih hu
    have hmakes' := hcalled.makes ht
    obtain ⟨t', ht', hcalled'⟩ := hcalled.round destination hmakes'
    obtain rfl := Option.some.inj (ht'.symm.trans ht)
    refine ⟨fun j hj => ?_, hcalled'⟩
    rcases Nat.lt_succ_iff_lt_or_eq.mp hj with hj | rfl
    · exact hmakes j hj
    · exact hmakes'

end Traceroute.Sequential
