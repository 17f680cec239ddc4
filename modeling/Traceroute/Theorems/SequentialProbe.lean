import Traceroute.Theorems.SequentialCalls

/-! The outcome of one probe of `SequentialTraceroute`, for every sequence of what its `tryReceiving` calls return. -/

namespace Traceroute.Sequential

variable {destination : Nat → SocketAddress} {c : Call} {s t : State} {timeout sentAt : Int} {calls : Nat → Wait}
  {respInfo : ResponseInfo} {results : List ProbeResult} {n k j : Nat}

/-- The whole microseconds that the first `j` calls take. -/
def elapsed (calls : Nat → Wait) (j : Nat) : Nat := passed calls j / 1000

/-- Calls that take whole microseconds take their sum. -/
theorem elapsed_of_microseconds {d : Nat → Nat} (h : ∀ j, (calls j).took = d j * 1000) :
    elapsed calls n = ((List.range n).map d).sum := by
  have hpassed : passed calls n = ((List.range n).map d).sum * 1000 := by
    induction n with
    | zero => simp [passed]
    | succ n ih =>
      rw [passed_succ, ih, h, List.range_succ, List.map_append, List.sum_append_nat]
      simp [Nat.add_mul]
  rw [elapsed, hpassed, Nat.mul_div_cancel _ (by decide)]

/-- Call `k` yields a valid response, the first one, and before each call up to it at least ten microseconds of the
    window are left. -/
structure AnsweredBy (timeout : Int) (calls : Nat → Wait) (k : Nat) (respInfo : ResponseInfo) : Prop where
  valid : (calls k).response = some (respInfo, true)
  first : ∀ j < k, (calls j).valid = false
  inTime : ∀ j ≤ k, MinTimeWaitForResponse ≤ timeout - elapsed calls j

/-- The probe is sent, and the loop makes its first `n` calls. -/
def callActions (calls : Nat → Wait) (n : Nat) : List Action := .readSentAt :: rounds calls n

/-- Of a loop that begins when the probe is sent. -/
theorem makes_iff_elapsed : Makes timeout sentAt sentAt calls n ↔
    (∀ j < n, (calls j).valid = false) ∧ MinTimeWaitForResponse ≤ timeout - elapsed calls n := by
  have hinTime : MinTimeWaitForResponse ≤ leftAfter timeout sentAt sentAt calls n ↔
      MinTimeWaitForResponse ≤ timeout - elapsed calls n := by
    rw [le_leftAfter_iff (Int.le_refl sentAt), elapsed, MinTimeWaitForResponse]
    omega
  exact ⟨fun h => ⟨h.waiting, hinTime.mp h.inTime⟩, fun h => ⟨h.1, hinTime.mpr h.2⟩⟩

theorem exec_called {ttl i : UInt32} {packet : Nat} (pc : s.position = .sent ttl i packet)
    (h : (machine destination c).exec s (callActions calls n) = some t) :
    (∀ j < n, Makes c.timeout s.now s.now calls j) ∧ Called calls ⟨ttl, i, packet, s.now⟩ s.now s.probeResults n t := by
  obtain ⟨u, hu, ht⟩ := Machine.exec_cons_eq_some.mp h
  cases step_move hu with
  | @begin_ ttl' i' packet' pc' =>
    obtain ⟨rfl, rfl, rfl⟩ : ttl = ttl' ∧ i = i' ∧ packet = packet' := by simpa [pc] using pc'
    exact (Called.zero rfl).of_exec_rounds ht

/-- Every call that the loop makes it may make: an answer comes from its last call, or it has none. -/
theorem AnsweredBy.eq_last (h : AnsweredBy timeout calls k respInfo) (hmakes : ∀ j < n, Makes timeout sentAt sentAt calls j)
    (hend : ¬Makes timeout sentAt sentAt calls n) : n = k + 1 := by
  rcases Nat.lt_trichotomy n (k + 1) with hlt | heq | hgt
  · exact absurd (makes_iff_elapsed.mpr ⟨fun j hj => h.first j (by omega), h.inTime n (Nat.le_of_lt_succ hlt)⟩) hend
  · exact heq
  · have hvalid : (calls k).valid = true := by rw [Wait.valid, h.valid]
    rw [(hmakes (k + 1) hgt).waiting k (Nat.lt_succ_self k)] at hvalid
    cases hvalid

theorem AnsweredBy.last (h : AnsweredBy timeout calls k respInfo) (hmakes : ∀ j < n, Makes timeout sentAt sentAt calls j)
    (hend : ¬Makes timeout sentAt sentAt calls n) :
    n = k + 1 ∧ lastValid calls n = true ∧ lastInfo calls n = some respInfo := by
  obtain rfl := h.eq_last hmakes hend
  exact ⟨rfl, by simp [lastValid, Wait.valid, h.valid], by simp [lastInfo, h.valid]⟩

/-- When the last call has yielded a valid response, that is the answer. -/
theorem answeredBy_of_lastValid (hmakes : ∀ j < n, Makes timeout sentAt sentAt calls j)
    (hvalid : lastValid calls n = true) (hinfo : lastInfo calls n = some respInfo) :
    ∃ k, n = k + 1 ∧ AnsweredBy timeout calls k respInfo := by
  cases n with
  | zero => cases hvalid
  | succ k =>
    obtain ⟨⟨respInfo', verdict⟩, hresponse, rfl⟩ := Option.map_eq_some_iff.mp hinfo
    obtain rfl : verdict = true := by simpa [lastValid, Wait.valid, hresponse] using hvalid
    exact ⟨k, rfl, hresponse, (hmakes k (Nat.lt_succ_self k)).waiting,
      fun j hj => (makes_iff_elapsed.mp (hmakes j (Nat.lt_succ_of_le hj))).2⟩

/-- The outcome of a probe whose `tryReceiving` calls yield `calls`, with the clock advancing only inside of them. A call is
    made only while no response was valid and ten microseconds are left. When the loop ends, behind its first `n` calls,
    the probe is a success exactly when it has an answer, and then it is reported with the time of that answer. -/
theorem probe_outcome (destination : Nat → SocketAddress) (c : Call) {s : State} {ttl i : UInt32} {packet : Nat}
    (pc : s.position = .sent ttl i packet) (calls : Nat → Wait) (n : Nat) :
    (∀ t, (machine destination c).exec s (callActions calls n) = some t →
      ∀ j < n, MinTimeWaitForResponse ≤ c.timeout - elapsed calls j ∧ ∀ j' < j, (calls j').valid = false) ∧
    ∀ t, (machine destination c).exec s (callActions calls n ++ [.testLoop, .pushProbeResult]) = some t →
      ∃ result, t.probeResults = s.probeResults ++ [result] ∧
        (result.success = true ↔ ∃ k respInfo, AnsweredBy c.timeout calls k respInfo) ∧
        (∀ k respInfo, AnsweredBy c.timeout calls k respInfo →
          n = k + 1 ∧ result = successProbe (elapsed calls (k + 1)) respInfo.client) ∧
        ((¬∃ k respInfo, AnsweredBy c.timeout calls k respInfo) →
          c.timeout - elapsed calls n < MinTimeWaitForResponse ∧ result = failedProbe c.timeout) := by
  refine ⟨fun t h j hj => ?_, fun t h => ?_⟩
  · obtain ⟨hmakes, -⟩ := exec_called pc h
    exact (makes_iff_elapsed.mp (hmakes j hj)).symm
  · obtain ⟨u, hu, h⟩ := Machine.exec_append_eq_some.mp h
    obtain ⟨v, hv, h⟩ := Machine.exec_cons_eq_some.mp h
    rw [Machine.exec_singleton] at h
    obtain ⟨hmakes, hcalled⟩ := exec_called pc hu
    rcases hcalled.testLoop destination c with ⟨-, htest⟩ | ⟨hend, htest⟩
    · obtain rfl := Option.some.inj (htest.symm.trans hv)
      cases step_move h with
      | success pc | failure pc => cases pc
    obtain rfl := Option.some.inj (htest.symm.trans hv)
    cases step_move h with
    | @success a respInfo pc =>
      obtain ⟨rfl, hvalid, hinfo⟩ : _ = a ∧ lastValid calls n = true ∧ lastInfo calls n = some respInfo := by simpa using pc
      obtain ⟨k, rfl, hk⟩ := answeredBy_of_lastValid hmakes hvalid hinfo
      have hpassed : getTimePassedTillNow u.now s.now = elapsed calls (k + 1) := by
        rw [hcalled.now, getTimePassedTillNow_of_le (by omega), elapsed]
        omega
      have hyes : ∃ k respInfo, AnsweredBy c.timeout calls k respInfo := ⟨k, respInfo, hk⟩
      refine ⟨_, congrArg (· ++ [_]) hcalled.results, iff_of_true rfl hyes, fun k' respInfo' hk' => ?_, fun hno => absurd hyes hno⟩
      obtain ⟨hlen, -, hinfo'⟩ := hk'.last hmakes hend
      obtain rfl : respInfo = respInfo' := Option.some.inj (hinfo.symm.trans hinfo')
      exact ⟨hlen, by rw [← hlen, hpassed]⟩
    | @failure a r pc =>
      have hinvalid : lastValid calls n = false := (by simpa using pc : _ = a ∧ lastValid calls n = false ∧ _).2.1
      have hno : ¬∃ k respInfo, AnsweredBy c.timeout calls k respInfo := by
        rintro ⟨k, respInfo, hk⟩
        rw [(hk.last hmakes hend).2.1] at hinvalid
        cases hinvalid
      refine ⟨_, congrArg (· ++ [_]) hcalled.results, iff_of_false (by simp [failedProbe]) hno,
        fun k respInfo hk => absurd ⟨k, respInfo, hk⟩ hno, fun _ => ⟨?_, rfl⟩⟩
      exact Int.not_le.mp fun hle => hend (makes_iff_elapsed.mpr ⟨hcalled.lastValid_iff.mp hinvalid, hle⟩)

/-- Nothing comes within a millisecond, an invalid response half a millisecond later, and then a valid one. -/
def threeCalls : Nat → Wait
  | 0 => ⟨1000 * 1000, none, fun _ => 0⟩
  | 1 => ⟨500 * 1000, some (⟨⟨Vector.replicate 128 0⟩, 1, 28⟩, false), fun _ => 0⟩
  | _ => ⟨300 * 1000, some (⟨⟨Vector.replicate 128 0⟩, 1, 28⟩, true), fun _ => 0⟩

theorem probe_outcome_answered : ∃ t, (machine (fun _ => ⟨Vector.replicate 128 0⟩) ⟨1, 1, 1, 2000⟩).exec
    { enter ⟨1, 1, 1, 2000⟩ 0 1 (fun _ => 0) with position := .sent 1 0 0 }
    (callActions threeCalls 3 ++ [.testLoop, .pushProbeResult]) = some t ∧
    t.probeResults = [successProbe 1800 ⟨Vector.replicate 128 0⟩] := by
  obtain ⟨result, hresults, -, hsuccess, -⟩ := (probe_outcome (fun _ => ⟨Vector.replicate 128 0⟩) ⟨1, 1, 1, 2000⟩
    (s := { enter ⟨1, 1, 1, 2000⟩ 0 1 (fun _ => 0) with position := .sent 1 0 0 }) rfl threeCalls 3).2 _ rfl
  have helapsed : elapsed threeCalls 3 = [1000, 500, 300].sum :=
    elapsed_of_microseconds (d := fun | 0 => 1000 | 1 => 500 | _ => 300) fun j => by
      rcases j with - | - | j <;> rfl
  refine ⟨_, rfl, hresults.trans ?_⟩
  rw [(hsuccess 2 _ ⟨rfl, by decide, by decide⟩).2, helapsed]
  rfl

end Traceroute.Sequential
