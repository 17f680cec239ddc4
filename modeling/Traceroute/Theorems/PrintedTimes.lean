import Traceroute.Theorems.Answered
import Traceroute.Theorems.Printed
import Traceroute.Theorems.ReportedAnswers
import Traceroute.Theorems.Time

/-! The times of the successes that `beginProbing` returns lie between zero and the time that it has taken, so the text of
    what it returns says them exactly for any probing of less than `2 ^ 33` milliseconds. -/

namespace Traceroute

/-- The time of a success is one that can have been measured within so many nanoseconds. -/
def ProbeResult.MeasuredIn (elapsed : Int) (pr : ProbeResult) : Prop :=
  pr.success = true → 0 ≤ pr.waitedFor ∧ pr.waitedFor * 1000 ≤ elapsed

variable {pr : ProbeResult} {elapsed elapsed' start earlier now waitedFor : Int} {client : SocketAddress}

theorem ProbeResult.MeasuredIn.mono (h : pr.MeasuredIn elapsed) (hle : elapsed ≤ elapsed') : pr.MeasuredIn elapsed' :=
  fun hsuccess => ⟨(h hsuccess).1, Int.le_trans (h hsuccess).2 hle⟩

theorem measuredIn_successProbe (hstart : start ≤ earlier) (hle : earlier ≤ now) :
    (successProbe (getTimePassedTillNow now earlier) client).MeasuredIn (now - start) := fun _ => by
  show 0 ≤ getTimePassedTillNow now earlier ∧ getTimePassedTillNow now earlier * 1000 ≤ now - start
  rw [getTimePassedTillNow_of_le hle]
  omega

theorem measuredIn_failedProbe : (failedProbe waitedFor).MeasuredIn elapsed := fun hsuccess => by cases hsuccess

theorem ProbeResult.MeasuredIn.printable (h : pr.MeasuredIn elapsed) (helapsed : elapsed < 2 ^ 33 * 1000000) : pr.Printable :=
  fun hsuccess => by
    obtain ⟨hnonneg, hle⟩ := h hsuccess
    exact ⟨hnonneg, by omega⟩

/-- The text says the time of each success exactly. -/
def SaidExactly (results : List TracerouteResult) : Prop :=
  ∀ tr ∈ results, ∀ pr ∈ tr.probeResults, pr.Printable ∧
    (pr.success = true → decimalValue pr.waitedForStr.toList = pr.waitedFor / 1000)

theorem saidExactly_of_measuredIn {results : List TracerouteResult} (helapsed : elapsed < 2 ^ 33 * 1000000)
    (h : ∀ tr ∈ results, ∀ pr ∈ tr.probeResults, pr.MeasuredIn elapsed) : SaidExactly results := fun tr htr pr hpr => by
  have hprintable := (h tr htr pr hpr).printable helapsed
  refine ⟨hprintable, fun hsuccess => ?_⟩
  obtain ⟨hnonneg, hlt⟩ := hprintable hsuccess
  exact decimalValue_waitedForStr hnonneg hlt

namespace Fast

variable {packets : Nat → Packet} {c : Call} {s t : State} {o : Object}

/-- The outstanding probes were sent from `start` on, and the times recorded were measured since. -/
structure Timely (start : Int) (s : State) : Prop where
  started : start ≤ s.now
  outstanding : ∀ p ∈ s.mPacketsToBeValidated, start ≤ p.sentAt ∧ p.sentAt ≤ s.now
  recorded : ∀ r ∈ s.recorded, r.result.MeasuredIn (s.now - start)

theorem step_timely {a : Action} (h : Timely start s) (hs : (machine packets c).step s a = some t) : Timely start t := by
  have hnow := step_now hs
  have houtstanding : ∀ p ∈ s.mPacketsToBeValidated, start ≤ p.sentAt ∧ p.sentAt ≤ t.now := fun p hp =>
    ⟨(h.outstanding p hp).1, Int.le_trans (h.outstanding p hp).2 hnow⟩
  refine ⟨Int.le_trans h.started hnow, ?_, ?_⟩
  · cases step_ledger hs with
    | still packets results pushed recorded =>
      rw [packets]
      exact houtstanding
    | push probe pc sentAt packets results pushed recorded =>
      rw [packets]
      refine List.forall_mem_append.mpr ⟨houtstanding, List.forall_mem_singleton.mpr ?_⟩
      rw [sentAt]
      exact ⟨h.started, hnow⟩
    | record it r at_ packets results pushed recorded =>
      rw [packets]
      exact fun p hp => houtstanding p (List.mem_of_mem_eraseIdx hp)
  · refine step_forall_recorded (P := fun r => r.result.MeasuredIn (t.now - start)) (fun r hr => ?_) (fun {_ _ _ probe} _ _ at_ => ?_)
      (fun _ _ => measuredIn_failedProbe) hs
    · exact (h.recorded r hr).mono (by omega)
    · obtain ⟨hstart, hle⟩ := h.outstanding probe (List.mem_of_getElem? at_)
      exact (measuredIn_successProbe hstart hle).mono (by omega)

/-- `start` is not later than the call, nor than any probe left over from an earlier one. -/
theorem returned_measuredIn {enteredAt : Int} {as : List Action} {results : List TracerouteResult} (hstart : start ≤ enteredAt)
    (hleft : ∀ p ∈ o.mPacketsToBeValidated, start ≤ p.sentAt ∧ p.sentAt ≤ enteredAt)
    (hrun : (machine packets c).exec (enter c enteredAt o) as = some t) (hreturned : t.receiver = .returned results) :
    ∀ tr ∈ results, ∀ pr ∈ tr.probeResults, pr.MeasuredIn (t.now - start) := fun tr htr pr hpr => by
  have htimely : Timely start t := Machine.exec_invariant step_timely ⟨hstart, hleft, fun r hr => by cases hr⟩ hrun
  have hcollected : Collected packets t := exec_collected hrun fun _ hres => by cases hres
  obtain ⟨r, hr, rfl, -⟩ := recorded_of_returned (exec_conserved hrun .enter) hcollected hreturned htr hpr
  exact htimely.recorded r hr

end Fast

namespace Sequential

variable {destination : Nat → SocketAddress} {c : Call} {s t : State}

/-- The probe whose time has been taken and that has no result yet. -/
def Position.timed : Position → Option Attempt
  | .waiting a _ _ | .receiving a _ _ | .validating a _ | .waited a _ _ => some a
  | _ => none

/-- The current probe was sent from `start` on, and the times reported were measured since. -/
structure Timely (start : Int) (s : State) : Prop where
  started : start ≤ s.now
  current : ∀ a, s.position.timed = some a → start ≤ a.sentAt ∧ a.sentAt ≤ s.now
  results : ∀ pr ∈ s.probeResults, pr.MeasuredIn (s.now - start)
  probes : ∀ tr ∈ s.probes, ∀ pr ∈ tr.probeResults, pr.MeasuredIn (s.now - start)
  returned : ∀ probes, s.position = .returned probes → probes = s.probes

theorem Timely.enter {created : Nat} {buffer : Bytes} : Timely start (enter c start created buffer) where
  started := Int.le_refl start
  current a ha := by cases ha
  results pr hpr := by cases hpr
  probes tr htr := by cases htr
  returned probes hp := by cases hp

theorem Timely.move {action : Action} (h : Timely start s) (m : Move destination c s action t) : Timely start t := by
  have hstart := h.started
  cases m with
  | tick d =>
    have hnow : s.now ≤ s.now + d := Int.le_add_of_nonneg_right (Int.natCast_nonneg d)
    exact {
      started := Int.le_trans h.started hnow
      current := fun a ha => ⟨(h.current a ha).1, Int.le_trans (h.current a ha).2 hnow⟩
      results := fun pr hpr => (h.results pr hpr).mono (Int.sub_le_sub_right hnow start)
      probes := fun tr htr pr hpr => (h.probes tr htr pr hpr).mono (Int.sub_le_sub_right hnow start)
      returned := h.returned }
  | enterTtl pc le =>
    exact { h with
      current := fun a ha => by cases ha
      results := fun pr hpr => by cases hpr
      returned := fun _ hp => by cases hp }
  | return_ pc lt =>
    refine { h with
      current := fun a ha => by cases ha
      returned := fun _ hp => ?_ }
    cases hp
    rfl
  | begin_ pc =>
    refine { h with
      current := fun a ha => ?_
      returned := fun _ hp => by cases hp }
    obtain rfl := Option.some.inj ha
    exact ⟨h.started, Int.le_refl _⟩
  | stop pc | call pc | nothing pc | receive pc | validate pc =>
    exact { h with
      current := fun a ha => h.current a (by rw [pc]; exact ha)
      returned := fun _ hp => by cases hp }
  | @success a respInfo pc =>
    obtain ⟨hsent, hle⟩ := h.current a (by rw [pc]; rfl)
    exact { h with
      current := fun a ha => by cases ha
      results := List.forall_mem_append.mpr ⟨h.results, List.forall_mem_singleton.mpr (measuredIn_successProbe hsent hle)⟩
      returned := fun _ hp => by cases hp }
  | failure pc =>
    exact { h with
      current := fun a ha => by cases ha
      results := List.forall_mem_append.mpr ⟨h.results, List.forall_mem_singleton.mpr measuredIn_failedProbe⟩
      returned := fun _ hp => by cases hp }
  | break_ pc | nextTtl pc =>
    exact { h with
      current := fun a ha => by cases ha
      results := fun pr hpr => by cases hpr
      probes := List.forall_mem_append.mpr ⟨h.probes, List.forall_mem_singleton.mpr h.results⟩
      returned := fun _ hp => by cases hp <;> rfl }
  | create | createThrows | send | sent | notSent | sendThrows | receiveThrows | validateThrows =>
    exact { h with
      current := fun a ha => by cases ha
      returned := fun _ hp => by cases hp }

theorem returned_measuredIn {created : Nat} {buffer : Bytes} {as : List Action} {results : List TracerouteResult}
    (hrun : (machine destination c).exec (enter c start created buffer) as = some t) (hreturned : t.position = .returned results) :
    ∀ tr ∈ results, ∀ pr ∈ tr.probeResults, pr.MeasuredIn (t.now - start) := by
  have htimely : Timely start t := Machine.exec_invariant (fun hI hs => hI.move (step_move hs)) .enter hrun
  rw [htimely.returned results hreturned]
  exact htimely.probes

end Sequential

/-- The probe is answered after half a millisecond. -/
def Fast.halfRun : List Fast.Action :=
  .sender .testTtl :: sendProbe ++ [.receiver .readBeginAt, .receiver .testLoop, .tick 500000,
    .receiver (.tryReceivingReturns (.ok (some Fast.anyResponse)) fun _ => 0), .receiver .lock, .receiver .matchResponse, .receiver .sweep,
    .receiver .testLoop, .receiver (.postprocess (.ok ()))]

end Traceroute
