import Traceroute.Theorems.Positions
import Traceroute.Theorems.SequentialSteps

/-! The shape of what `SequentialTraceroute` returns: the ttls in order, each with its retries in order, up to the
    first one at which the destination answered. -/

namespace Traceroute.Sequential

variable {destination : Nat → SocketAddress} {target : SocketAddress} {c : Call} {s t : State}

def Attempt.place (a : Attempt) : Nat × Nat := (a.ttl.toNat, a.i.toNat)

/-- The results of a ttl, each with its ttl and its place among the retries. -/
def placed (ttl : Nat) (results : List ProbeResult) : List ((Nat × Nat) × ProbeResult) :=
  results.mapIdx fun i result => ((ttl, i), result)

/-- The loops stand at retry `i` of `ttl`, whose first `sent` probes have been handed to `trySending`: the ttls
    before it have their results and no answer of the destination, and the flag says whether `ttl` has one. -/
structure Loop (c : Call) (target : SocketAddress) (s : State) (ttl i sent : Nat) : Prop where
  begin_le : c.ttlBegin.toNat ≤ ttl
  ttls : s.probes.map (·.ttl.toNat) = List.range' c.ttlBegin.toNat (ttl - c.ttlBegin.toNat)
  count : ∀ tr ∈ s.probes, tr.probeResults.length = c.retries.toNat
  retries : s.probeResults.length = i
  order : s.recorded.map (fun r => (r.attempt.place, r.result)) =
    (s.probes.flatMap fun tr => placed tr.ttl.toNat tr.probeResults) ++ placed ttl s.probeResults
  sends : s.sent.map (·.1.toNat) = (c.positionsBefore ttl sent).map (·.1)
  before : ∀ tr ∈ s.probes, tr.probeResults.any (·.sentBy target) = false
  flag : s.destinationReached = s.probeResults.any (·.sentBy target)

/-- `probes` are the results of the ttls up to `k`, the first one at which the destination answered or
    `ttlEnd`. -/
structure Shape (c : Call) (target : SocketAddress) (s : State) (probes : List TracerouteResult) (k : Nat) : Prop where
  begin_le : c.ttlBegin.toNat ≤ k
  le_end : k ≤ c.ttlEnd.toNat
  ttls : probes.map (·.ttl.toNat) = List.range' c.ttlBegin.toNat (k + 1 - c.ttlBegin.toNat)
  count : ∀ tr ∈ probes, tr.probeResults.length = c.retries.toNat
  order : s.recorded.map (fun r => (r.attempt.place, r.result)) =
    probes.flatMap fun tr => placed tr.ttl.toNat tr.probeResults
  sends : s.sent.map (·.1.toNat) = (c.positionsBefore (k + 1) 0).map (·.1)
  before : ∀ tr ∈ probes, tr.ttl.toNat < k → tr.probeResults.any (·.sentBy target) = false
  last : k = c.ttlEnd.toNat ∨ ∃ tr ∈ probes, tr.ttl.toNat = k ∧ tr.probeResults.any (·.sentBy target) = true

theorem Loop.of_eq {ttl i sent : Nat} (h : Loop c target s ttl i sent) (probes : t.probes = s.probes)
    (results : t.probeResults = s.probeResults) (recorded : t.recorded = s.recorded) (sends : t.sent = s.sent)
    (flag : t.destinationReached = s.destinationReached) : Loop c target t ttl i sent where
  begin_le := h.begin_le
  ttls := probes ▸ h.ttls
  count := probes ▸ h.count
  retries := results ▸ h.retries
  order := by rw [recorded, probes, results, h.order]
  sends := sends ▸ h.sends
  before := probes ▸ h.before
  flag := by rw [flag, results, h.flag]

theorem Shape.of_eq {probes : List TracerouteResult} {k : Nat} (h : Shape c target s probes k)
    (recorded : t.recorded = s.recorded) (sends : t.sent = s.sent) : Shape c target t probes k where
  begin_le := h.begin_le
  le_end := h.le_end
  ttls := h.ttls
  count := h.count
  order := recorded ▸ h.order
  sends := sends ▸ h.sends
  before := h.before
  last := h.last

/-- One more probe has been handed to `trySending`. -/
theorem Loop.send {ttl i : Nat} {k : Nat} {x : UInt32} (h : Loop c target s ttl i i) (hx : x.toNat = ttl)
    {position : Position} :
    Loop c target { s with position := position, sent := s.sent ++ [(x, k)] } ttl i (i + 1) where
  begin_le := h.begin_le
  ttls := h.ttls
  count := h.count
  retries := h.retries
  order := h.order
  sends := by
    rw [positionsBefore_succ, List.map_append, List.map_append, h.sends]
    simp [hx]
  before := h.before
  flag := h.flag

/-- The result of a retry is pushed. -/
theorem Loop.record {a : Attempt} (h : Loop c target s a.ttl.toNat a.i.toNat (a.i.toNat + 1)) (result : ProbeResult)
    (answer : Option (ResponseInfo × Bytes)) (flag : Bool)
    (hflag : flag = (s.destinationReached || result.sentBy target)) :
    Loop c target { s.record a result answer with destinationReached := flag } a.ttl.toNat (a.i.toNat + 1)
      (a.i.toNat + 1) where
  begin_le := h.begin_le
  ttls := h.ttls
  count := h.count
  retries := by
    rw [State.record, List.length_append, h.retries]
    rfl
  order := by
    simp only [State.record, List.map_append, h.order, placed, List.mapIdx_append, List.append_assoc, h.retries]
    simp [Attempt.place]
  sends := h.sends
  before := h.before
  flag := by simp [State.record, hflag, h.flag]

/-- What holds of the probes when the results of a ttl are pushed. -/
theorem Loop.push {x : UInt32} {probes : List TracerouteResult}
    (h : Loop c target s x.toNat c.retries.toNat c.retries.toNat) (hprobes : probes = s.probes ++ [⟨x, s.probeResults⟩]) :
    probes.map (·.ttl.toNat) = List.range' c.ttlBegin.toNat (x.toNat + 1 - c.ttlBegin.toNat) ∧
    (∀ tr ∈ probes, tr.probeResults.length = c.retries.toNat) ∧
    (s.recorded.map (fun r => (r.attempt.place, r.result)) =
      probes.flatMap fun tr => placed tr.ttl.toNat tr.probeResults) ∧
    s.sent.map (·.1.toNat) = (c.positionsBefore (x.toNat + 1) 0).map (·.1) := by
  subst hprobes
  have hb := h.begin_le
  refine ⟨?_, fun tr htr => ?_, ?_, ?_⟩
  · rw [List.map_append, h.ttls, show x.toNat + 1 - c.ttlBegin.toNat = x.toNat - c.ttlBegin.toNat + 1 by omega,
      List.range'_concat, show c.ttlBegin.toNat + 1 * (x.toNat - c.ttlBegin.toNat) = x.toNat by omega]
    rfl
  · rcases List.mem_append.mp htr with htr | htr
    · exact h.count tr htr
    · obtain rfl := List.mem_singleton.mp htr
      exact h.retries
  · rw [h.order, List.flatMap_append]
    simp
  · rw [h.sends, positionsBefore_nextTtl hb]

/-- The loop over the ttls ends with this one. -/
theorem Loop.shape {x : UInt32} (h : Loop c target s x.toNat c.retries.toNat c.retries.toNat)
    (he : x.toNat ≤ c.ttlEnd.toNat) (hreached : s.destinationReached = true) :
    Shape c target s (s.probes ++ [⟨x, s.probeResults⟩]) x.toNat where
  begin_le := h.begin_le
  le_end := he
  ttls := (h.push rfl).1
  count := (h.push rfl).2.1
  order := (h.push rfl).2.2.1
  sends := (h.push rfl).2.2.2
  before tr htr hlt := by
    rcases List.mem_append.mp htr with htr | htr
    · exact h.before tr htr
    · obtain rfl := List.mem_singleton.mp htr
      exact absurd hlt (Nat.lt_irrefl _)
  last := Or.inr ⟨_, List.mem_append_right _ List.mem_cons_self, rfl, h.flag ▸ hreached⟩

/-- Without an answer of the destination the next ttl begins. -/
theorem Loop.nextTtl {x : UInt32} {ttl : Nat} {position : Position}
    (h : Loop c target s x.toNat c.retries.toNat c.retries.toNat) (httl : ttl = x.toNat + 1)
    (hflag : s.destinationReached = false) :
    Loop c target { s with probes := s.probes ++ [⟨x, s.probeResults⟩], probeResults := [], position := position }
      ttl 0 0 where
  begin_le := httl ▸ Nat.le_succ_of_le h.begin_le
  ttls := httl ▸ (h.push rfl).1
  count := (h.push rfl).2.1
  retries := rfl
  order := by
    simp only [placed, List.mapIdx_nil, List.append_nil]
    exact (h.push rfl).2.2.1
  sends := httl ▸ (h.push rfl).2.2.2
  before tr htr := by
    rcases List.mem_append.mp htr with htr | htr
    · exact h.before tr htr
    · obtain rfl := List.mem_singleton.mp htr
      exact h.flag ▸ hflag
  flag := hflag

/-! ### The invariant -/

/-- What holds at each position of `beginProbing`. -/
def Shaped (c : Call) (target : SocketAddress) (s : State) : Prop :=
  match s.position with
  | .ttlLoop ttl => (ttl.toNat ≤ c.ttlEnd.toNat + 1 ∨ ttl = c.ttlBegin) ∧ Loop c target s ttl.toNat 0 0
  | .retryLoop ttl i => ttl.toNat ≤ c.ttlEnd.toNat ∧ i.toNat ≤ c.retries.toNat ∧
      Loop c target s ttl.toNat i.toNat i.toNat
  | .created ttl i _ => ttl.toNat ≤ c.ttlEnd.toNat ∧ i.toNat < c.retries.toNat ∧
      Loop c target s ttl.toNat i.toNat i.toNat
  | .sending ttl i _ | .sent ttl i _ => ttl.toNat ≤ c.ttlEnd.toNat ∧ i.toNat < c.retries.toNat ∧
      Loop c target s ttl.toNat i.toNat (i.toNat + 1)
  | .waiting a _ _ | .receiving a _ _ | .validating a _ | .waited a _ _ => a.ttl.toNat ≤ c.ttlEnd.toNat ∧
      a.i.toNat < c.retries.toNat ∧ Loop c target s a.ttl.toNat a.i.toNat (a.i.toNat + 1)
  | .returned probes => (c.ttlEnd < c.ttlBegin ∧ probes = [] ∧ s.sent = []) ∨ ∃ k, Shape c target s probes k
  | .threw _ => True

theorem Loop.enter {now : Int} {created : Nat} {buffer : Bytes} :
    Loop c target (enter c now created buffer) c.ttlBegin.toNat 0 0 where
  begin_le := Nat.le_refl _
  ttls := by simp [Sequential.enter]
  count tr htr := by cases htr
  retries := rfl
  order := rfl
  sends := by rw [positionsBefore_begin]; rfl
  before tr htr := by cases htr
  flag := rfl

/-- Time passes. -/
theorem Shaped.tick {now : Int} (h : Shaped c target s) : Shaped c target { s with now := now } := by
  cases hpc : s.position with
  | ttlLoop ttl =>
    simp only [Shaped, hpc] at h ⊢
    exact ⟨h.1, h.2.of_eq rfl rfl rfl rfl rfl⟩
  | returned probes =>
    simp only [Shaped, hpc] at h ⊢
    exact h.imp id fun ⟨k, hk⟩ => ⟨k, hk.of_eq rfl rfl⟩
  | threw e => simp only [Shaped]
  | _ =>
    simp only [Shaped, hpc] at h ⊢
    exact ⟨h.1, h.2.1, h.2.2.of_eq rfl rfl rfl rfl rfl⟩

/-- Behind `ttlEnd` the loop over the ttls ends. -/
theorem Loop.ended {x : UInt32} (h : Loop c target s x.toNat 0 0) (hlt : ¬x ≤ c.ttlEnd)
    (hle : x.toNat ≤ c.ttlEnd.toNat + 1 ∨ x = c.ttlBegin) :
    (c.ttlEnd < c.ttlBegin ∧ s.probes = [] ∧ s.sent = []) ∨ Shape c target s s.probes c.ttlEnd.toNat := by
  rw [UInt32.le_iff_toNat_le] at hlt
  have hb := h.begin_le
  rcases Nat.lt_or_ge c.ttlEnd.toNat c.ttlBegin.toNat with hempty | hrange
  · -- The loop has not been entered.
    obtain rfl : x = c.ttlBegin := hle.elim (fun hle => UInt32.toNat_inj.mp (by omega)) id
    refine Or.inl ⟨UInt32.lt_iff_toNat_lt.mpr hempty, ?_, ?_⟩
    · simpa using h.ttls
    · simpa [positionsBefore_begin] using h.sends
  · have hx : c.ttlEnd.toNat + 1 = x.toNat := by
      rcases hle with hle | rfl <;> omega
    exact Or.inr ⟨hrange, Nat.le_refl _, hx ▸ h.ttls, h.count, by simpa [placed, List.eq_nil_of_length_eq_zero h.retries]
      using h.order, hx ▸ h.sends, fun tr htr _ => h.before tr htr, Or.inl rfl⟩

theorem Shaped.enter {now : Int} {created : Nat} {buffer : Bytes} :
    Shaped c target (Sequential.enter c now created buffer) := ⟨Or.inr rfl, .enter⟩

theorem step_shaped {a : Action} (hend : c.ttlEnd.toNat + 1 < 2 ^ 32) (hdest : ∀ n, destination n = target)
    (h : Shaped c target s) (hs : (machine destination c).step s a = some t) : Shaped c target t := by
  cases step_move hs with
  | tick d => exact h.tick
  | @enterTtl ttl pc le =>
    simp only [Shaped, pc] at h ⊢
    exact ⟨UInt32.le_iff_toNat_le.mp le, Nat.zero_le _, h.2.of_eq rfl (List.eq_nil_of_length_eq_zero h.2.retries).symm
      rfl rfl rfl⟩
  | @return_ ttl pc lt =>
    simp only [Shaped, pc] at h ⊢
    exact (h.2.ended lt h.1).imp id fun hk => ⟨_, hk.of_eq rfl rfl⟩
  | @create ttl i pc lt =>
    simp only [Shaped, pc] at h ⊢
    exact ⟨h.1, UInt32.lt_iff_toNat_lt.mp lt, h.2.2.of_eq rfl rfl rfl rfl rfl⟩
  | @send ttl i k pc =>
    simp only [Shaped, pc] at h ⊢
    exact ⟨h.1, h.2.1, h.2.2.send rfl⟩
  | sent pc =>
    simp only [Shaped, pc] at h ⊢
    exact ⟨h.1, h.2.1, h.2.2.of_eq rfl rfl rfl rfl rfl⟩
  | begin_ pc =>
    simp only [Shaped, pc] at h ⊢
    exact ⟨h.1, h.2.1, h.2.2.of_eq rfl rfl rfl rfl rfl⟩
  | stop pc isOver =>
    simp only [Shaped, pc] at h ⊢
    exact ⟨h.1, h.2.1, h.2.2.of_eq rfl rfl rfl rfl rfl⟩
  | call pc inTime =>
    simp only [Shaped, pc] at h ⊢
    exact ⟨h.1, h.2.1, h.2.2.of_eq rfl rfl rfl rfl rfl⟩
  | nothing pc =>
    simp only [Shaped, pc] at h ⊢
    exact ⟨h.1, h.2.1, h.2.2.of_eq rfl rfl rfl rfl rfl⟩
  | receive pc =>
    simp only [Shaped, pc] at h ⊢
    exact ⟨h.1, h.2.1, h.2.2.of_eq rfl rfl rfl rfl rfl⟩
  | validate pc =>
    simp only [Shaped, pc] at h ⊢
    exact ⟨h.1, h.2.1, h.2.2.of_eq rfl rfl rfl rfl rfl⟩
  | @success a respInfo pc =>
    simp only [Shaped, pc] at h
    have hsucc := toNat_succ h.2.1 c.retries.toNat_lt
    have hloop := h.2.2.record (successProbe (getTimePassedTillNow s.now a.sentAt) respInfo.client)
      (some (respInfo, s.mBuffer)) (s.destinationReached || respInfo.client.operatorEq (destination a.packet))
      (by rw [hdest]; rfl)
    rw [← hsucc] at hloop
    exact ⟨h.1, hsucc ▸ h.2.1, hloop⟩
  | @failure a r pc =>
    simp only [Shaped, pc] at h
    have hsucc := toNat_succ h.2.1 c.retries.toNat_lt
    have hloop := h.2.2.record (failedProbe c.timeout) none s.destinationReached (Bool.or_false _).symm
    rw [← hsucc] at hloop
    exact ⟨h.1, hsucc ▸ h.2.1, hloop⟩
  | @break_ ttl i pc le reached =>
    simp only [Shaped, pc] at h ⊢
    rw [toNat_eq_of_not_lt h.2.1 le] at h
    exact Or.inr ⟨_, (h.2.2.shape h.1 reached).of_eq rfl rfl⟩
  | @nextTtl ttl i pc le notReached =>
    simp only [Shaped, pc] at h ⊢
    have hsucc := toNat_succ (Nat.lt_succ_of_le h.1) hend
    rw [toNat_eq_of_not_lt h.2.1 le] at h
    exact ⟨Or.inl (by omega), h.2.2.nextTtl hsucc notReached⟩
  | createThrows | notSent | sendThrows | receiveThrows | validateThrows => trivial

theorem exec_shaped {as : List Action} (hend : c.ttlEnd.toNat + 1 < 2 ^ 32) (hdest : ∀ n, destination n = target)
    (hs : Shaped c target s) (h : (machine destination c).exec s as = some t) : Shaped c target t :=
  Machine.exec_invariant (fun hu hv => step_shaped hend hdest hu hv) hs h

/-! ### Records -/

/-- A record is a failure, or a success of the response that answered it. -/
inductive Record.Explained (c : Call) : Record → Prop where
  | unanswered (attempt : Attempt) : Explained c ⟨attempt, failedProbe c.timeout, none⟩
  | answered (attempt : Attempt) (waitedFor : Int) (respInfo : ResponseInfo) (buffer : Bytes) :
      Explained c ⟨attempt, successProbe waitedFor respInfo.client, some (respInfo, buffer)⟩

theorem exec_explained {as : List Action} (h : (machine destination c).exec s as = some t)
    (hs : ∀ r ∈ s.recorded, r.Explained c) : ∀ r ∈ t.recorded, r.Explained c := by
  refine Machine.exec_invariant (I := fun s => ∀ r ∈ s.recorded, r.Explained c) (fun {s t a} hs hst => ?_) hs h
  exact step_forall_recorded hs (fun _ => .answered _ _ _ _) (fun _ => .unanswered _) hst

/-- A result that is listed has been recorded. -/
theorem Shape.recorded {probes : List TracerouteResult} {k : Nat} (h : Shape c target s probes k) {tr : TracerouteResult}
    (htr : tr ∈ probes) {result : ProbeResult} (hresult : result ∈ tr.probeResults) :
    ∃ r ∈ s.recorded, r.result = result := by
  obtain ⟨i, hi, rfl⟩ := List.getElem_of_mem hresult
  have hplaced : ((tr.ttl.toNat, i), tr.probeResults[i]) ∈ s.recorded.map fun r => (r.attempt.place, r.result) := by
    rw [h.order]
    exact List.mem_flatMap.mpr ⟨tr, htr, List.mem_mapIdx.mpr ⟨i, hi, rfl⟩⟩
  obtain ⟨r, hr, heq⟩ := List.mem_map.mp hplaced
  exact ⟨r, hr, (Prod.mk.inj heq).2⟩

/-- Each ttl up to `k` has been sent `retries` times, and no other ttl at all. -/
theorem Shape.countP_sent {probes : List TracerouteResult} {k : Nat} (h : Shape c target s probes k) (ttl : Nat) :
    s.sent.countP (·.1.toNat == ttl) = if c.ttlBegin.toNat ≤ ttl ∧ ttl ≤ k then c.retries.toNat else 0 := by
  have hcount : s.sent.countP (·.1.toNat == ttl) = (c.positionsBefore (k + 1) 0).countP (·.1 == ttl) := by
    have hmap := congrArg (List.countP (· == ttl)) h.sends
    rwa [List.countP_map, List.countP_map] at hmap
  have hk := h.begin_le
  have hrange : ttl ∈ List.range' c.ttlBegin.toNat (k + 1 - c.ttlBegin.toNat) ↔ c.ttlBegin.toNat ≤ ttl ∧ ttl ≤ k := by
    rw [List.mem_range'_1]
    omega
  rw [hcount, List.countP_eq_length_filter, Call.positionsBefore, List.range_zero, List.map_nil, List.append_nil,
    filter_flatMap_pairs List.nodup_range']
  simp only [hrange]
  split <;> simp

/-! ### Failed sends -/

/-- When `beginProbing` returns, it has probed the ttls from `ttlBegin` on, each `retries` times, up to the first one
    at which the destination answered, or `ttlEnd`; it throws when a packet could not be sent. -/
theorem probing_shape (destination : Nat → SocketAddress) (target : SocketAddress) (c : Call) (now : Int) (created : Nat)
    (buffer : Bytes) {as : List Action} {s : State} (hend : c.ttlEnd.toNat + 1 < 2 ^ 32)
    (hdest : ∀ n, destination n = target)
    (h : (machine destination c).exec (enter c now created buffer) as = some s) :
    (∀ probes, s.position = .returned probes →
      (c.ttlEnd < c.ttlBegin ∧ probes = [] ∧ s.sent = []) ∨
      ∃ k, Shape c target s probes k ∧
        (∀ ttl, s.sent.countP (·.1.toNat == ttl) = if c.ttlBegin.toNat ≤ ttl ∧ ttl ≤ k then c.retries.toNat else 0) ∧
        (k = c.ttlEnd.toNat ∨ ∃ tr ∈ probes, tr.ttl.toNat = k ∧
          ∃ result ∈ tr.probeResults, result.success = true ∧ result.sentBy target = true)) ∧
    (.trySendingReturns (.ok false) ∈ as → s.position = .threw (.runtime_error "Failed to send a packet")) := by
  refine ⟨fun probes hreturned => ?_, fun hfailed => exec_sendFailure h hfailed rfl⟩
  have hshaped : Shaped c target s := exec_shaped hend hdest .enter h
  simp only [Shaped, hreturned] at hshaped
  rcases hshaped with hempty | ⟨k, hk⟩
  · exact Or.inl hempty
  · refine Or.inr ⟨k, hk, hk.countP_sent, hk.last.imp id ?_⟩
    rintro ⟨tr, htr, httl, hany⟩
    obtain ⟨result, hresult, hsent⟩ := List.any_eq_true.mp hany
    refine ⟨tr, htr, httl, result, hresult, ?_, hsent⟩
    obtain ⟨r, hr, rfl⟩ := hk.recorded htr hresult
    cases exec_explained h (fun r hr => by cases hr) r hr with
    | unanswered attempt => cases hsent
    | answered attempt waitedFor respInfo buffer => rfl

/-- The probe of ttl 1 is answered. -/
def answeredRun (respInfo : ResponseInfo) : List Action :=
  [.testTtl, .createPacket (.ok ()), .trySending, .trySendingReturns (.ok true), .readSentAt, .testLoop,
    .tryReceivingReturns (.ok (some respInfo)) fun _ => 0, .isValid (.ok true), .testLoop, .pushProbeResult, .pushProbe]

theorem probing_shape_answered : ∃ s, ∃ k,
    (machine (fun _ => ⟨Vector.replicate 128 0⟩) ⟨1, 3, 1, 1000⟩).exec (enter ⟨1, 3, 1, 1000⟩ 0 0 fun _ => 0)
      (answeredRun ⟨⟨Vector.replicate 128 0⟩, 1, 28⟩) = some s ∧
    Shape ⟨1, 3, 1, 1000⟩ ⟨Vector.replicate 128 0⟩ s [⟨1, [successProbe 0 ⟨Vector.replicate 128 0⟩]⟩] k := by
  obtain ⟨s, hs, hpos⟩ := Option.map_eq_some_iff.mp (show ((machine (fun _ => ⟨Vector.replicate 128 0⟩)
    ⟨1, 3, 1, 1000⟩).exec (enter ⟨1, 3, 1, 1000⟩ 0 0 fun _ => 0) (answeredRun ⟨⟨Vector.replicate 128 0⟩, 1, 28⟩)).map
      (·.position) = some (.returned [⟨1, [successProbe 0 ⟨Vector.replicate 128 0⟩]⟩]) from rfl)
  rcases (probing_shape _ ⟨Vector.replicate 128 0⟩ _ _ _ _ (by decide) (fun _ => rfl) hs).1 _ hpos with
    ⟨-, hnil, -⟩ | ⟨k, hk, -⟩
  · cases hnil
  · exact ⟨s, k, hs, hk⟩

end Traceroute.Sequential
