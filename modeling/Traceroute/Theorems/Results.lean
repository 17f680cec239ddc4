import Traceroute.Theorems.Conservation
import Traceroute.Theorems.FindValid

/-! What `FastTraceroute` returns: the recorded results by ttl, up to the first ttl at which the target
    answered. -/

namespace Traceroute.Fast

variable {packets : Nat → Packet} {c : Call} {s t : State} {left : List PacketToValidate} {target : SocketAddress}

/-! ### Records -/

/-- A record is a failure, or a success of the response that answered it and that its probe accepts. -/
inductive Record.Explained (packets : Nat → Packet) : Record → Prop where
  | unanswered (probe : PacketToValidate) (waitedFor : Int) : Explained packets ⟨probe, failedProbe waitedFor, none⟩
  | answered (probe : PacketToValidate) (waitedFor : Int) (respInfo : ResponseInfo) (buffer : Bytes)
      (accepted : (packets probe.packet).isValid respInfo buffer = .ok true) :
      Explained packets ⟨probe, successProbe waitedFor respInfo.client, some (respInfo, buffer)⟩

theorem exec_explained {as : List Action} (h : (machine packets c).exec s as = some t)
    (hs : ∀ r ∈ s.recorded, r.Explained packets) : ∀ r ∈ t.recorded, r.Explained packets := by
  refine Machine.exec_invariant (I := fun s => ∀ r ∈ s.recorded, r.Explained packets) (fun {s t a} hs hst => ?_) hs h
  refine step_forall_recorded hs (fun pc found at_ => ?_) (fun pc at_ => .unanswered _ _) hst
  obtain ⟨front, rest, -, -, accepted, -⟩ := findValid_at found at_
  exact .answered _ _ _ _ accepted

/-! ### The returned list -/

/-- `std::map` is in order already, and sorting it again changes nothing. -/
theorem collectResults_eq (m : OrderedMap UInt32 (List ProbeResult)) :
    collectResults target m = cutAfterTarget target (m.entries.map fun kv => ⟨kv.1, kv.2⟩) := by
  unfold collectResults
  rw [List.Pairwise.insertionSort_eq]
  exact List.pairwise_map.mpr (m.sorted.imp fun h => Std.le_of_lt h)

theorem collectResults_of_nil {m : OrderedMap UInt32 (List ProbeResult)} (h : m.entries = []) :
    collectResults target m = [] := by
  simp [collectResults_eq, h, cutAfterTarget]

/-- What the receiver returns is made of the results that it has recorded. -/
def Collected (packets : Nat → Packet) (s : State) : Prop :=
  ∀ results, s.receiver = .returned results →
    ∃ n, results = collectResults (packets n).getDestinationAddress s.ttlToProbeResults

theorem ReceiverMove.collected {a : ReceiverAction} (m : ReceiverMove packets c s a t) : Collected packets t := by
  intro results hres
  cases m with
  | return_ pc =>
    cases hres
    exact ⟨_, rfl⟩
  | call pc on => cases hres
  | leave pc off => cases hres
  | _ => cases hres

theorem exec_collected {as : List Action} (h : (machine packets c).exec s as = some t) (hs : Collected packets s) :
    Collected packets t := by
  refine Machine.exec_invariant (fun {s t a} hs hst => ?_) hs h
  cases a with
  | tick d =>
    obtain rfl := Option.some.inj hst
    exact hs
  | sender a =>
    have m := senderStep_move hst
    intro results hres
    rw [m.ttlToProbeResults]
    exact hs results (m.receiver ▸ hres)
  | receiver a => exact (receiverStep_move hst).collected

/-- The list up to its first result of `target`, where it covers `n` ttls from `b` on. -/
theorem cutAfterTarget_range (target : SocketAddress) {all : List TracerouteResult} {b n : Nat}
    (hall : all.map (·.ttl.toNat) = List.range' b n) (hn : 0 < n) : ∃ k, b ≤ k ∧ k < b + n ∧
      (cutAfterTarget target all).map (·.ttl.toNat) = List.range' b (k + 1 - b) ∧
      (k + 1 = b + n ∨ ∃ tr ∈ all, tr.ttl.toNat = k ∧ tr.probeResults.any (·.sentBy target) = true) ∧
      ∀ tr ∈ all, tr.ttl.toNat < k → tr.probeResults.any (·.sentBy target) = false := by
  let p : TracerouteResult → Bool := fun tr => tr.probeResults.any (·.sentBy target)
  have hlen : all.length = n := by simpa using congrArg List.length hall
  have hget : ∀ i (hi : i < all.length), all[i].ttl.toNat = b + i := fun i hi => by
    have := List.getElem_map (fun tr : TracerouteResult => tr.ttl.toNat) (l := all) (i := i) (h := by simpa using hi)
    rw [← this]
    simp [hall]
  have hcut : (cutAfterTarget target all).map (·.ttl.toNat) = (List.range' b n).take (all.findIdx p + 1) := by
    rw [cutAfterTarget, List.map_take, hall]
  have hbefore : ∀ tr ∈ all, tr.ttl.toNat < b + all.findIdx p → p tr = false := fun tr htr hlt => by
    obtain ⟨i, hi, rfl⟩ := List.getElem_of_mem htr
    rw [hget i hi] at hlt
    simpa using List.not_of_lt_findIdx (p := p) (by omega : i < all.findIdx p)
  by_cases hfound : all.findIdx p < all.length
  · refine ⟨b + all.findIdx p, by omega, by omega, ?_, Or.inr ⟨all[all.findIdx p], List.getElem_mem hfound,
      hget _ hfound, List.findIdx_getElem (p := p) (w := hfound)⟩, hbefore⟩
    rw [hcut, List.take_range'_of_length_ge (by omega)]
    congr 1
    omega
  · have hend : all.findIdx p = n := by
      have : all.findIdx p ≤ all.length := List.findIdx_le_length
      omega
    refine ⟨b + n - 1, by omega, by omega, ?_, Or.inl (by omega), fun tr htr hlt => hbefore tr htr (by omega)⟩
    rw [hcut, List.take_range'_of_length_le (by omega)]
    congr 1
    omega

/-! ### All probes -/

/-- Once as many results are there as the call has probes, all of them are registered and recorded. -/
theorem Conserved.settled (hc : Conserved [] s) (hlen : s.pushed.length ≤ c.probeCount)
    (hsize : c.probeCount ≤ s.getCurrentSize.toNat) :
    s.mPacketsToBeValidated = [] ∧ s.pushed.length = c.probeCount := by
  have hperm := hc.perm.length_eq
  have hle := hc.getCurrentSize_le
  rw [List.nil_append, List.length_append, List.length_map] at hperm
  exact ⟨List.eq_nil_of_length_eq_zero (by omega), by omega⟩

theorem Conserved.positions (hc : Conserved [] s) (hp : Placed c s) (hsize : c.probeCount ≤ s.getCurrentSize.toNat) :
    (s.recorded.map (·.probe.position)).Perm c.positions := by
  obtain ⟨hout, hlen⟩ := hc.settled hp.length_le hsize
  have hall : s.pushed.map (·.position) = c.positions :=
    hp.initial.eq_of_length (by rw [List.length_map, hlen, length_positions])
  have hperm := hc.perm
  rw [List.nil_append, hout, List.nil_append] at hperm
  rw [← hall, show s.recorded.map (·.probe.position) = (s.recorded.map (·.probe)).map (·.position) by simp]
  exact (hperm.map _).symm

/-- The records of a ttl in the range are then those of its retries. -/
theorem retries_of_positions (h : (s.recorded.map (·.probe.position)).Perm c.positions) {ttl : UInt32}
    (hb : c.ttlBegin.toNat ≤ ttl.toNat) (he : ttl.toNat ≤ c.ttlEnd.toNat) :
    ((s.recorded.filter (·.probe.ttl == ttl)).map (·.probe.retry.toNat)).Perm (List.range c.retries.toNat) := by
  have hfilter := h.filter (·.1 == ttl.toNat)
  rw [filter_positions hb he, List.filter_map] at hfilter
  have hretries := hfilter.map Prod.snd
  rw [List.map_map, List.map_map] at hretries
  have hpred : ((fun p : Nat × Nat => p.1 == ttl.toNat) ∘ fun r : Record => r.probe.position) =
      fun r => r.probe.ttl == ttl := by
    funext r
    rw [Bool.eq_iff_iff]
    simp [PacketToValidate.position, UInt32.toNat_inj]
  rw [hpred] at hretries
  simpa [Function.comp_def, PacketToValidate.position] using hretries

/-- An answer of `target` has been recorded for a probe of `ttl`. -/
def State.answers (s : State) (target : SocketAddress) (ttl : Nat) : Prop :=
  ∃ r ∈ s.recorded, r.probe.ttl.toNat = ttl ∧ r.result.sentBy target = true

theorem Conserved.mem_entries (hc : Conserved left s) {ttl : UInt32} {v : List ProbeResult} :
    (ttl, v) ∈ s.ttlToProbeResults.entries ↔ v = s.resultsOf ttl ∧ v ≠ [] := by
  have hgrouped := hc.grouped ttl
  have hnonempty := hc.nonempty ttl
  rw [OrderedMap.mem_entries_iff]
  cases hget : s.ttlToProbeResults.get? ttl with
  | none =>
    rw [hget, Option.getD_none] at hgrouped
    simp [← hgrouped]
  | some w =>
    rw [hget, Option.getD_some] at hgrouped
    rw [hget] at hnonempty
    constructor
    · intro h
      cases h
      exact ⟨hgrouped, fun hv => hnonempty (congrArg some hv)⟩
    · rintro ⟨rfl, -⟩
      exact congrArg some hgrouped

/-- `results` report every probe of the call up to ttl `k`: the ttls from `ttlBegin` on, each with one result
    for each retry, and `k` is the first ttl at which `target` answered, or `ttlEnd`. -/
structure Reported (c : Call) (target : SocketAddress) (s : State) (results : List TracerouteResult) (k : Nat) :
    Prop where
  begin_le : c.ttlBegin.toNat ≤ k
  le_end : k ≤ c.ttlEnd.toNat
  ttls : results.map (·.ttl.toNat) = List.range' c.ttlBegin.toNat (k + 1 - c.ttlBegin.toNat)
  last : k = c.ttlEnd.toNat ∨ s.answers target k
  first : ∀ ttl < k, ¬s.answers target ttl
  count : ∀ tr ∈ results, tr.probeResults.length = c.retries.toNat
  retries : ∀ tr ∈ results, ∃ rs : List Record, rs.Sublist s.recorded ∧ tr.probeResults = rs.map (·.result) ∧
    (∀ r ∈ rs, r.probe.ttl = tr.ttl) ∧ (rs.map (·.probe.retry.toNat)).Perm (List.range c.retries.toNat)

section Reported
variable (hc : Conserved left s) (hpos : (s.recorded.map (·.probe.position)).Perm c.positions)
  (hretries : 0 < c.retries.toNat)
include hc hpos hretries

/-- The ttls with results are those of the range. -/
theorem map_ttl_entries : (s.ttlToProbeResults.entries.map fun kv => kv.1.toNat) =
    List.range' c.ttlBegin.toNat (c.ttlEnd.toNat + 1 - c.ttlBegin.toNat) := by
  have hsorted : (s.ttlToProbeResults.entries.map fun kv => kv.1.toNat).Pairwise (· < ·) :=
    List.pairwise_map.mpr (s.ttlToProbeResults.sorted.imp fun h => UInt32.lt_iff_toNat_lt.mp h)
  have hrange : (List.range' c.ttlBegin.toNat (c.ttlEnd.toNat + 1 - c.ttlBegin.toNat)).Pairwise (· < ·) :=
    List.pairwise_lt_range'
  refine List.Perm.eq_of_pairwise (fun a b _ _ (hab : a < b) hba => absurd hab (Nat.lt_asymm hba)) hsorted hrange ?_
  refine (List.perm_ext_iff_of_nodup (hsorted.imp Nat.ne_of_lt) (hrange.imp Nat.ne_of_lt)).mpr fun x => ?_
  rw [List.mem_range'_1, List.mem_map]
  constructor
  · rintro ⟨⟨ttl, v⟩, hv, rfl⟩
    obtain ⟨rfl, hne⟩ := hc.mem_entries.mp hv
    obtain ⟨result, hresult⟩ := List.exists_mem_of_ne_nil _ hne
    obtain ⟨r, hr, -⟩ := List.mem_map.mp hresult
    obtain ⟨hr, httl⟩ := List.mem_filter.mp hr
    obtain ⟨hb, he, -⟩ := mem_positions (hpos.subset (List.mem_map_of_mem hr))
    simp only [PacketToValidate.position, eq_of_beq httl] at hb he
    exact ⟨hb, by dsimp only; omega⟩
  · rintro ⟨hb, he⟩
    have hlt : x < 2 ^ 32 := by
      have := c.ttlEnd.toNat_lt
      omega
    have hx : (UInt32.ofNat x).toNat = x := UInt32.toNat_ofNat_of_lt' hlt
    refine ⟨(UInt32.ofNat x, s.resultsOf (UInt32.ofNat x)), hc.mem_entries.mpr ⟨rfl, fun hnil => ?_⟩, hx⟩
    have hlen := (retries_of_positions hpos (by omega : c.ttlBegin.toNat ≤ (UInt32.ofNat x).toNat) (by omega)).length_eq
    rw [List.map_eq_nil_iff.mp hnil] at hlen
    simp at hlen
    omega

/-- With all probes recorded, what is returned reports them. -/
theorem reported (hrange : c.ttlBegin ≤ c.ttlEnd) :
    ∃ k, Reported c target s (collectResults target s.ttlToProbeResults) k := by
  have hbe : c.ttlBegin.toNat ≤ c.ttlEnd.toNat := UInt32.le_iff_toNat_le.mp hrange
  have hall : (s.ttlToProbeResults.entries.map fun kv => (⟨kv.1, kv.2⟩ : TracerouteResult)).map (·.ttl.toNat) =
      List.range' c.ttlBegin.toNat (c.ttlEnd.toNat + 1 - c.ttlBegin.toNat) := by
    rw [List.map_map]
    exact map_ttl_entries hc hpos hretries
  have hmem : ∀ tr ∈ s.ttlToProbeResults.entries.map fun kv => (⟨kv.1, kv.2⟩ : TracerouteResult),
      tr.probeResults = s.resultsOf tr.ttl := by
    intro tr htr
    obtain ⟨⟨ttl, v⟩, hv, rfl⟩ := List.mem_map.mp htr
    exact (hc.mem_entries.mp hv).1
  obtain ⟨k, hbk, hke, httls, hlast, hfirst⟩ := cutAfterTarget_range target hall (by omega)
  rw [← collectResults_eq] at httls
  have hsub : ∀ tr ∈ collectResults target s.ttlToProbeResults,
      tr ∈ s.ttlToProbeResults.entries.map fun kv => (⟨kv.1, kv.2⟩ : TracerouteResult) := fun tr htr => by
    rw [collectResults_eq] at htr
    exact List.mem_of_mem_take htr
  have hlisted : ∀ tr ∈ collectResults target s.ttlToProbeResults, c.ttlBegin.toNat ≤ tr.ttl.toNat ∧
      tr.ttl.toNat ≤ c.ttlEnd.toNat := fun tr htr => by
    have := List.mem_range'_1.mp (hall ▸ List.mem_map_of_mem (hsub tr htr))
    omega
  refine ⟨k, hbk, by omega, httls, ?_, fun ttl hlt hans => ?_, fun tr htr => ?_, fun tr htr => ?_⟩
  · rcases hlast with hlast | ⟨tr, htr, rfl, hany⟩
    · exact Or.inl (by omega)
    · obtain ⟨result, hresult, hsent⟩ := List.any_eq_true.mp hany
      rw [hmem tr htr] at hresult
      obtain ⟨r, hr, rfl⟩ := List.mem_map.mp hresult
      obtain ⟨hr, httl⟩ := List.mem_filter.mp hr
      exact Or.inr ⟨r, hr, congrArg UInt32.toNat (eq_of_beq httl), hsent⟩
  · obtain ⟨r, hr, rfl, hsent⟩ := hans
    have hentry : (r.probe.ttl, s.resultsOf r.probe.ttl) ∈ s.ttlToProbeResults.entries :=
      hc.mem_entries.mpr ⟨rfl, List.ne_nil_of_mem (List.mem_map_of_mem (List.mem_filter.mpr ⟨hr, by simp⟩))⟩
    have hno := hfirst _ (List.mem_map_of_mem hentry) hlt
    rw [List.any_eq_false] at hno
    exact hno r.result (List.mem_map_of_mem (List.mem_filter.mpr ⟨hr, by simp⟩)) hsent
  · obtain ⟨hb, he⟩ := hlisted tr htr
    rw [hmem tr (hsub tr htr), State.resultsOf, List.length_map]
    simpa using (retries_of_positions hpos hb he).length_eq
  · obtain ⟨hb, he⟩ := hlisted tr htr
    exact ⟨_, List.filter_sublist, hmem tr (hsub tr htr), fun r hr => eq_of_beq (List.mem_filter.mp hr).2,
      retries_of_positions hpos hb he⟩

end Reported

/-! ### Runs that the deadline does not end -/

/-- The receive loop is not left by its deadline while results are missing; and `createPacket` does not throw
    in `sendPackets` when its loop over the ttls has no end. -/
def onTime (c : Call) (s : State) : Action → Bool
  | .receiver .testLoop =>
    match s.receiver with
    | .loopHead beginAt =>
      c.expectedSize ≤ s.getCurrentSize.toNat || getTimeLeft s.now beginAt c.expectedMaxTimeTaken > 0
    | _ => true
  | .sender (.createPacket (.error _)) => c.ttlEnd.toNat + 1 < 2 ^ 32
  | _ => true

/-- `trySending` returns, and it returns `true`. -/
def sends : Action → Bool
  | .sender (.trySendingReturns (.ok sent)) => sent
  | .sender (.trySendingReturns (.error _)) => false
  | _ => true

/-- The receiver has left its loop, other than by an exception. -/
def Receiver.leftLoop : Receiver → Bool
  | .postprocessing | .returned _ => true
  | _ => false

/-- The receiver has left its loop only with all results there. -/
def Counted (c : Call) (s : State) : Prop := s.receiver.leftLoop = true → c.expectedSize ≤ s.getCurrentSize.toNat

theorem step_counted {a : Action} (ontime : onTime c s a = true) (h : Counted c s)
    (hs : (machine packets c).step s a = some t) : Counted c t := by
  cases a with
  | tick d =>
    obtain rfl := Option.some.inj hs
    exact h
  | sender a =>
    have m := senderStep_move hs
    intro hleft
    rw [State.getCurrentSize, m.ttlToProbeResults]
    exact h (m.receiver ▸ hleft)
  | receiver a =>
    intro hleft
    cases receiverStep_move hs with
    | @leave beginAt pc off =>
      rcases Nat.lt_or_ge s.getCurrentSize.toNat c.expectedSize with hlt | hge
      · simp [onTime, pc, Nat.not_le_of_lt hlt] at ontime
        simp [State.goesOn, hlt] at off
        omega
      · exact hge
    | return_ pc => exact h (by rw [pc]; rfl)
    | _ => cases hleft

/-- `sendPackets` does not end when every ttl is in its range and nothing throws. -/
theorem step_sending {a : Action} (hend : c.ttlEnd.toNat + 1 = 2 ^ 32) (ontime : onTime c s a = true) (hsends : sends a = true)
    (h : s.sender.done = false) (hs : (machine packets c).step s a = some t) : t.sender.done = false := by
  cases a with
  | tick d =>
    obtain rfl := Option.some.inj hs
    exact h
  | sender a =>
    cases senderStep_move hs with
    | @finish ttl pc lt =>
      have := ttl.toNat_lt
      rw [UInt32.le_iff_toNat_le] at lt
      omega
    | createThrows pc lt => exact absurd hend (Nat.ne_of_lt (of_decide_eq_true ontime))
    | notSent pc => cases hsends
    | sendThrows pc => cases hsends
    | _ => rfl
  | receiver a => exact (receiverStep_move hs).sender ▸ h

theorem expectedSize_eq (hrange : c.ttlBegin ≤ c.ttlEnd)
    (hwrap : (c.ttlEnd.toNat - c.ttlBegin.toNat + 1) * c.retries.toNat < 2 ^ 32) : c.expectedSize = c.probeCount := by
  have hbe := UInt32.le_iff_toNat_le.mp hrange
  have hmod : (c.ttlEnd - c.ttlBegin + 1).toNat = (c.ttlEnd.toNat - c.ttlBegin.toNat + 1) % 2 ^ 32 := by
    rw [UInt32.toNat_add, UInt32.toNat_sub_of_le _ _ hrange, UInt32.toNat_one]
  rw [Call.expectedSize, UInt32.toNat_mul, hmod, Nat.mod_mul_mod, Nat.mod_eq_of_lt hwrap, Call.probeCount,
    show c.ttlEnd.toNat - c.ttlBegin.toNat + 1 = c.ttlEnd.toNat + 1 - c.ttlBegin.toNat by omega]

/-- A call on a new object reports every probe, if its loop is never left by the deadline with results
    missing. -/
theorem every_probe_reported (packets : Nat → Packet) (c : Call) (now : Int) (created : Nat) (buffer : Bytes)
    (target : SocketAddress) {as : List Action} {s : State} {results : List TracerouteResult}
    (hdest : ∀ n, (packets n).getDestinationAddress = target) (hrange : c.ttlBegin ≤ c.ttlEnd) (hretries : 1 ≤ c.retries)
    (hwrap : (c.ttlEnd.toNat - c.ttlBegin.toNat + 1) * c.retries.toNat < 2 ^ 32)
    (h : (machine packets c).exec (enter c now (.fresh created buffer)) as = some s) (hsends : ∀ a ∈ as, sends a = true)
    (hleft : s.left = true) (hreturned : s.receiver = .returned results)
    (hontime : (machine packets c).Along (onTime c · ·) (enter c now (.fresh created buffer)) as) :
    (∃ k, Reported c target s results k) ∧ ∀ r ∈ s.recorded, r.Explained packets := by
  have hend : c.ttlEnd.toNat + 1 < 2 ^ 32 := by
    by_contra hend
    have hmax : c.ttlEnd.toNat + 1 = 2 ^ 32 := by
      have := c.ttlEnd.toNat_lt
      omega
    have hdone := Machine.along_invariant (I := fun s => s.sender.done = false)
      (fun hP hI hst => step_sending hmax hP.1 hP.2 hI hst) rfl
      (hontime.and (Machine.along_of_forall hsends)) h
    simp [State.left, hdone] at hleft
  have hc : Conserved [] s := exec_conserved h (Conserved.enter (o := .fresh created buffer))
  have hsize : c.expectedSize ≤ s.getCurrentSize.toNat :=
    Machine.along_invariant step_counted (fun hl => by cases hl) hontime h (by rw [hreturned]; rfl)
  have hpos := hc.positions (exec_placed hend .enter h) (expectedSize_eq hrange hwrap ▸ hsize)
  obtain ⟨n, hres⟩ := exec_collected h (fun _ hr => by cases hr) results hreturned
  have hr : 0 < c.retries.toNat := UInt32.le_iff_toNat_le.mp hretries
  refine ⟨?_, exec_explained h fun r hr => by cases hr⟩
  rw [hres, hdest]
  exact reported hc hpos hr hrange

/-- The receiver leaves its loop and beginProbing returns. -/
def finishProbing : List Action :=
  [.receiver .testLoop, .sender .nextTtl, .sender .testTtl, .receiver (.postprocess (.ok ()))]

/-- The target answers with the first ttl, so that the second one is not reported. -/
theorem every_probe_reported_expired :
    ∃ s results, (machine bySize twoByTwo).exec (enter twoByTwo 0 (.fresh 0 fun _ => 0))
        (mixedRun ++ .receiver .sweep :: finishProbing) = some s ∧ s.receiver = .returned results ∧
      results = [⟨1, [successProbe 4 anyResponse.client, failedProbe 1004]⟩] ∧
      ∃ k, Reported twoByTwo (bySize 0).getDestinationAddress s results k := by
  obtain ⟨s, hs, hend⟩ := Option.map_eq_some_iff.mp (show ((machine bySize twoByTwo).exec
    (enter twoByTwo 0 (.fresh 0 fun _ => 0)) (mixedRun ++ .receiver .sweep :: finishProbing)).map
      (fun s => (s.left, s.receiver)) =
        some (true, .returned [⟨1, [successProbe 4 anyResponse.client, failedProbe 1004]⟩]) from rfl)
  obtain ⟨hleft, hreturned⟩ := Prod.mk.inj hend
  exact ⟨s, _, hs, hreturned, rfl, (every_probe_reported bySize _ _ _ _ _ (fun _ => rfl) (by decide) (by decide) (by decide) hs
    (by decide) hleft hreturned (by decide)).1⟩

/-- The deadline of a call with less than a millisecond per probe is over before it begins. -/
def noTimeRun : List Action :=
  [.receiver .readBeginAt, .receiver .testLoop, .receiver (.postprocess (.ok ())), .sender .testTtl] ++ sendProbe ++
    [.sender .nextTtl, .sender .testTtl]

/-- Every `trySending` returns `true`, and the probe is not reported. -/
theorem probe_not_reported : ∃ s,
    (machine (fun _ => deaf) ⟨1, 1, 1, 500⟩).exec (enter ⟨1, 1, 1, 500⟩ 0 (.fresh 0 fun _ => 0)) noTimeRun = some s ∧
    (∀ a ∈ noTimeRun, sends a = true) ∧ s.left = true ∧ s.receiver = .returned [] ∧
    ¬∃ k, Reported ⟨1, 1, 1, 500⟩ deaf.getDestinationAddress s [] k := by
  obtain ⟨s, hs, hend⟩ := Option.map_eq_some_iff.mp (show ((machine (fun _ => deaf) ⟨1, 1, 1, 500⟩).exec
    (enter ⟨1, 1, 1, 500⟩ 0 (.fresh 0 fun _ => 0)) noTimeRun).map (fun s => (s.left, s.receiver)) =
      some (true, .returned []) from rfl)
  obtain ⟨hleft, hreturned⟩ := Prod.mk.inj hend
  refine ⟨s, hs, by decide, hleft, hreturned, fun ⟨k, hk⟩ => ?_⟩
  have hle : 1 ≤ k := hk.begin_le
  have hlen := congrArg List.length hk.ttls
  rw [List.length_range', show (⟨1, 1, 1, 500⟩ : Call).ttlBegin.toNat = 1 from rfl, List.length_map] at hlen
  simp at hlen
  omega

end Traceroute.Fast
