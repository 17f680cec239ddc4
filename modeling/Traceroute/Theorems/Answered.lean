import Traceroute.Theorems.Conservation
import Traceroute.Theorems.FindValid
import Traceroute.Theorems.Time

/-! Which answers `FastTraceroute` records: an answer that arrives within its probe's window is recorded if
    the probe is registered by the time it is matched, and is lost otherwise. -/

namespace Traceroute.Fast

variable {packets : Nat → Packet} {c : Call} {s t : State} {o : Object}

/-! ### Failures -/

/-- A failure is recorded only for a probe whose window was over when the sweep looked at it. -/
structure Expired (c : Call) (s : State) : Prop where
  expiring : ∀ beginAt it p, s.receiver = .expiring beginAt it → s.mPacketsToBeValidated[it]? = some p →
    ∃ u ≤ s.now, getTimeLeft u p.sentAt c.timeout < MinTimeWaitForResponse
  failed : ∀ r ∈ s.recorded, r.result.success = false →
    ∃ u ≤ s.now, getTimeLeft u r.probe.sentAt c.timeout < MinTimeWaitForResponse

theorem Expired.enter {now : Int} : Expired c (enter c now o) where
  expiring beginAt it p hpc := by cases hpc
  failed r hr := by cases hr

theorem Expired.of_eq (h : Expired c s) (recorded : t.recorded = s.recorded) (now : s.now ≤ t.now)
    (expiring : ∀ beginAt it p, t.receiver = .expiring beginAt it → t.mPacketsToBeValidated[it]? = some p →
      s.receiver = .expiring beginAt it ∧ s.mPacketsToBeValidated[it]? = some p) : Expired c t where
  expiring beginAt it p hpc hp := by
    obtain ⟨hpc, hp⟩ := expiring beginAt it p hpc hp
    obtain ⟨u, hu, hl⟩ := h.expiring beginAt it p hpc hp
    exact ⟨u, Int.le_trans hu now, hl⟩
  failed r hr hf := by
    obtain ⟨u, hu, hl⟩ := h.failed r (recorded ▸ hr) hf
    exact ⟨u, Int.le_trans hu now, hl⟩

theorem Expired.receiverMove {a : ReceiverAction} (h : Expired c s) (m : ReceiverMove packets c s a t) :
    Expired c t := by
  cases m with
  | late pc at_ isOver =>
    refine ⟨fun beginAt it p hpc hp => ?_, h.failed⟩
    cases hpc
    rw [at_] at hp
    cases hp
    exact ⟨s.now, Int.le_refl _, isOver⟩
  | matched pc found at_ =>
    refine ⟨fun beginAt it p hpc => (by cases hpc), List.forall_mem_append.mpr ⟨h.failed, ?_⟩⟩
    exact List.forall_mem_singleton.mpr fun hf => by cases hf
  | expired pc at_ =>
    refine ⟨fun beginAt it p hpc => (by cases hpc), List.forall_mem_append.mpr ⟨h.failed, ?_⟩⟩
    exact List.forall_mem_singleton.mpr fun _ => h.expiring _ _ _ pc at_
  | call pc on => exact h.of_eq rfl (Int.le_refl _) fun _ _ _ hpc => by cases hpc
  | _ => exact h.of_eq rfl (Int.le_refl _) fun _ _ _ hpc => by cases hpc

/-- While the receiver holds the lock, the sender registers nothing. -/
theorem SenderMove.locked {a : SenderAction} (h : SenderMove c s a t) (locked : s.receiver.holdsMutex = true) :
    t.mPacketsToBeValidated = s.mPacketsToBeValidated := by
  cases h with
  | push pc free => rw [locked] at free; cases free
  | _ => rfl

theorem exec_expired {as : List Action} (h : (machine packets c).exec s as = some t) (hs : Expired c s) :
    Expired c t := by
  refine Machine.exec_invariant (fun {s t a} hs hst => ?_) hs h
  cases a with
  | tick d => exact hs.of_eq (by cases hst; rfl) (step_now hst) (by cases hst; exact fun _ _ _ hpc hp => ⟨hpc, hp⟩)
  | sender a =>
    have m := senderStep_move hst
    refine hs.of_eq m.recorded (step_now hst) fun beginAt it p hpc hp => ?_
    have hpc' : s.receiver = .expiring beginAt it := m.receiver ▸ hpc
    exact ⟨hpc', m.locked (by rw [hpc']; rfl) ▸ hp⟩
  | receiver a => exact hs.receiverMove (receiverStep_move hst)

/-! ### A probe that has been handed to `trySending` -/

/-- Packet `k` was handed to `trySending` at `sendAt`, as retry `i` of `ttl`. -/
structure Handed (k : Nat) (ttl i : UInt32) (sendAt : Int) (s : State) : Prop where
  now : sendAt ≤ s.now
  created : k < s.created
  held : s.sender.held = some k → s.sender = .sending ttl i k ∨ s.sender = .registering ttl i k
  pushed : ∀ p ∈ s.pushed, p.packet = k → p.ttl = ttl ∧ p.retry = i ∧ sendAt ≤ p.sentAt

section Handed
variable {k : Nat} {ttl i : UInt32} {sendAt : Int}

theorem Handed.of_send {left : List PacketToValidate} (hn : Numbered left s) (pc : s.sender = .created ttl i k)
    (h : (machine packets c).step s (.sender .trySending) = some t) : Handed k ttl i s.now t := by
  obtain ⟨hk, hne⟩ := hn.held k (by rw [pc]; rfl)
  have m : SenderMove c s .trySending t := senderStep_move h
  cases m with
  | send pc' =>
    rw [pc] at pc'
    cases pc'
    exact ⟨Int.le_refl _, hk, fun _ => Or.inl rfl, fun p hp hpk => absurd hpk (hne p (List.mem_append_right _ hp))⟩

theorem Handed.of_eq (h : Handed k ttl i sendAt s) (now : s.now ≤ t.now) (created : s.created ≤ t.created)
    (pushed : t.pushed = s.pushed) (held : t.sender.held = some k → t.sender = s.sender) :
    Handed k ttl i sendAt t where
  now := Int.le_trans h.now now
  created := Nat.lt_of_lt_of_le h.created created
  held hk := held hk ▸ h.held (held hk ▸ hk)
  pushed := pushed ▸ h.pushed

theorem step_handed {a : Action} (h : Handed k ttl i sendAt s) (hs : (machine packets c).step s a = some t) :
    Handed k ttl i sendAt t := by
  have hnow := step_now hs
  cases a with
  | tick d =>
    cases hs
    exact h.of_eq hnow (Nat.le_refl _) rfl fun _ => rfl
  | receiver a =>
    have m := receiverStep_move hs
    exact h.of_eq hnow m.created m.pushed fun _ => m.sender
  | sender a =>
    cases senderStep_move hs with
    | create pc lt =>
      -- The new packet has the next number, which is not `k`.
      exact h.of_eq hnow (Nat.le_succ _) rfl fun hk => absurd (Option.some.inj hk) (Nat.ne_of_gt h.created)
    | @send ttl' i' k' pc =>
      refine h.of_eq hnow (Nat.le_refl _) rfl fun hk => ?_
      obtain rfl := Option.some.inj hk
      rcases h.held (by rw [pc]; rfl) with hpc | hpc <;> rw [pc] at hpc <;> cases hpc
    | @sent ttl' i' k' pc =>
      refine ⟨h.now, h.created, fun hk => ?_, h.pushed⟩
      obtain rfl := Option.some.inj hk
      rcases h.held (by rw [pc]; rfl) with hpc | hpc <;> rw [pc] at hpc <;> cases hpc
      exact Or.inr rfl
    | @push ttl' i' k' pc free =>
      refine ⟨h.now, h.created, fun hk => (by cases hk), fun p hp hpk => ?_⟩
      rcases List.mem_append.mp hp with hp | hp
      · exact h.pushed p hp hpk
      · obtain rfl := List.mem_singleton.mp hp
        obtain rfl : k' = k := hpk
        rcases h.held (by rw [pc]; rfl) with hpc | hpc <;> rw [pc] at hpc <;> cases hpc
        exact ⟨rfl, rfl, h.now⟩
    | _ => exact h.of_eq hnow (Nat.le_refl _) rfl fun hk => by cases hk

theorem exec_handed {as : List Action} (h : Handed k ttl i sendAt s) (hs : (machine packets c).exec s as = some t) :
    Handed k ttl i sendAt t :=
  Machine.exec_invariant (fun hu hv => step_handed hu hv) h hs

/-- Within its window a registered probe is outstanding, unless it has been answered. -/
theorem Handed.outstanding {left : List PacketToValidate} (h : Handed k ttl i sendAt s) (hc : Conserved left s)
    (he : Expired c s) (inTime : s.now ≤ sendAt + (c.timeout - MinTimeWaitForResponse) * 1000)
    (unanswered : ∀ r ∈ s.recorded, r.probe.packet = k → r.result.success = false)
    (registered : k ∈ s.pushed.map (·.packet)) : ∃ p ∈ s.mPacketsToBeValidated, p.packet = k := by
  obtain ⟨p, hp, hpk⟩ := List.mem_map.mp registered
  rcases List.mem_append.mp (hc.perm.mem_iff.mp (List.mem_append_right _ hp)) with hout | hrec
  · exact ⟨p, hout, hpk⟩
  · obtain ⟨r, hr, rfl⟩ := List.mem_map.mp hrec
    obtain ⟨u, hu, hleft⟩ := he.failed r hr (unanswered r hr hpk)
    have hover := lt_of_getTimeLeft_lt hleft
    have hsent := (h.pushed _ hp hpk).2.2
    omega

end Handed

/-! ### The match of an answer -/

/-- From the return of `tryReceiving` to the match, while no time passes. -/
def Settling (respInfo : ResponseInfo) (buffer : Bytes) (now : Int) (s : State) : Prop :=
  s.mBuffer = buffer ∧ s.now = now ∧ ∃ beginAt,
    s.receiver = .locking beginAt (some respInfo) ∨ s.receiver = .matching beginAt (some respInfo)

theorem exec_settling {respInfo : ResponseInfo} {buffer : Bytes} {now : Int} {as : List Action}
    (h : (machine packets c).exec s as = some t) (atOnce : ∀ a ∈ as, a = .receiver .lock ∨ ∃ b, a = .sender b)
    (hs : Settling respInfo buffer now s) : Settling respInfo buffer now t := by
  refine Machine.along_invariant (fun {s t a} ha hs hst => ?_) hs (Machine.along_of_forall atOnce) h
  obtain ⟨hb, hn, beginAt, hpc⟩ := hs
  rcases ha with rfl | ⟨b, rfl⟩
  · have m : ReceiverMove packets c s .lock t := receiverStep_move hst
    cases m with
    | lock pc =>
      rcases hpc with hpc | hpc <;> rw [pc] at hpc <;> cases hpc
      exact ⟨hb, hn, beginAt, Or.inr rfl⟩
  · have m := senderStep_move hst
    refine ⟨?_, m.now.trans hn, beginAt, m.receiver ▸ hpc⟩
    cases m <;> exact hb

/-- The match records a success for the probe that `find_if` finds, or nothing. -/
theorem Settling.matchResponse {respInfo : ResponseInfo} {buffer : Bytes} {now : Int}
    (h : Settling respInfo buffer now s) (m : ReceiverMove packets c s .matchResponse t) :
    (t.recorded = s.recorded ∧
      ∀ it, findValid packets respInfo buffer s.mPacketsToBeValidated ≠ .ok (some it)) ∨
    ∃ it probe, findValid packets respInfo buffer s.mPacketsToBeValidated = .ok (some it) ∧
      s.mPacketsToBeValidated[it]? = some probe ∧
      t.recorded = s.recorded ++ [⟨probe, successProbe (getTimePassedTillNow s.now probe.sentAt) respInfo.client,
        some (respInfo, buffer)⟩] := by
  obtain ⟨rfl, -, beginAt, hpc⟩ := h
  cases m with
  | matched pc found at_ =>
    rcases hpc with hpc | hpc <;> rw [pc] at hpc <;> cases hpc
    exact Or.inr ⟨_, _, found, at_, rfl⟩
  | nothing pc => rcases hpc with hpc | hpc <;> rw [pc] at hpc <;> cases hpc
  | unmatched pc found =>
    rcases hpc with hpc | hpc <;> rw [pc] at hpc <;> cases hpc
    exact Or.inl ⟨rfl, fun it h => by rw [found] at h; cases h⟩
  | matchThrows pc found =>
    rcases hpc with hpc | hpc <;> rw [pc] at hpc <;> cases hpc
    exact Or.inl ⟨rfl, fun it h => by rw [found] at h; cases h⟩

theorem mem_of_mem_takeWhile {α : Type} {f : α → Bool} {x y : α} {l₁ l₂ : List α} (hx : f x = false)
    (h : y ∈ (l₁ ++ x :: l₂).takeWhile f) : y ∈ l₁ := by
  induction l₁ with
  | nil => simp [hx] at h
  | cons z l₁ ih =>
    rw [List.cons_append, List.takeWhile_cons] at h
    split at h
    · rcases List.mem_cons.mp h with rfl | h
      · exact List.mem_cons_self
      · exact List.mem_cons_of_mem _ (ih h)
    · cases h

/-- Whatever `find_if` finds, no `isValid` has thrown on the way to it. -/
theorem not_error_of_findValid {respInfo : ResponseInfo} {buffer : Bytes} {l : List PacketToValidate} {it : Nat}
    {probe : PacketToValidate} (found : findValid packets respInfo buffer l = .ok (some it)) (at_ : l[it]? = some probe) :
    ∀ p ∈ l.takeWhile (·.packet != probe.packet), ∀ e, (packets p.packet).isValid respInfo buffer ≠ .error e := by
  intro p hp e
  obtain ⟨front, rest, hl, -, -, hfront⟩ := findValid_at found at_
  rw [hl] at hp
  rw [hfront p (mem_of_mem_takeWhile (by simp) hp)]
  simp

/-- `find_if` finds the only probe that accepts the response, unless an `isValid` throws on the way to it. -/
theorem findValid_of_accepted {respInfo : ResponseInfo} {buffer : Bytes} {l : List PacketToValidate}
    {p : PacketToValidate} (hnodup : (l.map (·.packet)).Nodup) (hp : p ∈ l)
    (accepted : (packets p.packet).isValid respInfo buffer = .ok true)
    (others : ∀ q ∈ l, q.packet ≠ p.packet → (packets q.packet).isValid respInfo buffer ≠ .ok true)
    (nothrow : ∀ q ∈ l.takeWhile (·.packet != p.packet), ∀ e, (packets q.packet).isValid respInfo buffer ≠ .error e) :
    ∃ it, findValid packets respInfo buffer l = .ok (some it) ∧ l[it]? = some p := by
  obtain ⟨front, rest, rfl⟩ := List.append_of_mem hp
  -- The probes in front of it have other packets, refuse the response and do not throw.
  have hne : ∀ q ∈ front, q.packet ≠ p.packet := fun q hq => by
    rw [List.map_append] at hnodup
    exact (List.nodup_append.mp hnodup).2.2 q.packet (List.mem_map_of_mem hq) p.packet (by simp)
  have htake : (front ++ p :: rest).takeWhile (·.packet != p.packet) = front := by
    rw [List.takeWhile_append_of_pos fun q hq => by simpa using hne q hq]
    simp
  refine ⟨front.length, findValid_eq_some.mpr ⟨front, p, rest, rfl, rfl, accepted, fun q hq => ?_⟩, by simp⟩
  cases hv : (packets q.packet).isValid respInfo buffer with
  | error e => exact absurd hv (nothrow q (by rwa [htake]) e)
  | ok v =>
    cases v with
    | false => rfl
    | true => exact absurd hv (others q (by simp [hq]) (hne q hq))

/-- An answer that arrives within its probe's window and is matched at once is recorded for the probe, which
    never counts as failed, exactly when the probe has been registered by then and no `isValid` throws on the
    way to it. -/
theorem answer_recorded_iff (packets : Nat → Packet) (c : Call) (now : Int) (o : Object) (k : Nat) (ttl i : UInt32)
    (respInfo : ResponseInfo) (buffer : Bytes) {before waiting settling : List Action} {s₁ s₂ s₃ s₄ s₅ s₆ : State}
    (hrun : (machine packets c).exec (enter c now o) before = some s₁) (hk : s₁.sender = .created ttl i k)
    (hsend : (machine packets c).step s₁ (.sender .trySending) = some s₂)
    (hwait : (machine packets c).exec s₂ waiting = some s₃)
    (hreceive : (machine packets c).step s₃ (.receiver (.tryReceivingReturns (.ok (some respInfo)) buffer)) = some s₄)
    (inTime : s₃.now ≤ s₁.now + (c.timeout - MinTimeWaitForResponse) * 1000)
    (hsettle : (machine packets c).exec s₄ settling = some s₅)
    (atOnce : ∀ a ∈ settling, a = .receiver .lock ∨ ∃ b, a = .sender b)
    (hmatch : (machine packets c).step s₅ (.receiver .matchResponse) = some s₆)
    (accepted : (packets k).isValid respInfo buffer = .ok true)
    (others : ∀ p ∈ s₅.mPacketsToBeValidated, p.packet ≠ k → (packets p.packet).isValid respInfo buffer ≠ .ok true)
    (unanswered : ∀ r ∈ s₅.recorded, r.probe.packet = k → r.result.success = false) :
    ((∃ r ∈ s₆.recorded, r.probe.packet = k ∧ r.probe.ttl = ttl ∧ r.result.success = true ∧
        r.result.responseSender = some respInfo.client ∧ r.result ∈ (s₆.ttlToProbeResults.get? ttl).getD []) ∧
      ∀ as t, (machine packets c).exec s₆ as = some t →
        ∀ r ∈ t.recorded, r.probe.packet = k → r.result.success = true) ↔
    k ∈ s₅.pushed.map (·.packet) ∧ ∀ p ∈ s₅.mPacketsToBeValidated.takeWhile (·.packet != k), ∀ e,
      (packets p.packet).isValid respInfo buffer ≠ .error e := by
  -- The invariants at the states of the run.
  have hn₁ := exec_numbered hrun .enter
  have hto₅ : (machine packets c).exec s₁ (.sender .trySending :: waiting ++
      .receiver (.tryReceivingReturns (.ok (some respInfo)) buffer) :: settling) = some s₅ :=
    Machine.exec_append (Machine.exec_cons_eq_some.mpr ⟨s₂, hsend, hwait⟩)
      (Machine.exec_cons_eq_some.mpr ⟨s₄, hreceive, hsettle⟩)
  have hn₅ := exec_numbered hto₅ hn₁
  have hc₅ := exec_conserved hto₅ (exec_conserved hrun .enter)
  have he₅ := exec_expired hto₅ (exec_expired hrun .enter)
  have hh₅ : Handed k ttl i s₁.now s₅ := exec_handed (exec_handed (Handed.of_send hn₁ hk hsend) hwait)
    (Machine.exec_cons_eq_some.mpr ⟨s₄, hreceive, hsettle⟩)
  have hset : Settling respInfo buffer s₃.now s₅ := by
    refine exec_settling hsettle atOnce ?_
    have m : ReceiverMove packets c s₃ (.tryReceivingReturns (.ok (some respInfo)) buffer) s₄ :=
      receiverStep_move hreceive
    cases m with
    | receive pc => exact ⟨rfl, rfl, _, Or.inl rfl⟩
  have hmatched := hset.matchResponse (receiverStep_move (c := c) hmatch)
  have hc₆ : Conserved o.mPacketsToBeValidated s₆ := hc₅.move (step_ledger hmatch)
  have hn₆ : Numbered o.mPacketsToBeValidated s₆ := exec_numbered (Machine.exec_singleton.trans hmatch) hn₅
  -- Probes of packet `k` are this call's.
  have hmine : ∀ p ∈ s₅.mPacketsToBeValidated, p.packet = k → p ∈ s₅.pushed := fun p hp hpk => by
    rcases List.mem_append.mp (hc₅.perm.mem_iff.mpr (List.mem_append_left _ hp)) with hleft | hpushed
    · exact absurd hpk ((hn₁.held k (by rw [hk]; rfl)).2 p (List.mem_append_left _ hleft))
    · exact hpushed
  constructor
  · rintro ⟨⟨r, hr, hrk, -, hsucc, -⟩, -⟩
    -- The result is not among the earlier ones, so the match has recorded it.
    have hnew : r ∉ s₅.recorded := fun hr₅ => by simp [unanswered r hr₅ hrk] at hsucc
    rcases hmatched with ⟨hsame, -⟩ | ⟨it, probe, found, at_, hrec⟩
    · exact absurd (hsame ▸ hr) hnew
    rw [hrec] at hr
    obtain rfl := List.mem_singleton.mp ((List.mem_append.mp hr).resolve_left hnew)
    obtain rfl : probe.packet = k := hrk
    exact ⟨List.mem_map_of_mem (hmine probe (List.mem_of_getElem? at_) rfl), not_error_of_findValid found at_⟩
  · rintro ⟨registered, nothrow⟩
    have inTime₅ : s₅.now ≤ s₁.now + (c.timeout - MinTimeWaitForResponse) * 1000 := by rw [hset.2.1]; exact inTime
    obtain ⟨p, hp, rfl⟩ := hh₅.outstanding hc₅ he₅ inTime₅ unanswered registered
    have hnodup : (s₅.mPacketsToBeValidated.map (·.packet)).Nodup := by
      have hall := hc₅.nodup hn₅
      rw [List.map_append] at hall
      exact (List.nodup_append.mp hall).1
    obtain ⟨it', hfound, hat⟩ := findValid_of_accepted hnodup hp accepted others nothrow
    rcases hmatched with ⟨-, hnone⟩ | ⟨it, probe, found, at_, hrec⟩
    · exact absurd hfound (hnone _)
    obtain rfl := Option.some.inj (Except.ok.inj (hfound.symm.trans found))
    obtain rfl := Option.some.inj (hat.symm.trans at_)
    -- Its result is recorded, and no other one of packet `k` ever is.
    have hr : (⟨p, _, _⟩ : Record) ∈ s₆.recorded := hrec ▸ List.mem_append_right _ List.mem_cons_self
    have httl : p.ttl = ttl := (hh₅.pushed p (hmine p hp rfl) rfl).1
    refine ⟨⟨_, hr, rfl, httl, rfl, rfl, ?_⟩, fun as t ht r' hr' hr'k => ?_⟩
    · rw [hc₆.grouped]
      exact List.mem_map.mpr ⟨_, List.mem_filter.mpr ⟨hr, by simp [httl]⟩, rfl⟩
    · have hsame := (exec_conserved ht hc₆).recorded_inj (exec_numbered ht hn₆) hr'
        ((exec_recorded ht).subset hr) hr'k
      rw [hsame]
      rfl

/-- A packet that accepts everything. -/
def eager : Packet := ⟨⟨Vector.replicate 128 0⟩, fun _ _ => .ok true⟩

/-- One probe, with a window of a millisecond. -/
def oneProbe : Call := ⟨1, 1, 1, 1000⟩

/-- The states of a run in which the answer comes as soon as the probe is sent: its packet is created, it is
    sent, it may be registered (`ps`), and the receiver stands at `receiver`. -/
def firstProbe (sender : Sender) (ps : List PacketToValidate) (receiver : Receiver) : State :=
  { enter oneProbe 0 (.fresh 0 fun _ => 0) with
    created := 1, sender := sender, receiver := receiver, mPacketsToBeValidated := ps, pushed := ps,
    sent := match sender with
      | .created .. => []
      | _ => [(1, 0)] }

/-- The probe is registered before its answer is matched. -/
theorem answer_recorded_iff_registered :
    ∃ t, (machine (fun _ => eager) oneProbe).step (firstProbe (.retryLoop 1 1) [⟨0, 0, 1, 0⟩]
        (.matching 0 (some anyResponse))) (.receiver .matchResponse) = some t ∧
      ∃ r ∈ t.recorded, r.probe.packet = 0 ∧ r.result.success = true := by
  obtain ⟨⟨r, hr, hk, -, hs, -⟩, -⟩ := (@answer_recorded_iff (fun _ => eager) oneProbe 0 (.fresh 0 fun _ => 0) 0 1 0
    anyResponse (fun _ => 0) [.sender .testTtl, .sender (.createPacket (.ok ()))]
    [.sender (.trySendingReturns (.ok true)), .sender .pushBack, .receiver .readBeginAt, .receiver .testLoop]
    [.receiver .lock] (firstProbe (.created 1 0 0) [] .entering) (firstProbe (.sending 1 0 0) [] .entering)
    (firstProbe (.retryLoop 1 1) [⟨0, 0, 1, 0⟩] (.receiving 0 0))
    (firstProbe (.retryLoop 1 1) [⟨0, 0, 1, 0⟩] (.locking 0 (some anyResponse)))
    (firstProbe (.retryLoop 1 1) [⟨0, 0, 1, 0⟩] (.matching 0 (some anyResponse))) _
    rfl rfl rfl rfl rfl (by decide) rfl (by simp) rfl rfl (by simp [firstProbe, enter]) (by simp [firstProbe, enter])).mpr
      ⟨by simp [firstProbe], by simp [firstProbe, eager]⟩
  exact ⟨_, rfl, r, hr, hk, hs⟩

/-- What happens when the answer is matched between `trySending` and `push_back`: the receiver finds no probe
    for it, and the probe that is registered afterwards fails. -/
def lateRegistration : List Action :=
  [.receiver .sweep, .sender (.trySendingReturns (.ok true)), .sender .pushBack] ++ receiveNothing 1000000 ++
    [.receiver .sweep, .receiver .expire]

/-- An answer to the probe is received as soon as the probe is sent, and the probe is recorded as failed. -/
theorem answer_lost : ∃ s₁ s₂ s₃ s₄ s₅ s₆ t,
    (machine (fun _ => eager) oneProbe).exec (enter oneProbe 0 (.fresh 0 fun _ => 0))
      [.sender .testTtl, .sender (.createPacket (.ok ()))] = some s₁ ∧ s₁.sender = .created 1 0 0 ∧
    (machine (fun _ => eager) oneProbe).step s₁ (.sender .trySending) = some s₂ ∧
    (machine (fun _ => eager) oneProbe).exec s₂ [.receiver .readBeginAt, .receiver .testLoop] = some s₃ ∧
    (machine (fun _ => eager) oneProbe).step s₃
      (.receiver (.tryReceivingReturns (.ok (some anyResponse)) fun _ => 0)) = some s₄ ∧
    s₃.now ≤ s₁.now + (oneProbe.timeout - MinTimeWaitForResponse) * 1000 ∧
    (machine (fun _ => eager) oneProbe).exec s₄ [.receiver .lock] = some s₅ ∧
    (machine (fun _ => eager) oneProbe).step s₅ (.receiver .matchResponse) = some s₆ ∧
    eager.isValid anyResponse (fun _ => 0) = .ok true ∧ s₅.mPacketsToBeValidated = [] ∧ s₅.recorded.length = 0 ∧
    (machine (fun _ => eager) oneProbe).exec s₆ lateRegistration = some t ∧
    (t.recorded.map fun r => (r.probe.packet, r.result.success)) = [(0, false)] :=
  ⟨firstProbe (.created 1 0 0) [] .entering, firstProbe (.sending 1 0 0) [] .entering,
    firstProbe (.sending 1 0 0) [] (.receiving 0 0), firstProbe (.sending 1 0 0) [] (.locking 0 (some anyResponse)),
    firstProbe (.sending 1 0 0) [] (.matching 0 (some anyResponse)), _, _,
    rfl, rfl, rfl, rfl, rfl, by decide, rfl, rfl, rfl, rfl, rfl, rfl, rfl⟩

end Traceroute.Fast
