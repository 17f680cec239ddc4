import Traceroute.Theorems.Results
import Traceroute.Theorems.Windows

/-! The order of the results of a ttl. They are appended as the probes are answered or expire, so they are in the order of
    the retries as long as each of them takes the first outstanding probe of the call with its ttl. -/

namespace Traceroute.Fast

variable {packets : Nat → Packet} {c : Call} {s t : State} {created : Nat} {ttl : UInt32} {as : List Action}

/-! ### Lists -/

section
variable {α : Type} {l : List α} {f : α → Bool} {it : Nat} {x : α}

theorem eraseIdx_split (at_ : l[it]? = some x) : l = l.take it ++ x :: l.drop (it + 1) ∧
    l.eraseIdx it = l.take it ++ l.drop (it + 1) := by
  obtain ⟨hit, rfl⟩ := List.getElem?_eq_some_iff.mp at_
  refine ⟨?_, List.eraseIdx_eq_take_drop_succ l it⟩
  rw [← List.drop_eq_getElem_cons hit, List.take_append_drop]

/-- The first element that passes is taken off the front of those that pass. -/
theorem filter_eraseIdx_of_first (at_ : l[it]? = some x) (hx : f x = true) (first : ∀ y ∈ l.take it, f y = false) :
    l.filter f = x :: (l.eraseIdx it).filter f := by
  obtain ⟨hl, herase⟩ := eraseIdx_split at_
  have hnone : (l.take it).filter f = [] := List.filter_eq_nil_iff.mpr fun y hy => by simp [first y hy]
  calc l.filter f = (l.take it ++ x :: l.drop (it + 1)).filter f := congrArg _ hl
    _ = x :: (l.drop (it + 1)).filter f := by rw [List.filter_append, hnone, List.nil_append, List.filter_cons_of_pos hx]
    _ = x :: (l.eraseIdx it).filter f := by rw [herase, List.filter_append, hnone, List.nil_append]

theorem filter_eraseIdx_of_not (at_ : l[it]? = some x) (hx : f x = false) : (l.eraseIdx it).filter f = l.filter f := by
  obtain ⟨hl, herase⟩ := eraseIdx_split at_
  have hnot : ¬f x = true := by simp [hx]
  calc (l.eraseIdx it).filter f = (l.take it ++ l.drop (it + 1)).filter f := congrArg _ herase
    _ = (l.take it ++ x :: l.drop (it + 1)).filter f := by
      rw [List.filter_append, List.filter_append, List.filter_cons_of_neg hnot]
    _ = l.filter f := congrArg _ hl.symm

end

/-! ### The steps that record -/

/-- The position of the outstanding probe whose result the step records. -/
def recordsAt (packets : Nat → Packet) (s : State) : Action → Option Nat
  | .receiver .matchResponse =>
    match s.receiver with
    | .matching _ (some respInfo) =>
      match findValid packets respInfo s.mBuffer s.mPacketsToBeValidated with
      | .ok it => it
      | .error _ => none
    | _ => none
  | .receiver .expire =>
    match s.receiver with
    | .expiring _ it => some it
    | _ => none
  | _ => none

/-- The probe is one of `ttl`, and its packet has been created by the call that `created` packets precede. -/
def PacketToValidate.own (created : Nat) (ttl : UInt32) (p : PacketToValidate) : Bool := p.ttl == ttl && created ≤ p.packet

/-- A probe of `ttl` whose result the step records is one of the call, and none of the call with this ttl is outstanding
    in front of it. -/
def takesFirst (packets : Nat → Packet) (created : Nat) (ttl : UInt32) (s : State) (a : Action) : Bool :=
  match recordsAt packets s a with
  | none => true
  | some it =>
    match s.mPacketsToBeValidated[it]? with
    | none => true
    | some probe => probe.ttl != ttl || (probe.own created ttl && (s.mPacketsToBeValidated.take it).all (!·.own created ttl))

/-- A step keeps the probes and the results, registers a probe, or records a result of an outstanding one. -/
inductive QueueMove (packets : Nat → Packet) (s : State) (a : Action) (t : State) : Prop where
  | still (records : recordsAt packets s a = none) (packets : t.mPacketsToBeValidated = s.mPacketsToBeValidated)
      (pushed : t.pushed = s.pushed) (recorded : t.recorded = s.recorded)
  | push (probe : PacketToValidate) (pc : s.sender = .registering probe.ttl probe.retry probe.packet)
      (records : recordsAt packets s a = none)
      (packets : t.mPacketsToBeValidated = s.mPacketsToBeValidated ++ [probe]) (pushed : t.pushed = s.pushed ++ [probe])
      (recorded : t.recorded = s.recorded)
  | record (it : Nat) (r : Record) (at_ : s.mPacketsToBeValidated[it]? = some r.probe)
      (records : recordsAt packets s a = some it)
      (packets : t.mPacketsToBeValidated = s.mPacketsToBeValidated.eraseIdx it) (pushed : t.pushed = s.pushed)
      (recorded : t.recorded = s.recorded ++ [r])

theorem step_queue {a : Action} (h : (machine packets c).step s a = some t) : QueueMove packets s a t := by
  cases a with
  | tick d =>
    obtain rfl := Option.some.inj h
    exact .still rfl rfl rfl rfl
  | sender a =>
    cases senderStep_move h with
    | push pc free => exact .push _ pc rfl rfl rfl rfl
    | _ => exact .still rfl rfl rfl rfl
  | receiver a =>
    cases receiverStep_move h with
    | nothing pc => exact .still (by simp [recordsAt, pc]) rfl rfl rfl
    | unmatched pc found => exact .still (by simp [recordsAt, pc, found]) rfl rfl rfl
    | matchThrows pc found => exact .still (by simp [recordsAt, pc, found]) rfl rfl rfl
    | matched pc found at_ => exact .record _ ⟨_, _, _⟩ at_ (by simp [recordsAt, pc, found]) rfl rfl rfl
    | expired pc at_ => exact .record _ ⟨_, _, _⟩ at_ (by simp [recordsAt, pc]) rfl rfl rfl
    | _ => exact .still rfl rfl rfl rfl

/-! ### First in, first out -/

/-- The probes of a ttl that have been recorded are those of the call; they, and then those outstanding, are those
    registered, in order. -/
structure InOrder (created : Nat) (ttl : UInt32) (s : State) : Prop where
  own : ∀ r ∈ s.recorded, r.probe.ttl = ttl → created ≤ r.probe.packet
  queue : (s.recorded.filter (·.probe.ttl == ttl)).map (·.probe) ++ s.mPacketsToBeValidated.filter (·.own created ttl) =
    s.pushed.filter (·.ttl == ttl)

theorem InOrder.enter {now : Int} {o : Object} : InOrder o.created ttl (enter c now o) where
  own r hr := by cases hr
  queue := List.filter_eq_nil_iff.mpr fun p hp => by
    have := o.below p hp
    simp [PacketToValidate.own, Nat.not_le_of_lt this]

/-- The packets of the probes that the call registers are created by it. -/
structure Since (created : Nat) (s : State) : Prop where
  le : created ≤ s.created
  held : ∀ k, s.sender.held = some k → created ≤ k

theorem Since.enter {now : Int} {o : Object} : Since o.created (enter c now o) :=
  ⟨Nat.le_refl _, fun k hk => by cases hk⟩

theorem step_since {a : Action} (h : Since created s) (hst : (machine packets c).step s a = some t) : Since created t := by
  cases a with
  | tick d =>
    obtain rfl := Option.some.inj hst
    exact ⟨h.le, h.held⟩
  | sender a =>
    cases senderStep_move hst with
    | create pc lt =>
      refine ⟨Nat.le_succ_of_le h.le, fun k hk => ?_⟩
      obtain rfl := Option.some.inj hk
      exact h.le
    | send pc => exact ⟨h.le, fun k hk => h.held k (by rw [pc]; exact hk)⟩
    | sent pc => exact ⟨h.le, fun k hk => h.held k (by rw [pc]; exact hk)⟩
    | _ => exact ⟨h.le, fun k hk => by cases hk⟩
  | receiver a =>
    have m := receiverStep_move hst
    exact ⟨Nat.le_trans h.le m.created, fun k hk => h.held k (m.sender ▸ hk)⟩

theorem step_inOrder {a : Action} (first : takesFirst packets created ttl s a = true) (hsince : Since created s)
    (h : InOrder created ttl s) (hst : (machine packets c).step s a = some t) : InOrder created ttl t := by
  obtain ⟨hown, hqueue⟩ := h
  cases step_queue hst with
  | still hrecords hpackets hpushed hrecorded =>
    refine ⟨hrecorded ▸ hown, ?_⟩
    rwa [hpackets, hpushed, hrecorded]
  | push probe pc hrecords hpackets hpushed hrecorded =>
    have hprobe : created ≤ probe.packet := hsince.held _ (by rw [pc]; rfl)
    have hsame : [probe].filter (·.own created ttl) = [probe].filter (·.ttl == ttl) :=
      List.filter_congr fun p hp => by simp [PacketToValidate.own, List.mem_singleton.mp hp, hprobe]
    refine ⟨hrecorded ▸ hown, ?_⟩
    rw [hpackets, hpushed, hrecorded, List.filter_append, List.filter_append, ← List.append_assoc, hqueue, hsame]
  | record it r at_ hrecords hpackets hpushed hrecorded =>
    simp only [takesFirst, hrecords, at_, Bool.or_eq_true, bne_iff_ne, Bool.and_eq_true, List.all_eq_true,
      Bool.not_eq_true'] at first
    constructor
    · rw [hrecorded]
      refine List.forall_mem_append.mpr ⟨hown, List.forall_mem_singleton.mpr fun hr => ?_⟩
      exact of_decide_eq_true (Bool.and_eq_true_iff.mp (first.resolve_left (not_not_intro hr)).1).2
    · rw [hpackets, hpushed, hrecorded, ← hqueue, List.filter_append, List.map_append, List.append_assoc]
      congr 1
      by_cases hr : r.probe.ttl = ttl
      · obtain ⟨hprobe, hfirst⟩ := first.resolve_left (not_not_intro hr)
        rw [filter_eraseIdx_of_first (f := (·.own created ttl)) at_ hprobe hfirst]
        simp [hr]
      · rw [filter_eraseIdx_of_not (f := (·.own created ttl)) at_ (by simp [PacketToValidate.own, hr])]
        simp [hr]

/-! ### The retries that are registered -/

/-- `n` times all retries, and then the first `i` of them. The sender comes back to a ttl only when its loop over the ttls
    wraps around. -/
def rounds (c : Call) (n i : Nat) : List Nat := (List.replicate n (List.range c.retries.toNat)).flatten ++ List.range i

theorem rounds_succ (n i : Nat) : rounds c n (i + 1) = rounds c n i ++ [i] := by
  rw [rounds, List.range_succ, ← List.append_assoc]
  rfl

theorem rounds_next (n : Nat) : rounds c (n + 1) 0 = rounds c n c.retries.toNat := by
  simp [rounds, List.replicate_succ', List.flatten_append]

/-- The retries of a round that is complete, or of as many as there are. -/
theorem take_rounds {n i : Nat} (hi : i ≤ c.retries.toNat) (hlen : c.retries.toNat ≤ (rounds c n i).length) :
    (rounds c n i).take c.retries.toNat = List.range c.retries.toNat := by
  cases n with
  | zero =>
    have hend : i = c.retries.toNat := by
      simp only [rounds, List.replicate_zero, List.flatten_nil, List.nil_append, List.length_range] at hlen
      omega
    simp [rounds, hend]
  | succ n => simp [rounds, List.replicate_succ, List.flatten_cons, List.append_assoc]

/-- The sender has registered the retries of `ttl` in their order, and has got to its current one. -/
def InRounds (c : Call) (ttl : UInt32) (s : State) : Prop :=
  ∃ n i, s.retriesOf ttl = rounds c n i ∧ i ≤ c.retries.toNat ∧
    match s.sender with
    | .retryLoop t j => j.toNat ≤ c.retries.toNat ∧ i = if t = ttl then j.toNat else 0
    | .created t j _ | .sending t j _ | .registering t j _ => j.toNat < c.retries.toNat ∧ i = if t = ttl then j.toNat else 0
    | .threw _ => True
    | _ => i = 0

theorem InRounds.enter {now : Int} {o : Object} : InRounds c ttl (enter c now o) :=
  ⟨0, 0, rfl, Nat.zero_le _, rfl⟩

theorem InRounds.senderMove {a : SenderAction} (h : InRounds c ttl s) (m : SenderMove c s a t) : InRounds c ttl t := by
  obtain ⟨n, i, hretries, hi, hat⟩ := h
  cases m with
  | enterTtl pc le =>
    simp only [pc] at hat
    subst hat
    exact ⟨n, 0, hretries, hi, Nat.zero_le _, by simp⟩
  | finish pc lt =>
    simp only [pc] at hat
    exact ⟨n, i, hretries, hi, hat⟩
  | @nextTtl t j pc le =>
    simp only [pc] at hat
    obtain ⟨hj, rfl⟩ := hat
    have hlast := toNat_eq_of_not_lt hj le
    by_cases ht : t = ttl
    · rw [if_pos ht, hlast, ← rounds_next] at hretries
      exact ⟨n + 1, 0, hretries, Nat.zero_le _, rfl⟩
    · rw [if_neg ht] at hretries
      exact ⟨n, 0, hretries, Nat.zero_le _, rfl⟩
  | create pc lt =>
    simp only [pc] at hat
    exact ⟨n, i, hretries, hi, UInt32.lt_iff_toNat_lt.mp lt, hat.2⟩
  | send pc =>
    simp only [pc] at hat
    exact ⟨n, i, hretries, hi, hat⟩
  | sent pc =>
    simp only [pc] at hat
    exact ⟨n, i, hretries, hi, hat⟩
  | createThrows pc lt => exact ⟨n, i, hretries, hi, trivial⟩
  | notSent pc => exact ⟨n, i, hretries, hi, trivial⟩
  | sendThrows pc => exact ⟨n, i, hretries, hi, trivial⟩
  | @push t j k pc free =>
    simp only [pc] at hat
    obtain ⟨hj, rfl⟩ := hat
    have hsucc := toNat_succ hj c.retries.toNat_lt
    by_cases ht : t = ttl
    · rw [if_pos ht] at hretries
      refine ⟨n, j.toNat + 1, ?_, hj, by rw [hsucc]; exact hj, by rw [if_pos ht, hsucc]⟩
      rw [rounds_succ, ← hretries]
      simp [State.retriesOf, ht]
    · rw [if_neg ht] at hretries
      refine ⟨n, 0, ?_, Nat.zero_le _, by rw [hsucc]; exact hj, by rw [if_neg ht]⟩
      rw [← hretries]
      simp [State.retriesOf, ht]

theorem exec_inRounds (h : InRounds c ttl s) (hst : (machine packets c).exec s as = some t) : InRounds c ttl t := by
  refine Machine.exec_invariant (fun {s t a} hs hst => ?_) h hst
  cases a with
  | tick d =>
    obtain rfl := Option.some.inj hst
    exact hs
  | sender a => exact hs.senderMove (senderStep_move hst)
  | receiver a =>
    have m := receiverStep_move hst
    unfold InRounds State.retriesOf at hs ⊢
    rw [m.sender, m.pushed]
    exact hs

/-! ### The order of the results -/

/-- The results recorded for `ttl` are those of its retries in the call, one after the other. -/
structure State.InRetryOrder (created : Nat) (c : Call) (ttl : UInt32) (s : State) : Prop where
  own : ∀ r ∈ s.recorded, r.probe.ttl = ttl → created ≤ r.probe.packet
  ordered : (s.recorded.filter (·.probe.ttl == ttl)).map (·.probe.retry.toNat) = List.range c.retries.toNat

theorem InOrder.retriesOf (h : InOrder created ttl s) : s.retriesOf ttl =
    (s.recorded.filter (·.probe.ttl == ttl)).map (·.probe.retry.toNat) ++
      (s.mPacketsToBeValidated.filter (·.own created ttl)).map (·.retry.toNat) := by
  rw [State.retriesOf, ← h.queue, List.map_append, List.map_map]
  rfl

theorem InOrder.inRetryOrder (h : InOrder created ttl s) (hr : InRounds c ttl s)
    (all : (s.recorded.filter (·.probe.ttl == ttl)).length = c.retries.toNat) : s.InRetryOrder created c ttl := by
  obtain ⟨n, i, hretries, hi, -⟩ := hr
  have hsplit := h.retriesOf.symm.trans hretries
  have hlen : ((s.recorded.filter (·.probe.ttl == ttl)).map (·.probe.retry.toNat)).length = c.retries.toNat := by
    rw [List.length_map, all]
  have htake := take_rounds hi (by rw [← hsplit, List.length_append]; omega)
  rw [← hsplit, List.take_left' hlen] at htake
  exact ⟨h.own, htake⟩

/-- Where the results are in order at the end, no record has passed over a probe. -/
theorem takesFirst_of_inRetryOrder {a : Action} {u : State} (h : InOrder created ttl s) (hp : Placed c s)
    (hst : (machine packets c).step s a = some t) (hu : (machine packets c).exec t as = some u)
    (ordered : u.InRetryOrder created c ttl) : takesFirst packets created ttl s a = true := by
  cases step_queue hst with
  | still hrecords => simp [takesFirst, hrecords]
  | push probe pc hrecords => simp [takesFirst, hrecords]
  | record it r at_ hrecords hpackets hpushed hrecorded =>
    simp only [takesFirst, hrecords, at_, Bool.or_eq_true, bne_iff_ne, Bool.and_eq_true, List.all_eq_true,
      Bool.not_eq_true']
    refine or_iff_not_imp_left.mpr fun hr => ?_
    have hr : r.probe.ttl = ttl := not_not.mp hr
    have hown : r.probe.own created ttl = true := by
      have hmem : r ∈ u.recorded := (exec_recorded hu).subset (hrecorded ▸ List.mem_append_right _ List.mem_cons_self)
      simp [PacketToValidate.own, hr, ordered.own r hmem hr]
    refine ⟨hown, ?_⟩
    by_contra hpassed
    simp only [not_forall, Bool.not_eq_false] at hpassed
    obtain ⟨y, hy, hyown⟩ := hpassed
    obtain ⟨z, zs, hz⟩ := List.exists_cons_of_ne_nil (List.ne_nil_of_mem
      (List.mem_filter.mpr ⟨hy, hyown⟩) : (s.mPacketsToBeValidated.take it).filter (·.own created ttl) ≠ [])
    let done := (s.recorded.filter (·.probe.ttl == ttl)).map (·.probe.retry.toNat)
    -- `z` is the first outstanding probe of the ttl: its retry is the next one in order.
    have hregistered : done ++ z.retry.toNat :: (zs.map (·.retry.toNat) ++ r.probe.retry.toNat ::
        ((s.mPacketsToBeValidated.drop (it + 1)).filter (·.own created ttl)).map (·.retry.toNat)) <+:
        List.range c.retries.toNat := by
      have hsplit : s.mPacketsToBeValidated.filter (·.own created ttl) =
          z :: (zs ++ r.probe :: (s.mPacketsToBeValidated.drop (it + 1)).filter (·.own created ttl)) := by
        conv_lhs => rw [(eraseIdx_split at_).1]
        rw [List.filter_append, List.filter_cons_of_pos hown, hz, List.cons_append]
      have hretries := hp.retriesOf ttl
      rw [h.retriesOf, hsplit, List.map_cons, List.map_append, List.map_cons] at hretries
      exact hretries
    have hrecords : done ++ [r.probe.retry.toNat] <+: List.range c.retries.toNat := by
      have hlater := ((exec_recorded hu).filter (·.probe.ttl == ttl)).map (·.probe.retry.toNat)
      rw [hrecorded, List.filter_append, List.map_append, List.filter_cons_of_pos (by simpa using hr)] at hlater
      exact ordered.ordered ▸ hlater
    have hnext : done ++ [z.retry.toNat] <+: List.range c.retries.toNat :=
      ((List.prefix_append_right_inj done).mpr (List.prefix_append [z.retry.toNat] _)).trans hregistered
    have hsame : z.retry.toNat = r.probe.retry.toNat := by
      have hprefix := List.prefix_of_prefix_length_le hnext hrecords (by simp)
      simpa using hprefix.eq_of_length (by simp)
    have hnodup := (List.nodup_append.mp (hregistered.sublist.nodup List.nodup_range)).2.1
    exact (List.nodup_cons.mp hnodup).1 (by simp [hsame])

/-- The results of a ttl with all of its retries are in the order of the retries when each of them has taken the first
    outstanding probe of the call with this ttl, and, unless the loop over the ttls wraps around, only then. -/
theorem retry_order (packets : Nat → Packet) (c : Call) (now : Int) (o : Object) {as : List Action} {s : State}
    {results : List TracerouteResult} (h : (machine packets c).exec (enter c now o) as = some s)
    (hreturned : s.receiver = .returned results) : ∀ tr ∈ results,
    tr.probeResults = (s.recorded.filter (·.probe.ttl == tr.ttl)).map (·.result) ∧
    (tr.probeResults.length = c.retries.toNat →
      ((machine packets c).Along (takesFirst packets o.created tr.ttl · ·) (enter c now o) as →
        s.InRetryOrder o.created c tr.ttl) ∧
      (c.ttlEnd.toNat + 1 < 2 ^ 32 → s.InRetryOrder o.created c tr.ttl →
        (machine packets c).Along (takesFirst packets o.created tr.ttl · ·) (enter c now o) as)) := by
  intro tr htr
  have hc : Conserved o.mPacketsToBeValidated s := exec_conserved h .enter
  obtain ⟨n, rfl⟩ := exec_collected h (fun _ hr => by cases hr) results hreturned
  rw [collectResults_eq] at htr
  obtain ⟨⟨ttl, v⟩, hv, rfl⟩ := List.mem_map.mp (List.mem_of_mem_take htr)
  have hresults : v = s.resultsOf ttl := (hc.mem_entries.mp hv).1
  refine ⟨hresults, fun hlen => ⟨fun hP => ?_, fun hend ordered => ?_⟩⟩
  · have hqueue := Machine.along_invariant (I := fun s => Since o.created s ∧ InOrder o.created ttl s)
      (fun hP hs hst => ⟨step_since hs.1 hst, step_inOrder hP hs.1 hs.2 hst⟩) ⟨.enter, .enter⟩ hP h
    refine hqueue.2.inRetryOrder (exec_inRounds .enter h) ?_
    rw [← hlen, hresults, State.resultsOf, List.length_map]
  · exact Machine.along_of_invariant (I := fun s => Since o.created s ∧ InOrder o.created ttl s ∧ Placed c s)
      (fun hP hs hst => ⟨step_since hs.1 hst, step_inOrder hP hs.1 hs.2.1 hst, step_placed hend hs.2.2 hst⟩)
      (fun hs hst hu => takesFirst_of_inRetryOrder hs.2.1 hs.2.2 hst hu ordered) ⟨.enter, .enter, .enter⟩ h

/-- The two probes of a ttl are answered, and the receiver returns: first the probe of size `i`, then that of size `j`. -/
def answeredRun (i j : UInt64) : List Action :=
  .sender .testTtl :: sendProbe ++ sendProbe ++ .receiver .readBeginAt :: receiveSized i 500000 ++
    [.receiver .sweep, .receiver .sweep] ++ receiveSized j 200000 ++ .receiver .sweep :: finishProbing

/-- The result of the run, whichever of the probes is answered first. -/
def answeredResult : TracerouteResult :=
  ⟨1, [successProbe 500 anyResponse.client, successProbe 700 anyResponse.client]⟩

theorem retry_order_answered : ∃ s,
    (machine bySize ⟨1, 1, 2, 100000⟩).exec (enter ⟨1, 1, 2, 100000⟩ 0 (.fresh 0 fun _ => 0)) (answeredRun 0 1) = some s ∧
    s.receiver = .returned [answeredResult] ∧ s.InRetryOrder 0 ⟨1, 1, 2, 100000⟩ 1 := by
  obtain ⟨s, hs, hreturned⟩ := Option.map_eq_some_iff.mp (show ((machine bySize ⟨1, 1, 2, 100000⟩).exec
    (enter ⟨1, 1, 2, 100000⟩ 0 (.fresh 0 fun _ => 0)) (answeredRun 0 1)).map (·.receiver) =
      some (.returned [answeredResult]) from rfl)
  obtain ⟨-, hordered⟩ := retry_order _ _ _ _ hs hreturned answeredResult List.mem_cons_self
  exact ⟨s, hs, hreturned, (hordered rfl).1 (by decide)⟩

/-- The second probe is answered first, and its result is the first one of the ttl. -/
theorem second_retry_first : ∃ s,
    (machine bySize ⟨1, 1, 2, 100000⟩).exec (enter ⟨1, 1, 2, 100000⟩ 0 (.fresh 0 fun _ => 0)) (answeredRun 1 0) = some s ∧
    s.receiver = .returned [answeredResult] ∧ s.left = true ∧
    (s.recorded.map fun r => (r.probe.ttl, r.probe.retry, r.result)) =
      [(1, 1, successProbe 500 anyResponse.client), (1, 0, successProbe 700 anyResponse.client)] ∧
    ¬s.InRetryOrder 0 ⟨1, 1, 2, 100000⟩ 1 := by
  refine ⟨_, rfl, rfl, rfl, rfl, fun h => ?_⟩
  exact absurd h.ordered (by decide)

end Traceroute.Fast
