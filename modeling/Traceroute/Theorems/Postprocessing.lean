import Traceroute.Theorems.Results

/-! What `receiveAndValidate` makes of its results when the loop has ended: the recorded ttls in ascending order, up to the
    first one that the target has answered. -/

namespace Traceroute.Fast

variable {packets : Nat → Packet} {c : Call} {s t : State} {target : SocketAddress} {results : List TracerouteResult}

/-! ### Lists -/

/-- Of a list in strictly ascending order, the elements up to the first one that passes are those with no smaller one that
    does. -/
theorem mem_take_findIdx_iff {α : Type} {r : α → α → Prop} {p : α → Bool} {l : List α} {x : α}
    (asymm : ∀ a b, r a b → ¬r b a) (h : l.Pairwise r) : x ∈ l.take (l.findIdx p + 1) ↔ x ∈ l ∧ ∀ y ∈ l, r y x → p y = false := by
  induction l with
  | nil => simp
  | cons a l ih =>
    obtain ⟨ha, hl⟩ := List.pairwise_cons.mp h
    -- No element is smaller than the first one.
    have hfirst : ∀ y ∈ a :: l, r y a → p y = false := fun y hy hya => by
      rcases List.mem_cons.mp hy with rfl | hy
      · exact absurd hya (asymm _ _ hya)
      · exact absurd hya (asymm _ _ (ha y hy))
    rw [List.findIdx_cons]
    cases hp : p a with
    | true =>
      simp only [cond_true, Nat.zero_add, List.take_succ_cons, List.take_zero, List.mem_singleton]
      constructor
      · rintro rfl
        exact ⟨List.mem_cons_self, hfirst⟩
      · rintro ⟨hx, hsmaller⟩
        rcases List.mem_cons.mp hx with rfl | hx
        · rfl
        · have hfalse := hsmaller a List.mem_cons_self (ha x hx)
          rw [hp] at hfalse
          cases hfalse
    | false =>
      simp only [cond_false, List.take_succ_cons, List.mem_cons, ih hl]
      constructor
      · rintro (rfl | ⟨hx, hsmaller⟩)
        · exact ⟨Or.inl rfl, fun y hy => hfirst y (List.mem_cons.mpr hy)⟩
        · refine ⟨Or.inr hx, fun y hy hyx => ?_⟩
          rcases hy with rfl | hy
          · exact hp
          · exact hsmaller y hy hyx
      · rintro ⟨rfl | hx, hsmaller⟩
        · exact Or.inl rfl
        · exact Or.inr ⟨hx, fun y hy => hsmaller y (Or.inr hy)⟩

/-! ### The returned list -/

/-- The target has sent one of the results. -/
def reachedBy (target : SocketAddress) (results : List ProbeResult) : Bool := results.any (·.sentBy target)

/-- `results` are the entries of the map up to the first one with a result of `target`, in ascending order of their ttls.
    An entry holds what was recorded for its ttl. -/
structure Postprocessed (c : Call) (target : SocketAddress) (s : State) (results : List TracerouteResult) : Prop where
  ascending : (results.map (·.ttl)).Pairwise (· < ·)
  entries : ∀ ttl v, (ttl, v) ∈ s.ttlToProbeResults.entries ↔ v = s.resultsOf ttl ∧ v ≠ []
  cut : ∀ tr, tr ∈ results ↔ (tr.ttl, tr.probeResults) ∈ s.ttlToProbeResults.entries ∧
    ∀ kv ∈ s.ttlToProbeResults.entries, kv.1 < tr.ttl → reachedBy target kv.2 = false
  last : ∀ tr ∈ results, reachedBy target tr.probeResults = true → results.getLast? = some tr
  range : ∀ tr ∈ results, c.ttlBegin ≤ tr.ttl ∧ tr.ttl ≤ c.ttlEnd
  count : ∀ tr ∈ results, 1 ≤ tr.probeResults.length ∧ tr.probeResults.length ≤ c.retries.toNat

/-- The entries of the map, as results. -/
def entriesOf (m : OrderedMap UInt32 (List ProbeResult)) : List TracerouteResult := m.entries.map fun kv => ⟨kv.1, kv.2⟩

section
variable {m : OrderedMap UInt32 (List ProbeResult)} {tr : TracerouteResult}

theorem mem_entriesOf : tr ∈ entriesOf m ↔ (tr.ttl, tr.probeResults) ∈ m.entries := by
  rw [entriesOf, List.mem_map]
  constructor
  · rintro ⟨kv, hkv, rfl⟩
    exact hkv
  · intro h
    exact ⟨_, h, rfl⟩

theorem ascending_entriesOf : (entriesOf m).Pairwise fun a b => a.ttl < b.ttl := List.pairwise_map.mpr m.sorted

theorem collectResults_eq_take : collectResults target m =
    (entriesOf m).take ((entriesOf m).findIdx (fun tr => reachedBy target tr.probeResults) + 1) := collectResults_eq m

theorem ascending_collectResults : (collectResults target m).Pairwise fun a b => a.ttl < b.ttl := by
  rw [collectResults_eq_take]
  exact ascending_entriesOf.sublist (List.take_sublist _ _)

theorem mem_collectResults_iff : tr ∈ collectResults target m ↔ (tr.ttl, tr.probeResults) ∈ m.entries ∧
    ∀ kv ∈ m.entries, kv.1 < tr.ttl → reachedBy target kv.2 = false := by
  have hasymm : ∀ a b : TracerouteResult, a.ttl < b.ttl → ¬b.ttl < a.ttl := fun a b hab =>
    Std.not_lt.mpr (Std.le_of_lt hab)
  rw [collectResults_eq_take, mem_take_findIdx_iff hasymm ascending_entriesOf, mem_entriesOf]
  refine and_congr_right fun _ => ⟨fun h kv hkv hlt => ?_, fun h y hy hlt => ?_⟩
  · exact h ⟨kv.1, kv.2⟩ (mem_entriesOf.mpr hkv) hlt
  · exact h (y.ttl, y.probeResults) (mem_entriesOf.mp hy) hlt

/-- Of an entry that the target has answered, none follows. -/
theorem getLast?_collectResults (htr : tr ∈ collectResults target m) (hreached : reachedBy target tr.probeResults = true) :
    (collectResults target m).getLast? = some tr := by
  have hne := List.ne_nil_of_mem htr
  rw [List.getLast?_eq_some_getLast hne]
  by_contra hother
  -- The last result has a greater ttl, so that `tr` would have ended the list.
  have hlast : (collectResults target m).getLast hne ∈ collectResults target m := List.getLast_mem hne
  have hsplit := List.dropLast_append_getLast hne
  have hfront : tr ∈ (collectResults target m).dropLast := by
    rw [← hsplit] at htr
    exact (List.mem_append.mp htr).resolve_right fun h => hother (congrArg some (List.mem_singleton.mp h).symm)
  have hasc : (collectResults target m).Pairwise fun a b => a.ttl < b.ttl := ascending_collectResults
  rw [← hsplit] at hasc
  have hlt := (List.pairwise_append.mp hasc).2.2 tr hfront _ List.mem_cons_self
  have hfalse := (mem_collectResults_iff.mp hlast).2 _ (mem_collectResults_iff.mp htr).1 hlt
  rw [hreached] at hfalse
  cases hfalse

end

/-- Once the loop has ended, the recorded results are returned ttl by ttl, up to the first ttl at which the target has
    answered. -/
theorem postprocessed (packets : Nat → Packet) (c : Call) (now : Int) (created : Nat) (buffer : Bytes) {as : List Action}
    {s t : State} (hend : c.ttlEnd.toNat + 1 < 2 ^ 32)
    (h : (machine packets c).exec (enter c now (.fresh created buffer)) as = some s)
    (hstep : (machine packets c).step s (.receiver (.postprocess (.ok ()))) = some t) :
    ∃ results, t.receiver = .returned results ∧ Postprocessed c (packets s.created).getDestinationAddress s results := by
  have hc : Conserved [] s := exec_conserved h (Conserved.enter (o := .fresh created buffer))
  have hp : Placed c s := exec_placed hend .enter h
  have m : ReceiverMove packets c s (.postprocess (.ok ())) t := receiverStep_move hstep
  cases m with
  | return_ pc =>
    refine ⟨_, rfl, ?_⟩
    have hrecorded : ∀ tr ∈ collectResults (packets s.created).getDestinationAddress s.ttlToProbeResults,
        tr.probeResults = s.resultsOf tr.ttl ∧ tr.probeResults ≠ [] := fun tr htr =>
      hc.mem_entries.mp (mem_collectResults_iff.mp htr).1
    refine ⟨?_, fun ttl v => hc.mem_entries, fun tr => mem_collectResults_iff, fun tr => getLast?_collectResults,
      fun tr htr => ?_, fun tr htr => ?_⟩
    · exact List.pairwise_map.mpr ascending_collectResults
    · -- Some result is recorded, for a probe that has been registered.
      obtain ⟨hresults, hne⟩ := hrecorded tr htr
      obtain ⟨result, hresult⟩ := List.exists_mem_of_ne_nil _ hne
      rw [hresults] at hresult
      obtain ⟨r, hr, -⟩ := List.mem_map.mp hresult
      obtain ⟨hr, httl⟩ := List.mem_filter.mp hr
      have hpushed : r.probe ∈ s.pushed := hc.perm.mem_iff.mpr (List.mem_append_right _ (List.mem_map_of_mem hr))
      obtain ⟨hb, he, -⟩ := mem_positions (hp.initial.subset (List.mem_map_of_mem hpushed))
      rw [← eq_of_beq httl]
      exact ⟨UInt32.le_iff_toNat_le.mpr hb, UInt32.le_iff_toNat_le.mpr he⟩
    · obtain ⟨hresults, hne⟩ := hrecorded tr htr
      refine ⟨List.length_pos_iff.mpr hne, ?_⟩
      have hcount := hc.count tr.ttl
      have hretries := (hp.retriesOf tr.ttl).length_le
      rw [State.retriesOf, List.length_map, ← List.countP_eq_length_filter, List.length_range] at hretries
      rw [hresults]
      omega

/-- The second ttl has got its result first, and the target has answered the first one. -/
theorem postprocessed_expired : ∃ s t results,
    (machine bySize twoByTwo).exec (enter twoByTwo 0 (.fresh 0 fun _ => 0))
      (mixedRun ++ [.receiver .sweep, .receiver .testLoop]) = some s ∧
    s.recorded.map (·.probe.ttl) = [2, 1, 1, 2] ∧
    (machine bySize twoByTwo).step s (.receiver (.postprocess (.ok ()))) = some t ∧
    t.receiver = .returned results ∧ results.map (·.ttl) = [1] ∧
    Postprocessed twoByTwo (bySize 4).getDestinationAddress s results := by
  obtain ⟨s, hs, hend⟩ := Option.map_eq_some_iff.mp (show ((machine bySize twoByTwo).exec
    (enter twoByTwo 0 (.fresh 0 fun _ => 0)) (mixedRun ++ [.receiver .sweep, .receiver .testLoop])).map
      (fun s => (s.receiver, s.recorded.map (·.probe.ttl),
        (collectResults (bySize s.created).getDestinationAddress s.ttlToProbeResults).map (·.ttl))) =
      some (.postprocessing, [2, 1, 1, 2], [1]) from rfl)
  obtain ⟨hpc, hrecorded, hresults⟩ : s.receiver = .postprocessing ∧ s.recorded.map (·.probe.ttl) = [2, 1, 1, 2] ∧
      (collectResults (bySize s.created).getDestinationAddress s.ttlToProbeResults).map (·.ttl) = [1] := by
    simpa only [Prod.mk.injEq] using hend
  have hstep : (machine bySize twoByTwo).step s (.receiver (.postprocess (.ok ()))) = some
      { s with
        created := s.created + 1
        receiver := .returned (collectResults (bySize s.created).getDestinationAddress s.ttlToProbeResults) } := by
    simp [machine, receiverStep, hpc]
  obtain ⟨results, hreturned, hpost⟩ := postprocessed bySize _ _ _ _ (by decide) hs hstep
  obtain rfl := Receiver.returned.inj hreturned
  exact ⟨s, _, _, hs, hrecorded, hstep, rfl, hresults, hpost⟩

end Traceroute.Fast
