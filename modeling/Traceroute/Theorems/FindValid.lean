import Traceroute.Fast

/-! `std::find_if` over the outstanding probes. -/

namespace Traceroute.Fast

variable {packets : Nat → Packet} {respInfo : ResponseInfo} {buffer : Bytes} {l : List PacketToValidate} {it : Nat}

/-- The probe found is the first one that accepts the response; `isValid` has refused it for all before. -/
theorem findValid_eq_some : findValid packets respInfo buffer l = .ok (some it) ↔
    ∃ before probe after, l = before ++ probe :: after ∧ before.length = it ∧
      (packets probe.packet).isValid respInfo buffer = .ok true ∧
      ∀ p ∈ before, (packets p.packet).isValid respInfo buffer = .ok false := by
  induction l generalizing it with
  | nil => simp [findValid]
  | cons p rest ih =>
    unfold findValid
    cases hp : (packets p.packet).isValid respInfo buffer with
    | error e =>
      simp only [reduceCtorEq, false_iff]
      rintro ⟨before, probe, after, hl, -, hv, hb⟩
      rcases before with _ | ⟨q, before⟩ <;> cases hl
      · simp [hp] at hv
      · simp [hp] at hb
    | ok v =>
      cases v with
      | true =>
        simp only [Except.ok.injEq, Option.some.injEq]
        constructor
        · rintro rfl
          exact ⟨[], p, rest, rfl, rfl, hp, by simp⟩
        · rintro ⟨before, probe, after, hl, hlen, -, hb⟩
          rcases before with _ | ⟨q, before⟩ <;> cases hl
          · exact hlen
          · simp [hp] at hb
      | false =>
        constructor
        · intro h
          cases hr : findValid packets respInfo buffer rest with
          | error e => simp [hr, Except.map] at h
          | ok found =>
            cases found with
            | none => simp [hr, Except.map] at h
            | some k =>
              simp only [hr, Except.map, Option.map_some, Except.ok.injEq, Option.some.injEq] at h
              obtain ⟨before, probe, after, rfl, rfl, hv, hb⟩ := ih.mp hr
              refine ⟨p :: before, probe, after, rfl, h, hv, fun q hq => ?_⟩
              rcases List.mem_cons.mp hq with rfl | hq
              · exact hp
              · exact hb q hq
        · rintro ⟨before, probe, after, hl, hlen, hv, hb⟩
          rcases before with _ | ⟨q, before⟩ <;> obtain ⟨rfl, rfl⟩ := List.cons.inj hl
          · simp [hp] at hv
          · have hr := ih.mpr ⟨before, probe, after, rfl, rfl, hv, fun q hq => hb q (List.mem_cons_of_mem _ hq)⟩
            rw [← hlen]
            exact congrArg (Except.map (Option.map (· + 1))) hr

/-- It throws when a packet does that it gets to, because all before have refused the response. -/
theorem findValid_throws_iff : (∃ e, findValid packets respInfo buffer l = .error e) ↔
    ∃ before probe after, l = before ++ probe :: after ∧
      (∀ p ∈ before, (packets p.packet).isValid respInfo buffer = .ok false) ∧
      ∃ e, (packets probe.packet).isValid respInfo buffer = .error e := by
  induction l with
  | nil => simp [findValid]
  | cons p rest ih =>
    unfold findValid
    cases hp : (packets p.packet).isValid respInfo buffer with
    | error e => exact iff_of_true ⟨e, rfl⟩ ⟨[], p, rest, rfl, by simp, e, hp⟩
    | ok v =>
      cases v with
      | true =>
        refine iff_of_false (fun ⟨e, he⟩ => by cases he) ?_
        rintro ⟨before, probe, after, hl, hb, e, he⟩
        rcases before with _ | ⟨q, before⟩ <;> obtain ⟨rfl, rfl⟩ := List.cons.inj hl
        · simp [hp] at he
        · simp [hp] at hb
      | false =>
        have hrest : (∃ e, (findValid packets respInfo buffer rest).map (·.map (· + 1)) = .error e) ↔
            ∃ e, findValid packets respInfo buffer rest = .error e := by
          cases findValid packets respInfo buffer rest <;> simp [Except.map]
        rw [hrest, ih]
        constructor
        · rintro ⟨before, probe, after, rfl, hb, he⟩
          exact ⟨p :: before, probe, after, rfl, List.forall_mem_cons.mpr ⟨hp, hb⟩, he⟩
        · rintro ⟨before, probe, after, hl, hb, e, he⟩
          rcases before with _ | ⟨q, before⟩ <;> obtain ⟨rfl, rfl⟩ := List.cons.inj hl
          · simp [hp] at he
          · exact ⟨before, probe, after, rfl, fun q hq => hb q (List.mem_cons_of_mem _ hq), e, he⟩

/-- Where no packet throws, the probe found is the first one whose verdict is positive. -/
theorem findValid_of_ok {verdict : PacketToValidate → Bool}
    (h : ∀ q ∈ l, (packets q.packet).isValid respInfo buffer = .ok (verdict q)) :
    findValid packets respInfo buffer l = .ok (l.findIdx? verdict) := by
  induction l with
  | nil => rfl
  | cons q rest ih =>
    rw [findValid, h q List.mem_cons_self, List.findIdx?_cons]
    cases verdict q with
    | true => rfl
    | false =>
      simp only [ih fun q hq => h q (List.mem_cons_of_mem _ hq)]
      rfl

theorem findValid_at {probe : PacketToValidate} (found : findValid packets respInfo buffer l = .ok (some it))
    (at_ : l[it]? = some probe) : ∃ front rest, l = front ++ probe :: rest ∧ front.length = it ∧
      (packets probe.packet).isValid respInfo buffer = .ok true ∧
      ∀ p ∈ front, (packets p.packet).isValid respInfo buffer = .ok false := by
  obtain ⟨front, probe', rest, rfl, rfl, accepted, refused⟩ := findValid_eq_some.mp found
  rw [List.getElem?_append_right (Nat.le_refl _), Nat.sub_self] at at_
  cases at_
  exact ⟨front, rest, rfl, rfl, accepted, refused⟩

end Traceroute.Fast
