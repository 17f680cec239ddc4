import Traceroute.Printing
import Traceroute.Theorems.Conservation
import Traceroute.Theorems.SequentialSteps

/-! What the text of a result says. The times in it are exact up to `2 ^ 33` milliseconds, although they are printed by way of a
    `double`; the first one that is not is a microsecond longer. -/

namespace Traceroute

variable {width n m : Nat} {count : Int} {pr pr' : ProbeResult} {inet_ntop : Int → Bytes → String}

/-! ### Digits -/

@[simp] theorem length_lastDigits : (lastDigits width n).length = width := by
  induction width generalizing n with
  | zero => rfl
  | succ width ih => rw [lastDigits, List.length_append, ih, List.length_singleton]

theorem isDigit_of_mem_lastDigits {x : Char} (h : x ∈ lastDigits width n) : x.isDigit = true := by
  induction width generalizing n with
  | zero => cases h
  | succ width ih =>
    rcases List.mem_append.mp h with h | h
    · exact ih h
    · obtain rfl := List.mem_singleton.mp h
      rw [Nat.isDigit_digitChar]
      exact decide_eq_true (Nat.mod_lt n (by decide))

theorem ofDigitChars_lastDigits : Nat.ofDigitChars 10 (lastDigits width n) 0 = n % 10 ^ width := by
  induction width generalizing n with
  | zero => rw [Nat.pow_zero, Nat.mod_one]; rfl
  | succ width ih =>
    rw [lastDigits, Nat.ofDigitChars_append, ih, Nat.ofDigitChars_cons_digitChar_of_lt_ten (Nat.mod_lt n (by decide)),
      Nat.ofDigitChars_nil, Nat.pow_succ', Nat.mod_mul, Nat.add_comm]

theorem rdropWhile_append_cons {α : Type} {p : α → Bool} {x : α} (hx : p x = false) (l r : List α) :
    (l ++ x :: r).rdropWhile p = l ++ x :: r.rdropWhile p := by
  induction r using List.reverseRecOn with
  | nil => rw [List.rdropWhile_nil, List.rdropWhile_concat_neg _ _ _ (by simp [hx])]
  | append_singleton r y ih =>
    rw [← List.cons_append, ← List.append_assoc, List.rdropWhile_concat, List.rdropWhile_concat]
    split
    · exact ih
    · rw [List.append_assoc, List.cons_append]

/-! ### Times -/

/-- The number that a decimal with a point says. -/
def decimalValue (text : List Char) : ℚ :=
  let whole := text.takeWhile (· != '.')
  let fraction := (text.dropWhile (· != '.')).tail
  Nat.ofDigitChars 10 whole 0 + Nat.ofDigitChars 10 fraction 0 / 10 ^ fraction.length

theorem decimalValue_append {whole : List Char} (h : '.' ∉ whole) (fraction : List Char) :
    decimalValue (whole ++ '.' :: fraction) = Nat.ofDigitChars 10 whole 0 + Nat.ofDigitChars 10 fraction 0 / 10 ^ fraction.length := by
  have hall : ∀ x ∈ whole, (x != '.') = true := fun x hx => bne_iff_ne.mpr fun heq => h (heq ▸ hx)
  rw [decimalValue, List.takeWhile_append_of_pos hall, List.dropWhile_append_of_pos hall, List.takeWhile_cons_of_neg (by decide),
    List.dropWhile_cons_of_neg (by decide), List.append_nil, List.tail_cons]

/-- Zeros at the end of a fraction say nothing. -/
theorem ofDigitChars_rdropWhile (l : List Char) :
    (Nat.ofDigitChars 10 (l.rdropWhile (· == '0')) 0 : ℚ) / 10 ^ (l.rdropWhile (· == '0')).length =
      Nat.ofDigitChars 10 l 0 / 10 ^ l.length := by
  have hzeros : l.rtakeWhile (· == '0') = .replicate (l.rtakeWhile (· == '0')).length '0' :=
    List.eq_replicate_of_mem fun x hx => by simpa using List.mem_rtakeWhile_imp hx
  have hl := List.rdropWhile_append_rtakeWhile (p := (· == '0')) (l := l)
  have hvalue : Nat.ofDigitChars 10 l 0 = 10 ^ (l.rtakeWhile (· == '0')).length * Nat.ofDigitChars 10 (l.rdropWhile (· == '0')) 0 := by
    rw [← hl, Nat.ofDigitChars_append, hl, hzeros, Nat.ofDigitChars_replicate_zero, List.length_replicate]
  have hlength : l.length = (l.rdropWhile (· == '0')).length + (l.rtakeWhile (· == '0')).length := by
    rw [← List.length_append, hl]
  rw [hvalue, hlength, pow_add, div_eq_div_iff (by positivity) (by positivity)]
  push_cast
  ring

theorem not_mem_toDigits {x : Char} (hx : x.isDigit = false) : x ∉ Nat.toDigits 10 n := fun h => by
  rw [Nat.isDigit_of_mem_toDigits (by decide) (by decide) h] at hx
  cases hx

/-- A number that is not negative, in millionths. -/
def millionths (value : ℚ) : Nat := (roundEven (|value| * 1000000)).toNat

theorem toList_to_string {value : ℚ} (h : 0 ≤ value) : (removeTrailingZeros (to_string value)).toList =
    Nat.toDigits 10 (millionths value / 1000000) ++ '.' :: (lastDigits 6 (millionths value)).rdropWhile (· == '0') := by
  have htext : (to_string value).toList =
      Nat.toDigits 10 (millionths value / 1000000) ++ '.' :: lastDigits 6 (millionths value) := by
    simp only [to_string, if_neg (not_lt.mpr h), String.toList_append, Nat.toList_repr, String.toList_ofList]
    rw [show "".toList = [] from rfl, show ".".toList = ['.'] from rfl, List.nil_append, List.append_assoc, List.singleton_append]
    rfl
  rw [removeTrailingZeros, String.toList_ofList, htext, rdropWhile_append_cons (by decide)]

/-- The text says the number in millionths. -/
theorem decimalValue_to_string {value : ℚ} (h : 0 ≤ value) :
    decimalValue (removeTrailingZeros (to_string value)).toList = millionths value / 1000000 := by
  have hsplit := Nat.div_add_mod (millionths value) 1000000
  rw [toList_to_string h, decimalValue_append (not_mem_toDigits (by decide)), ofDigitChars_rdropWhile, length_lastDigits,
    ofDigitChars_lastDigits, Nat.ofDigitChars_ten_toDigits]
  rw [show (millionths value : ℚ) = ((1000000 * (millionths value / 1000000) + millionths value % 1000000 : ℕ) : ℚ) by rw [hsplit]]
  push_cast
  norm_num
  ring

/-- The milliseconds are less than half a millionth off. -/
theorem abs_double_sub_lt (h0 : 0 ≤ count) (h : count < 2 ^ 33 * 1000) :
    |double (double count / 1000) - count / 1000| * 1000000 < 1 / 2 := by
  have hcount : double (count : ℚ) = count := roundBinary_intCast (by rw [abs_of_nonneg h0]; omega)
  have hq : (0 : ℚ) ≤ count := by exact_mod_cast h0
  have hlt : |(count : ℚ) / 1000| < 2 ^ (33 : ℤ) := by
    have hcast : (count : ℚ) < 2 ^ 33 * 1000 := by exact_mod_cast h
    rw [abs_of_nonneg (by linarith)]
    norm_num at hcast ⊢
    linarith
  have hround := abs_roundBinary_sub_le_of_lt (p := 53) hlt
  rw [hcount]
  refine lt_of_le_of_lt (mul_le_mul_of_nonneg_right hround (by norm_num)) ?_
  norm_num

theorem double_nonneg (h0 : 0 ≤ count) : 0 ≤ double (double (count : ℚ) / 1000) :=
  roundBinary_nonneg (div_nonneg (roundBinary_nonneg (by exact_mod_cast h0)) (by norm_num))

theorem millionths_eq (h0 : 0 ≤ count) (h : count < 2 ^ 33 * 1000) :
    millionths (double (double count / 1000)) = 1000 * count.toNat := by
  have hround : roundEven (|double (double (count : ℚ) / 1000)| * 1000000) = 1000 * count := by
    refine roundEven_eq ?_
    rw [abs_of_nonneg (double_nonneg h0)]
    calc |double (double (count : ℚ) / 1000) * 1000000 - ((1000 * count : ℤ) : ℚ)| =
          |(double (double (count : ℚ) / 1000) - count / 1000) * 1000000| := by
          congr 1
          push_cast
          ring
      _ = |double (double (count : ℚ) / 1000) - count / 1000| * 1000000 := by
          rw [abs_mul, abs_of_pos (show (0 : ℚ) < 1000000 by norm_num)]
      _ < 1 / 2 := abs_double_sub_lt h0 h
  rw [millionths, hround]
  omega

/-- The time of a success is one that the text says exactly. -/
def ProbeResult.Printable (pr : ProbeResult) : Prop := pr.success = true → 0 ≤ pr.waitedFor ∧ pr.waitedFor < 2 ^ 33 * 1000

theorem decimalValue_waitedForStr (h0 : 0 ≤ pr.waitedFor) (h : pr.waitedFor < 2 ^ 33 * 1000) :
    decimalValue pr.waitedForStr.toList = pr.waitedFor / 1000 := by
  have hcast : ((pr.waitedFor.toNat : ℕ) : ℚ) = pr.waitedFor := by exact_mod_cast Int.toNat_of_nonneg h0
  rw [ProbeResult.waitedForStr, decimalValue_to_string (double_nonneg h0), millionths_eq h0 h]
  push_cast
  rw [hcast]
  ring

/-- One microsecond more than `2 ^ 33` milliseconds counts a thousandth of a microsecond too few. -/
theorem millionths_longer : millionths (double (double (2 ^ 33 * 1000 + 1 : ℤ) / 1000)) = 8589934592000999 := by
  have hcount : double ((2 ^ 33 * 1000 + 1 : ℤ) : ℚ) = (2 ^ 33 * 1000 + 1 : ℤ) := roundBinary_intCast (by norm_num)
  have hround : double (((2 ^ 33 * 1000 + 1 : ℤ) : ℚ) / 1000) = (4503599627371020 : ℤ) * 2 ^ ((33 : ℤ) + 1 - 53) :=
    roundBinary_eq (by norm_num) (by norm_num) (by norm_num [abs_of_pos])
  have hmillionths : roundEven (|(4503599627371020 : ℤ) * (2 : ℚ) ^ ((33 : ℤ) + 1 - 53)| * 1000000) = 8589934592000999 :=
    roundEven_eq (by norm_num [abs_of_pos, abs_lt])
  rw [millionths, hcount, hround, hmillionths]
  rfl

/-- The bound is sharp. -/
theorem decimalValue_waitedForStr_longer (h : pr.waitedFor = 2 ^ 33 * 1000 + 1) :
    decimalValue pr.waitedForStr.toList = pr.waitedFor / 1000 - 1 / 1000000 := by
  rw [ProbeResult.waitedForStr, decimalValue_to_string (double_nonneg (by omega)), h, millionths_longer]
  norm_num

/-- Digits, a point and perhaps a sign. -/
theorem mem_waitedForStr {x : Char} (hx : x ∈ pr.waitedForStr.toList) : x.isDigit = true ∨ x = '.' ∨ x = '-' := by
  have hchars : ∀ {value : ℚ}, x ∈ (to_string value).toList → x.isDigit = true ∨ x = '.' ∨ x = '-' := fun {value} hx => by
    simp only [to_string, String.toList_append, Nat.toList_repr, String.toList_ofList, List.mem_append] at hx
    rcases hx with ((hx | hx) | hx) | hx
    · split at hx
      · exact Or.inr (Or.inr (List.mem_singleton.mp hx))
      · cases hx
    · exact Or.inl (Nat.isDigit_of_mem_toDigits (by decide) (by decide) hx)
    · exact Or.inr (Or.inl (List.mem_singleton.mp hx))
    · exact Or.inl (isDigit_of_mem_lastDigits hx)
  rw [ProbeResult.waitedForStr, removeTrailingZeros, String.toList_ofList] at hx
  exact hchars ((List.rdropWhile_prefix _ _).subset hx)

theorem not_mem_waitedForStr {x : Char} (hdigit : x.isDigit = false) (hpoint : x ≠ '.') (hsign : x ≠ '-') :
    x ∉ pr.waitedForStr.toList := fun hx => by
  rcases mem_waitedForStr hx with h | h | h
  · rw [h] at hdigit
    cases hdigit
  · exact hpoint h
  · exact hsign h

/-! ### Lines -/

/-- What a line says: the texts of the sender and of the time, or that nothing came. -/
def ProbeResult.shown (inet_ntop : Int → Bytes → String) (pr : ProbeResult) : Option (List Char × List Char) :=
  if pr.success then some (((pr.responseSender.map (·.toString inet_ntop)).getD "").toList, pr.waitedForStr.toList) else none

/-- A line without its end. -/
def ProbeResult.body (inet_ntop : Int → Bytes → String) (pr : ProbeResult) : List Char :=
  match pr.shown inet_ntop with
  | some (sender, time) => sender ++ ' ' :: ' ' :: time ++ [' ', 'm', 's']
  | none => [' ', '*']

theorem toList_line : (pr.line inet_ntop).toList = pr.body inet_ntop ++ ['\n'] := by
  unfold ProbeResult.line ProbeResult.body ProbeResult.shown
  rw [String.toList_append, show "\n".toList = ['\n'] from rfl]
  congr 1
  by_cases hsuccess : pr.success = true
  · simp only [if_pos hsuccess, String.toList_append]
    rw [show "  ".toList = [' ', ' '] from rfl, show " ".toList = [' '] from rfl, show "ms".toList = ['m', 's'] from rfl]
    simp only [List.append_assoc, List.cons_append, List.nil_append]
  · simp only [if_neg hsuccess]
    rfl

/-- Two texts are cut alike at the first occurrence of a character. -/
theorem cut_inj {x : Char} {l l' r r' : List Char} (hl : x ∉ l) (hl' : x ∉ l') (h : l ++ x :: r = l' ++ x :: r') :
    l = l' ∧ r = r' := by
  induction l generalizing l' with
  | nil =>
    cases l' with
    | nil => exact ⟨rfl, (List.cons.inj h).2⟩
    | cons y l' => exact absurd (List.mem_cons.mpr (Or.inl (List.cons.inj h).1)) hl'
  | cons y l ih =>
    cases l' with
    | nil => exact absurd (List.mem_cons.mpr (Or.inl (List.cons.inj h).1.symm)) hl
    | cons z l' =>
      obtain ⟨rfl, h⟩ := List.cons.inj h
      obtain ⟨rfl, rfl⟩ := ih (fun hx => hl (List.mem_cons_of_mem _ hx)) (fun hx => hl' (List.mem_cons_of_mem _ hx)) (List.cons.inj h).2
      exact ⟨rfl, rfl⟩

/-- Lines can be told apart in a text of lines. -/
theorem flatMap_lines_inj {ls ls' : List (List Char)} (hls : ∀ l ∈ ls, '\n' ∉ l) (hls' : ∀ l ∈ ls', '\n' ∉ l)
    (h : ls.flatMap (· ++ ['\n']) = ls'.flatMap (· ++ ['\n'])) : ls = ls' := by
  induction ls generalizing ls' with
  | nil =>
    cases ls' with
    | nil => rfl
    | cons l ls' => simp at h
  | cons l ls ih =>
    cases ls' with
    | nil => simp at h
    | cons l' ls' =>
      simp only [List.flatMap_cons, List.append_assoc, List.singleton_append] at h
      obtain ⟨rfl, hrest⟩ := cut_inj (hls l List.mem_cons_self) (hls' l' List.mem_cons_self) h
      rw [ih (fun m hm => hls m (List.mem_cons_of_mem _ hm)) (fun m hm => hls' m (List.mem_cons_of_mem _ hm)) hrest]

theorem body_of_success (hsuccess : pr.success = true) : pr.body inet_ntop =
    ((pr.responseSender.map (·.toString inet_ntop)).getD "").toList ++ ' ' :: ' ' :: pr.waitedForStr.toList ++ [' ', 'm', 's'] := by
  rw [ProbeResult.body, ProbeResult.shown, if_pos hsuccess]

theorem body_of_failure (hfailure : ¬pr.success = true) : pr.body inet_ntop = [' ', '*'] := by
  rw [ProbeResult.body, ProbeResult.shown, if_neg hfailure]

theorem success_ne_failure {l : List Char} : l ++ [' ', 'm', 's'] ≠ [' ', '*'] := fun h => by
  have hlength := congrArg List.length h
  rw [List.length_append] at hlength
  simp at hlength

theorem newline_not_mem_body (hline : ∀ family address, '\n' ∉ (inet_ntop family address).toList) :
    '\n' ∉ pr.body inet_ntop := by
  by_cases hsuccess : pr.success = true
  · have hsender : '\n' ∉ ((pr.responseSender.map (·.toString inet_ntop)).getD "").toList := by
      cases pr.responseSender with
      | none => exact List.not_mem_nil
      | some sender =>
        show '\n' ∉ (sender.toString inet_ntop).toList
        rw [SocketAddress.toString]
        split
        · exact hline _ _
        · exact hline _ _
    have htime : '\n' ∉ pr.waitedForStr.toList := not_mem_waitedForStr (by decide) (by decide) (by decide)
    rw [body_of_success hsuccess]
    simp [hsender, htime]
  · rw [body_of_failure hsuccess]
    decide

/-- The time is cut from the sender at the last space before it. -/
theorem body_inj (heq : pr.body inet_ntop = pr'.body inet_ntop) :
    pr.shown inet_ntop = pr'.shown inet_ntop := by
  by_cases hsuccess : pr.success = true <;> by_cases hsuccess' : pr'.success = true
  · rw [body_of_success hsuccess, body_of_success hsuccess'] at heq
    have hcut := congrArg List.reverse (List.append_cancel_right heq)
    simp only [List.reverse_append, List.reverse_cons, List.append_assoc, List.singleton_append] at hcut
    have hspace : ∀ {q : ProbeResult}, ' ' ∉ q.waitedForStr.toList.reverse := fun hx =>
      not_mem_waitedForStr (by decide) (by decide) (by decide) (List.mem_reverse.mp hx)
    obtain ⟨htime, hsender⟩ := cut_inj hspace hspace hcut
    rw [ProbeResult.shown, ProbeResult.shown, if_pos hsuccess, if_pos hsuccess', List.reverse_injective htime,
      List.reverse_injective (List.cons.inj hsender).2]
  · rw [body_of_success hsuccess, body_of_failure hsuccess'] at heq
    exact absurd heq success_ne_failure
  · rw [body_of_failure hsuccess, body_of_success hsuccess'] at heq
    exact absurd heq.symm success_ne_failure
  · rw [ProbeResult.shown, ProbeResult.shown, if_neg hsuccess, if_neg hsuccess']

theorem body_congr (h : pr.shown inet_ntop = pr'.shown inet_ntop) : pr.body inet_ntop = pr'.body inet_ntop := by
  unfold ProbeResult.body
  rw [h]

theorem toList_toString (r : TracerouteResult) : (r.toString inet_ntop).toList =
    Nat.toDigits 10 r.ttl.toNat ++ ' ' :: ' ' :: (r.probeResults.map (·.body inet_ntop)).flatMap (· ++ ['\n']) := by
  have hfold : ∀ (l : List ProbeResult) (text : String), (l.foldl (fun result pr => result ++ pr.line inet_ntop) text).toList =
      text.toList ++ (l.map (·.body inet_ntop)).flatMap (· ++ ['\n']) := by
    intro l
    induction l with
    | nil => simp
    | cons pr l ih =>
      intro text
      rw [List.foldl_cons, ih, String.toList_append, toList_line, List.map_cons, List.flatMap_cons, List.append_assoc]
  rw [TracerouteResult.toString, hfold, String.toList_append, Nat.toList_repr, show "  ".toList = [' ', ' '] from rfl]
  simp only [List.append_assoc, List.cons_append, List.nil_append]

/-- The text of a result says its ttl, and for each probe whether it was answered, by whom and after which printed time: two
    results have one text when they agree in all of this, and only then. -/
theorem toString_eq_iff (inet_ntop : Int → Bytes → String) (hline : ∀ family address, '\n' ∉ (inet_ntop family address).toList)
    (r r' : TracerouteResult) :
    r.toString inet_ntop = r'.toString inet_ntop ↔
      r.ttl = r'.ttl ∧ r.probeResults.map (·.shown inet_ntop) = r'.probeResults.map (·.shown inet_ntop) := by
  rw [← String.toList_inj, toList_toString, toList_toString]
  constructor
  · intro heq
    obtain ⟨httl, hrest⟩ := cut_inj (not_mem_toDigits (by decide)) (not_mem_toDigits (by decide)) heq
    have hlines : ∀ {q : TracerouteResult}, ∀ l ∈ q.probeResults.map (·.body inet_ntop), '\n' ∉ l := fun l hl => by
      obtain ⟨pr, -, rfl⟩ := List.mem_map.mp hl
      exact newline_not_mem_body hline
    have hbodies := flatMap_lines_inj hlines hlines (List.cons.inj hrest).2
    refine ⟨UInt32.toNat_inj.mp ?_, ?_⟩
    · rw [← Nat.ofDigitChars_ten_toDigits (n := r.ttl.toNat), httl, Nat.ofDigitChars_ten_toDigits]
    · have hlen : r.probeResults.length = r'.probeResults.length := by simpa using congrArg List.length hbodies
      refine List.ext_getElem (by simpa using hlen) fun i hi hi' => ?_
      rw [List.getElem_map, List.getElem_map]
      refine body_inj ?_
      have hget := List.getElem_of_eq hbodies (i := i) (by simpa using hi)
      rwa [List.getElem_map, List.getElem_map] at hget
  · rintro ⟨httl, hshown⟩
    have hbodies : r.probeResults.map (·.body inet_ntop) = r'.probeResults.map (·.body inet_ntop) := by
      have hlen : r.probeResults.length = r'.probeResults.length := by simpa using congrArg List.length hshown
      refine List.ext_getElem (by simpa using hlen) fun i hi hi' => ?_
      rw [List.getElem_map, List.getElem_map]
      refine body_congr ?_
      have hget := List.getElem_of_eq hshown (i := i) (by simpa using hi)
      rwa [List.getElem_map, List.getElem_map] at hget
    rw [httl, hbodies]

/-- Two probes of one ttl, of which the second is not answered. -/
def twoProbes (waitedFor : Int) : TracerouteResult :=
  ⟨7, [successProbe waitedFor ⟨Vector.replicate 128 0⟩, failedProbe waitedFor]⟩

theorem toString_eq_iff_two : (twoProbes 1500).toString (fun _ _ => "10.0.0.1") ≠ (twoProbes 1501).toString fun _ _ => "10.0.0.1" := by
  intro heq
  have hshown := ((toString_eq_iff (fun _ _ => "10.0.0.1") (fun _ _ => by decide) (twoProbes 1500) (twoProbes 1501)).mp heq).2
  have htime := congrArg (fun l => (l.head?.bind id).map (·.2)) hshown
  have htime : (successProbe 1500 ⟨Vector.replicate 128 0⟩).waitedForStr.toList =
      (successProbe 1501 ⟨Vector.replicate 128 0⟩).waitedForStr.toList := Option.some.inj htime
  have hvalue := congrArg decimalValue htime
  rw [decimalValue_waitedForStr (by decide) (by decide), decimalValue_waitedForStr (by decide) (by decide)] at hvalue
  norm_num [successProbe] at hvalue

end Traceroute
