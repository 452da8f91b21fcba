import ForwardProxy.Proofs.Text
import ForwardProxy.Proofs.Text.LowerCase
import ForwardProxy.Text.Digits

/-!
This module contains the theory of written numbers. Main statements: `number?_toDigits` says that a
number is read back from its digits, in every base up to sixteen, and `exists_zeros_of_number?` that
nothing but its digits is read as it, save for zeros in front and the case of letters.
-/

namespace ForwardProxy.Text

theorem digit?_digitChar {base d : Nat} (hbase : base ≤ 16) (hd : d < base) :
    digit? base d.digitChar = some d := by
  have h : ∀ base < 17, ∀ d < base, digit? base d.digitChar = some d := by decide
  exact h base (by omega) d hd

theorem digitChar_of_mem_toDigits {base n : Nat} (hb : 1 < base) {c : Char}
    (hc : c ∈ Nat.toDigits base n) : ∃ d < base, c = d.digitChar := by
  induction n using Nat.strongRecOn with
  | ind n ih =>
    rw [Nat.toDigits_eq_if hb] at hc
    split at hc
    · next hn => exact ⟨n, hn, List.mem_singleton.1 hc⟩
    · next hn =>
      rw [List.mem_append] at hc
      cases hc with
      | inl hc =>
        apply ih (n / base) _ hc
        apply Nat.div_lt_self <;> omega
      | inr hc => exact ⟨n % base, Nat.mod_lt _ (by omega), List.mem_singleton.1 hc⟩

theorem readDigits_toDigits {base : Nat} (hb : 1 < base) (hbase : base ≤ 16) (n : Nat) :
    readDigits base 0 (Nat.toDigits base n) = some n := by
  -- The last digit is cut off, and the digits before it are those of a smaller number.
  induction n using Nat.strongRecOn with
  | ind n ih =>
    rw [Nat.toDigits_eq_if hb]
    split
    · next hn =>
      simp only [readDigits, digit?_digitChar hbase hn]
      simp
    · next hn =>
      have hmod : n % base < base := Nat.mod_lt _ (by omega)
      have hdiv : n / base < n := by apply Nat.div_lt_self <;> omega
      rw [readDigits_append, ih _ hdiv]
      simp only [Option.bind_some, readDigits, digit?_digitChar hbase hmod]
      rw [Nat.div_add_mod']

theorem readDigits_eq_none {base n : Nat} {s : Text} {c : Char} (hmem : c ∈ s)
    (hc : digit? base c = none) : readDigits base n s = none := by
  induction s generalizing n with
  | nil => contradiction
  | cons d s ih =>
    unfold readDigits
    rw [List.mem_cons] at hmem
    cases hmem with
    | inl h =>
      rw [← h, hc]
    | inr h =>
      split
      · exact ih h
      · rfl

theorem number?_toDigits {base : Nat} (hb : 1 < base) (hbase : base ≤ 16) (n : Nat) :
    number? base (Nat.toDigits base n) = some n := by
  unfold number?
  rw [if_neg (by simp)]
  apply readDigits_toDigits hb hbase

theorem head?_toDigits_ne_zero {base n : Nat} (hb : 1 < base) (hn : 0 < n) :
    (Nat.toDigits base n).head? ≠ some '0' := by
  induction n using Nat.strongRecOn with
  | ind n ih =>
    rw [Nat.toDigits_eq_if hb]
    split
    · next hlt =>
      rw [List.head?_cons, Ne, Option.some.injEq, Nat.digitChar_eq_zero]
      omega
    · next hle =>
      have hdiv : 0 < n / base := Nat.div_pos (by omega) (by omega)
      have hlt : n / base < n := by apply Nat.div_lt_self <;> omega
      rw [List.head?_append_of_ne_nil _ Nat.toDigits_ne_nil]
      exact ih _ hlt hdiv

theorem isDecimal_of_mem_ofNat {n : Nat} {c : Char} (hc : c ∈ ofNat n) : isDecimal c = true := by
  obtain ⟨d, hd, rfl⟩ := digitChar_of_mem_toDigits (by decide) hc
  rw [isDecimal, digit?_digitChar (by decide) hd]
  rfl

theorem number?_ofNat (n : Nat) : number? 10 (ofNat n) = some n := by
  apply number?_toDigits <;> decide

theorem toNat_of_isDecimal {c : Char} (hc : isDecimal c = true) :
    48 ≤ c.toNat ∧ c.toNat ≤ 57 := by
  unfold isDecimal digit? at hc
  grind

theorem ascii_of_isDecimal {c : Char} (hc : isDecimal c = true) : c.toNat < 0x80 := by
  have := toNat_of_isDecimal hc
  omega

theorem forall_decimal {p : Char → Prop} (h : ∀ d < 10, p (Char.ofNat (48 + d))) {c : Char}
    (hc : isDecimal c = true) : p c := by
  obtain ⟨hlow, hhigh⟩ := toNat_of_isDecimal hc
  have hdigit := h (c.toNat - 48) (by omega)
  rwa [Nat.add_sub_cancel' hlow, Char.ofNat_toNat] at hdigit

theorem digit?_of_le {base base' d : Nat} {c : Char} (hle : base ≤ base')
    (h : digit? base c = some d) : digit? base' c = some d := by
  unfold digit? at h ⊢
  grind

theorem readDigits_le {base base' m n : Nat} {s : Text} {k : Nat} (hbase : base ≤ base')
    (hmn : m ≤ n) (h : readDigits base m s = some k) :
    ∃ k', readDigits base' n s = some k' ∧ k ≤ k' := by
  induction s generalizing m n with
  | nil =>
    rw [readDigits, Option.some.injEq] at h
    exact ⟨n, rfl, h ▸ hmn⟩
  | cons c s ih =>
    cases hdigit : digit? base c with
    | none =>
      rw [readDigits, hdigit] at h
      contradiction
    | some d =>
      simp only [readDigits, hdigit] at h
      simp only [readDigits, digit?_of_le hbase hdigit]
      have hstep : m * base + d ≤ n * base' + d := Nat.add_le_add_right (Nat.mul_le_mul hmn hbase) d
      exact ih hstep h

theorem isDecimal_of_number? {s : Text} {n : Nat} (h : number? 10 s = some n) :
    ∀ c ∈ s, isDecimal c = true := by
  intro c hc
  unfold number? at h
  split at h
  · contradiction
  · unfold isDecimal
    rw [Option.isSome_iff_ne_none]
    intro hnone
    rw [readDigits_eq_none hc hnone] at h
    contradiction

theorem ne_nil_of_number? {base : Nat} {s : Text} {n : Nat} (h : number? base s = some n) :
    s ≠ [] := by
  rintro rfl
  contradiction

theorem isSome_digit?_of_isDecimal {c : Char} (hc : isDecimal c = true) :
    (digit? 16 c).isSome = true := by
  unfold isDecimal digit? at hc
  unfold digit?
  grind

theorem toNat_of_digit? {base : Nat} {c : Char} (hc : (digit? base c).isSome = true) :
    48 ≤ c.toNat ∧ c.toNat ≤ 57 ∨ 65 ≤ c.toNat ∧ c.toNat ≤ 70 ∨
      97 ≤ c.toNat ∧ c.toNat ≤ 102 := by
  unfold digit? at hc
  grind

section Spelling

variable {base m n zeros : Nat} {s : Text} {c : Char}

theorem lt_of_digit? {d : Nat} (h : digit? base c = some d) : d < base := by
  unfold digit? at h
  dsimp only at h
  rw [Option.ite_none_right_eq_some] at h
  rw [← Option.some.inj h.2]
  exact h.1

theorem toLower_of_digit? {d : Nat} (hbase : base ≤ 16) (h : digit? base c = some d) :
    c.toLower = d.digitChar := by
  have hdigit := digit?_of_le hbase h
  have hc : c.toNat < 0x80 := by
    have := toNat_of_digit? (Option.isSome_of_eq_some hdigit)
    omega
  apply forall_ascii (p := fun c => ∀ d ∈ digit? 16 c, c.toLower = d.digitChar) _ hc d hdigit
  decide

theorem toDigits_append_of_readDigits (hb : 1 < base) (hbase : base ≤ 16) (hm : 0 < m)
    (h : readDigits base m s = some n) :
    Nat.toDigits base m ++ s.map Char.toLower = Nat.toDigits base n := by
  induction s generalizing m with
  | nil =>
    rw [readDigits, Option.some.injEq] at h
    rw [h, List.map_nil, List.append_nil]
  | cons c s ih =>
    unfold readDigits at h
    split at h
    · next d hd =>
      have hlt := lt_of_digit? hd
      have hpos : 0 < m * base + d := Nat.add_pos_left (Nat.mul_pos hm (by omega)) d
      have hdigits := Nat.toDigits_append_toDigits hb hm hlt
      rw [Nat.toDigits_of_lt_base hlt, Nat.mul_comm] at hdigits
      rw [← ih hpos h, ← hdigits, List.map_cons, toLower_of_digit? hbase hd]
      rw [List.append_assoc, List.singleton_append]
    · contradiction

theorem exists_zeros_of_readDigits (hb : 1 < base) (hbase : base ≤ 16) (hne : s ≠ [])
    (h : readDigits base 0 s = some n) :
    ∃ zeros, s.map Char.toLower = List.replicate zeros '0' ++ Nat.toDigits base n := by
  induction s with
  | nil => contradiction
  | cons c s ih =>
    unfold readDigits at h
    split at h
    · next d hd =>
      rw [Nat.zero_mul, Nat.zero_add] at h
      have hlt := lt_of_digit? hd
      rw [List.map_cons, toLower_of_digit? hbase hd]
      cases Nat.eq_zero_or_pos d with
      | inr hpos =>
        refine ⟨0, ?_⟩
        rw [← toDigits_append_of_readDigits hb hbase hpos h, Nat.toDigits_of_lt_base hlt]
        rfl
      | inl hzero =>
        subst hzero
        cases s with
        | nil =>
          rw [readDigits, Option.some.injEq] at h
          rw [← h, Nat.toDigits_of_lt_base hlt]
          exact ⟨0, rfl⟩
        | cons c' s =>
          obtain ⟨zeros, hzeros⟩ := ih (List.cons_ne_nil _ _) h
          rw [hzeros]
          exact ⟨zeros + 1, rfl⟩
    · contradiction

theorem exists_zeros_of_number? (hb : 1 < base) (hbase : base ≤ 16) (h : number? base s = some n) :
    ∃ zeros, s.map Char.toLower = List.replicate zeros '0' ++ Nat.toDigits base n := by
  have hne := ne_nil_of_number? h
  unfold number? at h
  rw [if_neg (by simpa using hne)] at h
  exact exists_zeros_of_readDigits hb hbase hne h

theorem map_toLower_of_number? (h : number? 10 s = some n) : s.map Char.toLower = s := by
  apply map_toLower_eq_self
  intro c hc
  apply forall_decimal (p := fun c => c.isUpper = false) _ (isDecimal_of_number? h c hc)
  decide

theorem readDigits_map_toLower : readDigits 16 m (s.map Char.toLower) = readDigits 16 m s := by
  induction s generalizing m with
  | nil => rfl
  | cons c s ih =>
    have hc : digit? 16 c.toLower = digit? 16 c := apply_toLower (by decide) c
    simp only [List.map_cons, readDigits, hc, ih]

theorem readDigits_replicate_append (hb : 0 < base) :
    readDigits base 0 (List.replicate zeros '0' ++ s) = readDigits base 0 s := by
  have hzero : digit? base '0' = some 0 := if_pos hb
  induction zeros with
  | zero => rfl
  | succ zeros ih =>
    rw [List.replicate_succ, List.cons_append, readDigits, hzero]
    simp only [Nat.zero_mul, Nat.add_zero, ih]

theorem number?_hex_eq_some_iff :
    number? 16 s = some n ↔ ∃ zeros, s.map Char.toLower = List.replicate zeros '0' ++ hex n := by
  constructor
  · exact exists_zeros_of_number? (by decide) (by decide)
  · rintro ⟨zeros, hs⟩
    have hne : s ≠ [] := by
      rintro rfl
      have hnil := (List.append_eq_nil_iff.1 hs.symm).2
      exact Nat.toDigits_ne_nil hnil
    unfold number?
    rw [if_neg (by simpa using hne), ← readDigits_map_toLower, hs]
    rw [readDigits_replicate_append (by decide)]
    exact readDigits_toDigits (by decide) (by decide) n

end Spelling

end ForwardProxy.Text
