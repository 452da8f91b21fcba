import ForwardProxy.Proofs.Url.Presence

/-!
This module contains what URLs are made of a scheme and a number alone. Main statements:
`parseServer_of_number` says that a server's number is an address, and `parseGeneric_of_decimal`
that elsewhere it is a path.
-/

namespace ForwardProxy

open Text (isDecimal number?)

namespace Idna

variable {denied : Char → Bool} {s : Text}

theorem plain_of_isDecimal {c : Char} (h : isDecimal c = true) :
    c ≠ '.' ∧ c ≠ 'x' ∧ c.toLower = c ∧
      Unicode.bidiClass c ∉
        [Unicode.BidiClass.rightToLeft, .arabicLetter, .arabicNumber] := by
  apply Text.forall_decimal (p := fun c => c ≠ '.' ∧ c ≠ 'x' ∧ c.toLower = c ∧
    Unicode.bidiClass c ∉ [Unicode.BidiClass.rightToLeft, .arabicLetter, .arabicNumber]) _ h
  decide

theorem mapped?_of_decimal (h : ∀ c ∈ s, isDecimal c = true) : mapped? s = some s := by
  rw [mapped?_of_ascii fun c hc => Text.ascii_of_isDecimal (h c hc)]
  rw [List.map_congr_left fun c hc => (plain_of_isDecimal (h c hc)).2.2.1, List.map_id']

theorem unicodeLabel?_of_decimal (h : ∀ c ∈ s, isDecimal c = true) :
    unicodeLabel? denied s = some s := by
  have hmarker : Text.dropStart? marker s = none := by
    cases hdrop : Text.dropStart? marker s with
    | none => rfl
    | some coded =>
      obtain rfl := Text.dropStart?_eq_some_iff.1 hdrop
      have hx : 'x' ∈ marker ++ coded := List.mem_append_left _ (by decide)
      exact absurd rfl (plain_of_isDecimal (h _ hx)).2.1
  unfold unicodeLabel?
  rw [hmarker]

theorem toAscii?_of_decimal (h : ∀ c ∈ s, isDecimal c = true)
    (hdenied : ∀ c ∈ s, denied c = false) : toAscii? denied s = some s := by
  have hascii : ∀ c ∈ s, c.toNat < 0x80 := fun c hc => Text.ascii_of_isDecimal (h c hc)
  have hlabels : s.splitOn '.' = [s] := by
    apply List.splitOn_eq_singleton
    intro hdot
    exact (plain_of_isDecimal (h _ hdot)).1 rfl
  have hdirection : runsRightToLeft s = false := by
    unfold runsRightToLeft
    rw [List.any_eq_false]
    intro c hc
    simpa using (plain_of_isDecimal (h c hc)).2.2.2
  have hsound : isSound s = true := by
    unfold isSound
    rw [Text.isAscii_iff.2 hascii, Bool.true_or]
  have hlabel : asciiLabel s = s := if_pos (Text.isAscii_iff.2 hascii)
  unfold toAscii?
  rw [mapped?_of_decimal h, Option.bind_eq_bind, Option.bind_some]
  rw [if_neg (by simpa using hdenied)]
  dsimp only
  rw [hlabels, List.mapM_cons, unicodeLabel?_of_decimal h]
  simp [hsound, hdirection, hlabel]

end Idna

namespace Url

variable {s scheme : Text} {defaultPort : UInt16} {n : Nat}

theorem plain_of_isDecimal {c : Char} (h : isDecimal c = true) :
    isDenied c = false ∧ isMargin c = false ∧ keepsInPlain c = true ∧
      c ∉ ['.', '%', ':', '@', '[', '/', '\\', '?', '#', 'x', 'X'] := by
  apply Text.forall_decimal (p := fun c => isDenied c = false ∧ isMargin c = false ∧
    keepsInPlain c = true ∧ c ∉ ['.', '%', ':', '@', '[', '/', '\\', '?', '#', 'x', 'X']) _ h
  decide

theorem not_mem_of_decimal {c : Char} (h : ∀ c ∈ s, isDecimal c = true)
    (hc : c ∈ ['.', '%', ':', '@', '[', '/', '\\', '?', '#', 'x', 'X']) : c ∉ s := by
  intro hmem
  exact (plain_of_isDecimal (h c hmem)).2.2.2 hc

theorem addressPart?_le (h : number? 10 s = some n) {m : Nat} (hm : addressPart? s = some m) :
    m ≤ n := by
  unfold addressPart? at hm
  split at hm
  · next x digits =>
    have hx := Text.isDecimal_of_number? h x (List.mem_cons_of_mem _ List.mem_cons_self)
    have hne := (plain_of_isDecimal hx).2.2.2
    simp only [List.mem_cons, not_or] at hne
    rw [if_neg (by simp [hne])] at hm
    have hoctal : Text.readDigits 8 0 (x :: digits) = some m := hm
    obtain ⟨k, hk, hle⟩ := Text.readDigits_le (show 8 ≤ 10 by decide) (Nat.le_refl 0) hoctal
    have hdecimal : Text.readDigits 10 0 (x :: digits) = some n := h
    rw [hk, Option.some.injEq] at hdecimal
    omega
  · rw [h, Option.some.injEq] at hm
    omega

theorem addressParts_of_decimal (hne : s ≠ []) (h : ∀ c ∈ s, isDecimal c = true) :
    addressParts s = [s] := by
  unfold addressParts
  rw [List.splitOn_eq_singleton (not_mem_of_decimal h (by decide))]
  exact if_neg (by simpa using hne)

theorem endsInNumber_of_number (h : number? 10 s = some n) : endsInNumber s = true := by
  unfold endsInNumber
  rw [addressParts_of_decimal (Text.ne_nil_of_number? h) (Text.isDecimal_of_number? h)]
  dsimp only [List.getLast?_singleton]
  rw [h]
  rfl

theorem address?_of_number (h : number? 10 s = some n) (hn : n < 65536) :
    address? s = (addressPart? s).map Ip.V4.ofNat := by
  have hparts := addressParts_of_decimal (Text.ne_nil_of_number? h) (Text.isDecimal_of_number? h)
  unfold address?
  rw [hparts]
  dsimp only
  rw [List.mapM_cons, List.mapM_nil]
  cases hpart : addressPart? s with
  | none => rfl
  | some m =>
    have hm := addressPart?_le h hpart
    have hroom : m < 4294967296 := by omega
    simp [hroom]

theorem serverHost_of_number (h : number? 10 s = some n) (hn : n < 65536) :
    serverHost s =
      match addressPart? s with
      | some m => .ok (.ipv4 (.ofNat m))
      | none => .error .invalidIpv4 := by
  have hdecimal := Text.isDecimal_of_number? h
  rw [serverHost_of_plain]
  · rw [Idna.toAscii?_of_decimal hdecimal fun c hc => (plain_of_isDecimal (hdecimal c hc)).1]
    unfold hostOfAscii
    dsimp only
    rw [endsInNumber_of_number h, address?_of_number h hn]
    rw [if_neg (by simpa using Text.ne_nil_of_number? h), if_pos rfl]
    cases addressPart? s with
    | none => rfl
    | some m => rfl
  · intro hhead
    exact not_mem_of_decimal hdecimal (by decide) (List.mem_of_head? hhead)
  · exact not_mem_of_decimal hdecimal (by decide)

theorem serverAuthority_of_number (h : number? 10 s = some n) (hn : n < 65536) :
    serverAuthority defaultPort s =
      match addressPart? s with
      | some m => .ok ⟨[], [], some (.ipv4 (.ofNat m)), none⟩
      | none => .error .invalidIpv4 := by
  have hdecimal := Text.isDecimal_of_number? h
  have hcut : RawAuthority.cut s = ⟨none, s, []⟩ := by
    rw [RawAuthority.cut_of_not_mem (not_mem_of_decimal hdecimal (by decide))]
    rw [cutHost_of_not_mem (not_mem_of_decimal hdecimal (by decide))]
  unfold serverAuthority
  rw [hcut]
  dsimp only
  rw [if_neg (by simpa using Text.ne_nil_of_number? h), serverHost_of_number h hn]
  cases addressPart? s with
  | none => rfl
  | some m => rfl

theorem parseServer_of_number (h : number? 10 s = some n) (hn : n < 65536) :
    parseServer scheme defaultPort s =
      match addressPart? s with
      | some m => .ok ⟨scheme, some ⟨[], [], some (.ipv4 (.ofNat m)), none⟩, .segments [[]], none,
          none⟩
      | none => .error .invalidIpv4 := by
  have hdecimal := Text.isDecimal_of_number? h
  have hslash : ∀ c ∈ s, isSlash c = false := by
    intro c hc
    have := (plain_of_isDecimal (hdecimal c hc)).2.2.2
    simp only [List.mem_cons, not_or] at this
    simp [isSlash, this]
  have hpart : ∀ c ∈ s, (!(endsAuthority c || c = '\\')) = true := by
    intro c hc
    have := (plain_of_isDecimal (hdecimal c hc)).2.2.2
    simp only [List.mem_cons, not_or] at this
    simp [endsAuthority, this]
  unfold parseServer
  dsimp only
  rw [Text.dropWhile_eq_self hslash, List.takeWhile_eq_self_iff.2 hpart]
  rw [List.dropWhile_eq_nil_iff.2 hpart, serverAuthority_of_number h hn]
  cases addressPart? s with
  | none => rfl
  | some m => rfl

theorem parseGeneric_of_decimal (h : ∀ c ∈ s, isDecimal c = true) :
    parseGeneric scheme s = .ok ⟨scheme, none, .plain s, none, none⟩ := by
  have hslash : '/' ∉ s := not_mem_of_decimal h (by decide)
  have htail : Tail.cut s = ⟨s, none, none⟩ := by
    unfold Tail.cut
    rw [Text.cutFirst?_eq_none_iff.2 (not_mem_of_decimal h (by decide))]
    dsimp only
    rw [Text.cutFirst?_eq_none_iff.2 (not_mem_of_decimal h (by decide))]
  have hencode : Percent.encode keepsInPlain s = s := by
    apply Percent.encode_eq_self
    intro c hc
    exact (plain_of_isDecimal (h c hc)).2.2.1
  unfold parseGeneric
  split
  · simp at hslash
  · simp at hslash
  · dsimp only
    rw [htail, hencode]
    rfl

end Url

end ForwardProxy
