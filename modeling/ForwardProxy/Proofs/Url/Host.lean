import ForwardProxy.Proofs.Idna
import ForwardProxy.Proofs.Ip.V4
import ForwardProxy.Proofs.Percent
import ForwardProxy.Proofs.Url.Parse

/-!
This module contains the theory of reading hosts. Main statements: `serverHost_toText_ne_nil` says
that a host is never empty, and `serverHost_of_isScheme` what host the text of a scheme is.
-/

namespace ForwardProxy

namespace Url

open Text (number? digit?)

theorem bracketed_toText_ne_nil {s : Text} {host : Host} (h : bracketed s = .ok host) :
    host.toText ≠ [] := by
  unfold bracketed at h
  split at h
  · split at h
    · rw [Except.ok.injEq] at h
      rw [← h]
      exact List.cons_ne_nil _ _
    · contradiction
  · contradiction

theorem bracketed_ne_domain {s name : Text} : bracketed s ≠ .ok (.domain name) := by
  intro h
  unfold bracketed at h
  split at h
  · split at h
    · rw [Except.ok.injEq] at h
      contradiction
    · contradiction
  · contradiction

theorem serverHost_toText_ne_nil {s : Text} {host : Host} (h : serverHost s = .ok host) :
    host.toText ≠ [] := by
  unfold serverHost at h
  split at h
  · exact bracketed_toText_ne_nil h
  · split at h
    · contradiction
    · next name _ =>
      split at h
      · contradiction
      · next hname =>
        split at h
        · split at h
          · next address _ =>
            rw [Except.ok.injEq] at h
            rw [← h]
            intro hnil
            have hread := Ip.V4.ofText?_toText address
            rw [show address.toText = [] from hnil] at hread
            contradiction
          · contradiction
        · rw [Except.ok.injEq] at h
          rw [← h]
          simpa [Host.toText] using hname

theorem genericHost_toText_ne_nil {s : Text} {host : Host} (hne : s ≠ [])
    (h : genericHost s = .ok host) : host.toText ≠ [] := by
  unfold genericHost at h
  split at h
  · exact bracketed_toText_ne_nil h
  · split at h
    · contradiction
    · rw [Except.ok.injEq] at h
      rw [← h]
      rwa [Host.toText, Ne, Percent.encode_eq_nil_iff]

def hostOfAscii : Option Text → Except ParseError Host
  | none => .error .invalidDomainName
  | some name =>
    if name.isEmpty then .error .emptyHost
    else if endsInNumber name then
      match address? name with
      | some address => .ok (.ipv4 address)
      | none => .error .invalidIpv4
    else .ok (.domain name)

theorem serverHost_of_plain {s : Text} (hbracket : s.head? ≠ some '[') (hpercent : '%' ∉ s) :
    serverHost s = hostOfAscii (Idna.toAscii? isDenied s) := by
  unfold serverHost
  split
  · simp at hbracket
  · rw [Percent.decode?_eq_self hpercent, Option.bind_some]
    rfl

theorem toLower_of_isAlpha {c : Char} (h : c.isAlpha = true) :
    c.toLower ≠ '.' ∧ c.toLower ≠ '0' ∧ digit? 10 c.toLower = none := by
  have hascii : c.toNat < 0x80 := by
    apply Text.ascii_of_isAlphanum
    rw [Char.isAlphanum, h, Bool.true_or]
  apply Text.forall_ascii (p := fun c => c.isAlpha = true →
    c.toLower ≠ '.' ∧ c.toLower ≠ '0' ∧ digit? 10 c.toLower = none) _ hascii h
  decide

theorem addressPart?_eq_none {c : Char} {s : Text} (h0 : c ≠ '0') (h : digit? 10 c = none) :
    addressPart? (c :: s) = none := by
  have hread : number? 10 (c :: s) = none := by
    simp [number?, Text.readDigits, h]
  unfold addressPart?
  split
  · next heq => exact absurd (List.cons.inj heq).1 h0
  · exact hread

theorem addressParts_cons {c : Char} {s : Text} (h : c ≠ '.') :
    ∃ part parts, addressParts (c :: s) = (c :: part) :: parts := by
  have hsplit : ∃ part parts, (c :: s).splitOn '.' = (c :: part) :: parts := by
    rw [List.splitOn_cons_eq_if_modifyHead, beq_false_of_ne h]
    cases hs : s.splitOn '.' with
    | nil => exact absurd hs (List.splitOn_ne_nil _ _)
    | cons part parts => exact ⟨part, parts, rfl⟩
  obtain ⟨part, parts, hsplit⟩ := hsplit
  unfold addressParts
  rw [hsplit]
  dsimp only
  split
  · next hlast =>
    cases parts with
    | nil => simp at hlast
    | cons next parts => exact ⟨part, (next :: parts).dropLast, rfl⟩
  · exact ⟨part, parts, rfl⟩

theorem address?_eq_none {c : Char} {s : Text} (hdot : c ≠ '.') (h0 : c ≠ '0')
    (h : digit? 10 c = none) : address? (c :: s) = none := by
  obtain ⟨part, parts, hparts⟩ := addressParts_cons hdot
  have hnumbers : (addressParts (c :: s)).mapM addressPart? = none := by
    rw [hparts, List.mapM_cons, addressPart?_eq_none h0 h]
    rfl
  unfold address?
  dsimp only
  rw [hnumbers]
  rfl

def isFront (c : Char) : Bool :=
  isMargin c || isSchemeChar c

theorem plain_of_isFront {c : Char} (h : isFront c = true) :
    c.toNat < 0x80 ∧ c ∉ ['%', ':', '@', '[', '/', '\\', '?', '#'] := by
  have hascii : c.toNat < 0x80 := by
    simp only [isFront, isMargin, isSchemeChar, Bool.or_eq_true, decide_eq_true_eq] at h
    rcases h with h | ((h | rfl) | rfl) | rfl
    · omega
    · exact Text.ascii_of_isAlphanum h
    · decide
    · decide
    · decide
  refine ⟨hascii, ?_⟩
  apply Text.forall_ascii (p := fun c => isFront c = true →
    c ∉ ['%', ':', '@', '[', '/', '\\', '?', '#']) _ hascii h
  decide

theorem isFront_of_mem_scheme {scheme : Text} (h : isScheme scheme = true) :
    ∀ c ∈ scheme, isFront c = true := by
  intro c hc
  rw [isFront, isSchemeChar_of_mem h hc, Bool.or_true]

theorem isScheme_map_toLower (s : Text) : isScheme (s.map Char.toLower) = isScheme s := by
  have hinside : isSchemeChar ∘ Char.toLower = isSchemeChar := by
    funext c
    exact Text.apply_toLower (by decide) c
  cases s with
  | nil => rfl
  | cons c s =>
    have hfirst : c.toLower.isAlpha = c.isAlpha := Text.apply_toLower (by decide) c
    rw [List.map_cons, isScheme, isScheme, hfirst, List.all_map, hinside]

variable {s scheme : Text} {host : Host}

theorem serverHost_of_isFront (h : ∀ c ∈ s, isFront c = true) :
    serverHost s = hostOfAscii (Idna.toAscii? isDenied s) := by
  apply serverHost_of_plain
  · intro hhead
    exact (plain_of_isFront (h _ (List.mem_of_head? hhead))).2 (by decide)
  · intro hmem
    exact (plain_of_isFront (h _ hmem)).2 (by decide)

theorem hostOfAscii_eq_ok {ascii : Option Text} (h : hostOfAscii ascii = .ok host) :
    ∃ name, ascii = some name ∧
      (host = .domain name ∨ ∃ address, address? name = some address) := by
  unfold hostOfAscii at h
  split at h
  · contradiction
  · next name =>
    refine ⟨name, rfl, ?_⟩
    split at h
    · contradiction
    · split at h
      · split at h
        · next address haddress => exact .inr ⟨address, haddress⟩
        · contradiction
      · rw [Except.ok.injEq] at h
        exact .inl h.symm

theorem isMargin_of_serverHost (h : ∀ c ∈ s, isFront c = true)
    (hhost : serverHost s = .ok host) : ∀ c ∈ s, isMargin c = false := by
  rw [serverHost_of_isFront h] at hhost
  obtain ⟨name, hname, -⟩ := hostOfAscii_eq_ok hhost
  have hascii : ∀ c ∈ s, c.toNat < 0x80 := fun c hc => (plain_of_isFront (h c hc)).1
  obtain ⟨rfl, hdenied⟩ := Idna.toAscii?_eq_map_toLower hascii hname
  intro c hc
  have hfalse := hdenied c.toLower (List.mem_map_of_mem hc)
  apply Text.forall_ascii (p := fun c => isDenied c.toLower = false → isMargin c = false) _
    (hascii c hc) hfalse
  decide

theorem serverHost_of_isScheme (h : isScheme scheme = true) (hhost : serverHost scheme = .ok host) :
    host = .domain (scheme.map Char.toLower) := by
  have hfront := isFront_of_mem_scheme h
  have hascii : ∀ c ∈ scheme, c.toNat < 0x80 := fun c hc => (plain_of_isFront (hfront c hc)).1
  rw [serverHost_of_isFront hfront] at hhost
  obtain ⟨name, hname, hhost⟩ := hostOfAscii_eq_ok hhost
  have hlower := (Idna.toAscii?_eq_map_toLower hascii hname).1
  cases hhost with
  | inl hhost => rw [hhost, hlower]
  | inr hhost =>
    obtain ⟨address, haddress⟩ := hhost
    cases scheme with
    | nil => contradiction
    | cons c rest =>
      rw [isScheme, Bool.and_eq_true] at h
      obtain ⟨hdot, h0, hdigit⟩ := toLower_of_isAlpha h.1
      rw [hlower, List.map_cons, address?_eq_none hdot h0 hdigit] at haddress
      contradiction

theorem serverHost_map_toLower (h : isScheme scheme = true) :
    serverHost (scheme.map Char.toLower) = serverHost scheme := by
  have hfront := isFront_of_mem_scheme h
  have hascii : ∀ c ∈ scheme, c.toNat < 0x80 := fun c hc => (plain_of_isFront (hfront c hc)).1
  have hlower : ∀ c ∈ scheme.map Char.toLower, isFront c = true := by
    intro c hc
    obtain ⟨d, hd, rfl⟩ := List.mem_map.1 hc
    apply Text.forall_ascii (p := fun c => isFront c = true → isFront c.toLower = true) _
      (hascii d hd) (hfront d hd)
    decide
  rw [serverHost_of_isFront hlower, serverHost_of_isFront hfront, Idna.toAscii?_map_toLower hascii]

end Url

end ForwardProxy
