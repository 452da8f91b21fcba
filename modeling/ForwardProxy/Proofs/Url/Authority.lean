import ForwardProxy.Proofs.Url.Host
import ForwardProxy.Url.Authority

/-!
This module contains the theory of reading authorities. Main statements: `serverAuthority_host_iff`
says when an authority names a server, and `genericAuthority_hostless_iff` when any other authority
names no host.
-/

namespace ForwardProxy.Url

theorem cutHost_append (inBrackets : Bool) (s : Text) :
    (cutHost inBrackets s).1 ++ (cutHost inBrackets s).2 = s := by
  induction s generalizing inBrackets with
  | nil => rfl
  | cons c s ih =>
    unfold cutHost
    split
    · rfl
    · dsimp only
      rw [List.cons_append, ih]

theorem cutHost_eq_nil_iff {s : Text} :
    (cutHost false s).1 = [] ∧ (cutHost false s).2 = [] ↔ s = [] := by
  rw [← List.append_eq_nil_iff, cutHost_append]

theorem cutHost_append_colon {host port : Text} (hcolon : ':' ∉ host) (hopen : '[' ∉ host) :
    cutHost false (host ++ ':' :: port) = (host, ':' :: port) := by
  induction host with
  | nil => simp [cutHost]
  | cons c host ih =>
    rw [List.mem_cons, not_or] at hcolon hopen
    have hbracket : (c = '[' : Bool) = false := decide_eq_false (Ne.symm hopen.1)
    rw [List.cons_append]
    unfold cutHost
    rw [if_neg fun h => hcolon.1 h.1.symm]
    simp only [hbracket, Bool.false_and, Bool.or_false, ih hcolon.2 hopen.2]

theorem cutHost_of_not_mem {inBrackets : Bool} {host : Text} (h : ':' ∉ host) :
    cutHost inBrackets host = (host, []) := by
  induction host generalizing inBrackets with
  | nil => rfl
  | cons c host ih =>
    rw [List.mem_cons, not_or] at h
    unfold cutHost
    rw [if_neg fun hc => h.1 hc.1.symm, ih h.2]

namespace RawAuthority

theorem cut_of_not_mem {s : Text} (h : '@' ∉ s) :
    cut s = ⟨none, (cutHost false s).1, (cutHost false s).2⟩ := by
  unfold cut
  rw [Text.cutLast?_eq_none_iff.2 h]

theorem cut_append_at {credentials s : Text} (h : '@' ∉ s) :
    cut (credentials ++ '@' :: s) =
      ⟨some credentials, (cutHost false s).1, (cutHost false s).2⟩ := by
  unfold cut
  rw [Text.cutLast?_eq_some_iff.2 ⟨rfl, h⟩]

theorem cut_cases (s : Text) :
    '@' ∉ s ∨ ∃ credentials rest, s = credentials ++ '@' :: rest ∧ '@' ∉ rest := by
  cases h : Text.cutLast? '@' s with
  | none => exact .inl (Text.cutLast?_eq_none_iff.1 h)
  | some p => exact .inr ⟨p.1, p.2, Text.cutLast?_eq_some_iff.1 h⟩

end RawAuthority

theorem throw_bind {ε α β : Type} (e : ε) (f : α → Except ε β) :
    (throw e >>= f : Except ε β) = .error e := rfl

theorem serverAuthority_host_iff {defaultPort : UInt16} {s : Text} {host : Host} :
    (∃ a, serverAuthority defaultPort s = .ok a ∧ a.host = some host) ↔
      (RawAuthority.cut s).host ≠ [] ∧ serverHost (RawAuthority.cut s).host = .ok host ∧
        ∃ port, readPort (RawAuthority.cut s).port = .ok port := by
  unfold serverAuthority
  dsimp only
  generalize RawAuthority.cut s = raw
  by_cases hne : raw.host = []
  · rw [if_pos (by simpa using hne), throw_bind]
    simp [hne]
  · rw [if_neg (by simpa using hne)]
    constructor
    · rintro ⟨a, h, hhost⟩
      obtain ⟨host', hserver, h⟩ := bind_eq_ok_iff.1 h
      obtain ⟨port, hport, h⟩ := bind_eq_ok_iff.1 h
      rw [pure_eq_ok_iff] at h
      rw [← h, Option.some.injEq] at hhost
      exact ⟨hne, hhost ▸ hserver, port, hport⟩
    · rintro ⟨-, hserver, port, hport⟩
      rw [hserver, hport]
      exact ⟨_, rfl, rfl⟩

theorem readCredentials_eq_nil_iff {s : Text} :
    readCredentials s = ([], []) ↔ s = [] ∨ s = [':'] := by
  unfold readCredentials
  cases h : Text.cutFirst? ':' s with
  | none =>
    have hcolon : s ≠ [':'] := by
      intro hs
      rw [hs] at h
      contradiction
    simp [Percent.encode_eq_nil_iff, hcolon]
  | some p =>
    obtain ⟨username, password⟩ := p
    obtain ⟨rfl, -⟩ := Text.cutFirst?_eq_some_iff.1 h
    simp [Percent.encode_eq_nil_iff, List.append_eq_cons_iff]

def RawAuthority.IsEmpty (raw : RawAuthority) : Prop :=
  raw.host = [] ∧ raw.port = [] ∧ readCredentials (raw.credentials.getD []) = ([], [])

theorem RawAuthority.isEmpty_cut_iff {s : Text} :
    (cut s).IsEmpty ↔ s = [] ∨ s = ['@'] ∨ s = [':', '@'] := by
  unfold IsEmpty
  rcases cut_cases s with hat | ⟨credentials, rest, rfl, hat⟩
  · rw [cut_of_not_mem hat]
    have hne : s ≠ ['@'] ∧ s ≠ [':', '@'] := by
      constructor
      · rintro rfl
        exact hat (by decide)
      · rintro rfl
        exact hat (by decide)
    simp only [Option.getD_none, readCredentials_eq_nil_iff, true_or, and_true, cutHost_eq_nil_iff,
      hne.1, hne.2, or_false]
  · rw [cut_append_at hat]
    simp only [Option.getD_some, readCredentials_eq_nil_iff, ← and_assoc, cutHost_eq_nil_iff]
    constructor
    · rintro ⟨rfl, rfl | rfl⟩
      · exact .inr (.inl rfl)
      · exact .inr (.inr rfl)
    · have hcut : Text.cutLast? '@' (credentials ++ '@' :: rest) = some (credentials, rest) :=
        Text.cutLast?_eq_some_iff.2 ⟨rfl, hat⟩
      rintro (h | h | h)
      · simp at h
      · rw [h] at hcut
        cases hcut
        exact ⟨rfl, .inl rfl⟩
      · rw [h] at hcut
        cases hcut
        exact ⟨rfl, .inr rfl⟩

theorem Authority.isAnonymous_iff {a : Authority} :
    a.isAnonymous = true ↔ (a.username, a.password) = ([], []) := by
  simp [isAnonymous]

theorem exists_genericHost_of_genericAuthority {s rest : Text} {isLast : Bool} {a : Authority}
    {host : Host} (h : genericAuthority s isLast = .ok (a, rest)) (hhost : a.host = some host) :
    ∃ t, t ≠ [] ∧ genericHost t = .ok host := by
  unfold genericAuthority at h
  dsimp only at h
  split at h
  · rw [throw_bind] at h
    contradiction
  · obtain ⟨host', hgeneric, h⟩ := bind_eq_ok_iff.1 h
    split at h
    · split at h
      · rw [pure_eq_ok_iff, Prod.mk.injEq] at h
        rw [← h.1] at hhost
        contradiction
      · contradiction
    · next hne =>
      obtain ⟨port, -, h⟩ := bind_eq_ok_iff.1 h
      rw [pure_eq_ok_iff, Prod.mk.injEq] at h
      rw [← h.1, Option.some.injEq] at hhost
      rw [← hhost]
      exact ⟨_, by simpa using hne, hgeneric⟩

theorem genericAuthority_isEmpty_iff {s : Text} {isLast : Bool} :
    (∃ a rest, genericAuthority s isLast = .ok (a, rest) ∧ a.host = none) ↔
      (RawAuthority.cut s).IsEmpty ∧ (RawAuthority.cut s).isBare isLast = false := by
  unfold genericAuthority
  dsimp only
  generalize RawAuthority.cut s = raw
  cases hbare : raw.isBare isLast with
  | true =>
    rw [if_pos rfl, throw_bind]
    simp
  | false =>
    rw [if_neg Bool.false_ne_true]
    constructor
    · rintro ⟨a, rest, h, hhost⟩
      obtain ⟨host, hgeneric, h⟩ := bind_eq_ok_iff.1 h
      split at h
      · next hnil =>
        split at h
        · next hempty =>
          rw [Bool.and_eq_true, Authority.isAnonymous_iff] at hempty
          exact ⟨⟨List.isEmpty_iff.1 hnil, List.isEmpty_iff.1 hempty.1, hempty.2⟩, rfl⟩
        · contradiction
      · obtain ⟨port, -, h⟩ := bind_eq_ok_iff.1 h
        rw [pure_eq_ok_iff, Prod.mk.injEq] at h
        rw [← h.1] at hhost
        contradiction
    · rintro ⟨⟨hhost, hport, hcredentials⟩, -⟩
      simp only [hhost, hport, hcredentials]
      exact ⟨_, _, rfl, rfl⟩

theorem genericAuthority_hostless_iff {s : Text} {isLast : Bool} :
    (∃ a rest, genericAuthority s isLast = .ok (a, rest) ∧ a.host = none) ↔
      s = [] ∨ s = [':', '@'] ∨ s = ['@'] ∧ isLast = true := by
  rw [genericAuthority_isEmpty_iff, RawAuthority.isEmpty_cut_iff]
  constructor
  · rintro ⟨rfl | rfl | rfl, hbare⟩
    · exact .inl rfl
    · rw [show (RawAuthority.cut ['@']).isBare isLast = !isLast from rfl] at hbare
      rw [Bool.not_eq_false'] at hbare
      exact .inr (.inr ⟨rfl, hbare⟩)
    · exact .inr (.inl rfl)
  · rintro (rfl | rfl | ⟨rfl, rfl⟩)
    · exact ⟨.inl rfl, rfl⟩
    · exact ⟨.inr (.inr rfl), rfl⟩
    · exact ⟨.inr (.inl rfl), rfl⟩

end ForwardProxy.Url
