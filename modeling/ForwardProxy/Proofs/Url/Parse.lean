import ForwardProxy.Proofs.Text
import ForwardProxy.Url.Parse

/-!
This module contains the theory of reading URLs. Main statement: `Url.parse_scheme` says that a URL
has the scheme that its text starts with.
-/

namespace ForwardProxy

theorem bind_eq_ok_iff {ε α β : Type} {x : Except ε α} {f : α → Except ε β} {b : β} :
    x >>= f = .ok b ↔ ∃ a, x = .ok a ∧ f a = .ok b := by
  cases x with
  | error e => simp [bind, Except.bind]
  | ok a => simp [bind, Except.bind]

theorem pure_eq_ok_iff {ε α : Type} {a b : α} : (pure a : Except ε α) = .ok b ↔ a = b := by
  simp [pure, Except.pure]

namespace Url

theorem scheme_of_pure {u v : Url} (h : (pure v : Except ParseError Url) = .ok u) :
    u.scheme = v.scheme := by
  rw [pure_eq_ok_iff] at h
  rw [h]

theorem parseServer_scheme {scheme s : Text} {defaultPort : UInt16} {u : Url}
    (h : parseServer scheme defaultPort s = .ok u) : u.scheme = scheme := by
  unfold parseServer at h
  obtain ⟨authority, -, h⟩ := bind_eq_ok_iff.1 h
  exact scheme_of_pure h

theorem parseFile_scheme {s : Text} {u : Url} (h : parseFile s = .ok u) :
    u.scheme = "file".toList := by
  unfold parseFile at h
  split at h
  · split at h
    · dsimp only at h
      split at h
      · exact scheme_of_pure h
      · obtain ⟨host, -, h⟩ := bind_eq_ok_iff.1 h
        exact scheme_of_pure h
    · exact scheme_of_pure h
  · exact scheme_of_pure h

theorem parseGeneric_scheme {scheme s : Text} {u : Url} (h : parseGeneric scheme s = .ok u) :
    u.scheme = scheme := by
  unfold parseGeneric at h
  split at h
  · obtain ⟨⟨authority, cutOff⟩, -, h⟩ := bind_eq_ok_iff.1 h
    exact scheme_of_pure h
  · exact scheme_of_pure h
  · exact scheme_of_pure h

theorem eq_file_of_schemeKind {scheme : Text} (h : schemeKind scheme = .file) :
    scheme = "file".toList := by
  unfold schemeKind at h
  split at h
  · simp at h
  · split at h
    · assumption
    · simp at h

theorem parse_scheme {s : Text} {u : Url} (h : parse s = .ok u) :
    ∃ rest, cutScheme? (clean s) = some (u.scheme, rest) := by
  unfold parse at h
  split at h
  · simp at h
  · next scheme rest hcut =>
    refine ⟨rest, ?_⟩
    have hscheme : u.scheme = scheme := by
      split at h
      · exact parseServer_scheme h
      · next hkind =>
        rw [eq_file_of_schemeKind hkind]
        exact parseFile_scheme h
      · exact parseGeneric_scheme h
    rw [hscheme]
    exact hcut

theorem parse_of_server {s scheme rest : Text} {defaultPort : UInt16}
    (hcut : cutScheme? (clean s) = some (scheme, rest))
    (hkind : schemeKind scheme = .server defaultPort) :
    parse s = parseServer scheme defaultPort rest := by
  unfold parse
  rw [hcut]
  dsimp only
  rw [hkind]

theorem parse_of_generic {s scheme rest : Text}
    (hcut : cutScheme? (clean s) = some (scheme, rest)) (hkind : schemeKind scheme = .generic) :
    parse s = parseGeneric scheme rest := by
  unfold parse
  rw [hcut]
  dsimp only
  rw [hkind]

theorem isMargin_eq_false {p : Char → Bool} (hmargins : ∀ n ≤ 0x20, p (Char.ofNat n) = false)
    {c : Char} (h : p c = true) : isMargin c = false := by
  unfold isMargin
  rw [decide_eq_false_iff_not]
  intro hle
  have hfalse := hmargins c.toNat hle
  rw [Char.ofNat_toNat, h] at hfalse
  exact Bool.noConfusion hfalse

theorem filter_breaks_eq_self {s : Text} (h : ∀ c ∈ s, isMargin c = false) :
    s.filter (fun c => !(c ∈ ['\t', '\n', '\r'])) = s := by
  have hbreaks : ∀ c ∈ ['\t', '\n', '\r'], isMargin c = true := List.all_eq_true.1 (by decide)
  rw [List.filter_eq_self]
  intro c hc
  rw [Bool.not_eq_true', decide_eq_false_iff_not]
  intro hbreak
  have htrue := hbreaks c hbreak
  rw [h c hc] at htrue
  exact Bool.noConfusion htrue

theorem clean_eq_self {s : Text} (h : ∀ c ∈ s, isMargin c = false) : clean s = s := by
  unfold clean
  rw [Text.dropWhile_eq_self h, Text.reverse_dropWhile_eq_self h, List.reverse_reverse]
  exact filter_breaks_eq_self h

def cleanEnd (s : Text) : Text :=
  (s.reverse.dropWhile isMargin).reverse.filter fun c => !(c ∈ ['\t', '\n', '\r'])

theorem clean_append {start s : Text} (hne : start ≠ []) (h : ∀ c ∈ start, isMargin c = false) :
    clean (start ++ s) = start ++ cleanEnd s := by
  -- The first character stops the cut at the left, and the last one the cut at the right.
  have hleft : (start ++ s).dropWhile isMargin = start ++ s := by
    rw [List.dropWhile_append, Text.dropWhile_eq_self h]
    rw [if_neg (by simpa using hne)]
  have hright : ((start ++ s).reverse.dropWhile isMargin).reverse =
      start ++ (s.reverse.dropWhile isMargin).reverse := by
    rw [List.reverse_append, List.dropWhile_append]
    split
    · next hs =>
      rw [List.isEmpty_iff.1 hs, Text.reverse_dropWhile_eq_self h]
      simp
    · simp
  unfold clean cleanEnd
  rw [hleft, hright, List.filter_append, filter_breaks_eq_self h]

theorem clean_http_append (s : Text) :
    clean ("http://".toList ++ s) = "http://".toList ++ cleanEnd s := by
  have hmargin : "http://".toList.all (fun c => !isMargin c) = true := by decide
  apply clean_append
  · decide
  · intro c hc
    rw [← Bool.not_eq_true']
    exact List.all_eq_true.1 hmargin c hc

theorem isSchemeChar_of_mem {scheme : Text} {c : Char} (h : isScheme scheme = true)
    (hc : c ∈ scheme) : isSchemeChar c = true := by
  cases scheme with
  | nil => simp at hc
  | cons d scheme =>
    simp only [isScheme, Bool.and_eq_true, List.all_eq_true] at h
    cases List.mem_cons.1 hc with
    | inl hd => simp [isSchemeChar, Char.isAlphanum, hd, h.1]
    | inr hmem => exact h.2 c hmem

theorem cutScheme?_append {scheme : Text} (h : isScheme scheme = true) (s : Text) :
    cutScheme? (scheme ++ ':' :: s) = some (scheme.map Char.toLower, s) := by
  have hcolon : ':' ∉ scheme := by
    intro hmem
    exact absurd (isSchemeChar_of_mem h hmem) (by decide)
  unfold cutScheme?
  rw [Text.cutFirst?_eq_some_iff.2 ⟨rfl, hcolon⟩]
  dsimp only
  rw [if_pos h]

theorem cutScheme?_eq_some {s scheme rest : Text} (h : cutScheme? s = some (scheme, rest)) :
    ∃ written, isScheme written = true ∧ written.map Char.toLower = scheme ∧
      s = written ++ ':' :: rest := by
  unfold cutScheme? at h
  split at h
  · next written after hcut =>
    split at h
    · next hscheme =>
      rw [Option.some.injEq, Prod.mk.injEq] at h
      obtain ⟨rfl, rfl⟩ := h
      exact ⟨written, hscheme, rfl, (Text.cutFirst?_eq_some_iff.1 hcut).1⟩
    · contradiction
  · contradiction

theorem cutScheme?_eq_none {c : Char} (s : Text) (h : c.isAlpha = false) :
    cutScheme? (c :: s) = none := by
  cases hcut : cutScheme? (c :: s) with
  | none => rfl
  | some cut =>
    obtain ⟨written, hscheme, -, heq⟩ := cutScheme?_eq_some hcut
    cases written with
    | nil => contradiction
    | cons d written =>
      simp only [isScheme, Bool.and_eq_true] at hscheme
      rw [(List.cons.inj heq).1, hscheme.1] at h
      contradiction

theorem parse_scheme_of_isScheme {scheme s : Text} {u : Url} (hscheme : isScheme scheme = true)
    (h : parse (scheme ++ ':' :: s) = .ok u) : u.scheme = scheme.map Char.toLower := by
  have hmargin : ∀ c ∈ scheme ++ [':'], isMargin c = false := by
    intro c hc
    cases List.mem_append.1 hc with
    | inl hc => exact isMargin_eq_false (by decide) (isSchemeChar_of_mem hscheme hc)
    | inr hc =>
      rw [List.mem_singleton.1 hc]
      decide
  -- The colon has to be kept as well, so that the scheme ends where it was written to end.
  obtain ⟨rest, hcut⟩ := parse_scheme h
  rw [List.append_cons, clean_append (by simp) hmargin, ← List.append_cons] at hcut
  rw [cutScheme?_append hscheme] at hcut
  rw [Option.some.injEq, Prod.mk.injEq] at hcut
  exact hcut.1.symm

end Url

end ForwardProxy
