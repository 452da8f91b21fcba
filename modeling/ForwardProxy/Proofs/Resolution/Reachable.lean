import ForwardProxy.Proofs.Reading
import ForwardProxy.Proofs.Resolution
import ForwardProxy.Proofs.Url.Presence
import ForwardProxy.Request

/-!
This module contains which proxies can be connected to. Main statement:
`Config.hasHost_resolved_iff` says that a proxy has a host unless its text is a `socks5` URL that
names none.
-/

namespace ForwardProxy

namespace Reading

def isHostless (proxy : Text) : Bool :=
  (Url.cutScheme? (Url.clean proxy)).any fun (scheme, rest) =>
    scheme = Via.socks5.scheme && Url.isHostless rest

variable {proxy : Text}

theorem isHostless_iff :
    isHostless proxy = true ↔
      ∃ u, Url.parse proxy = .ok u ∧ u.scheme = Via.socks5.scheme ∧ u.host? = none := by
  have hkind : Url.schemeKind Via.socks5.scheme = .generic := by decide
  unfold isHostless
  rw [Option.any_eq_true]
  constructor
  · rintro ⟨⟨scheme, rest⟩, hcut, h⟩
    rw [Bool.and_eq_true, decide_eq_true_eq] at h
    obtain ⟨rfl, hhostless⟩ := h
    obtain ⟨u, hparse, hhost⟩ := Url.parseGeneric_host?_eq_none_iff.2 hhostless
    refine ⟨u, ?_, Url.parseGeneric_scheme hparse, hhost⟩
    rw [Url.parse_of_generic hcut hkind]
    exact hparse
  · rintro ⟨u, hparse, hscheme, hhost⟩
    obtain ⟨rest, hcut⟩ := Url.parse_scheme hparse
    rw [hscheme] at hcut
    refine ⟨_, hcut, ?_⟩
    rw [Url.parse_of_generic hcut hkind] at hparse
    rw [Bool.and_eq_true, decide_eq_true_eq]
    exact ⟨rfl, Url.parseGeneric_host?_eq_none_iff.1 ⟨u, hparse, hhost⟩⟩

theorem isHostless_eq_false_of_intercept? (h : intercept? proxy = none) :
    isHostless proxy = false := by
  rw [← Bool.not_eq_true, isHostless_iff]
  rintro ⟨u, hparse, hscheme, -⟩
  exact intercept?_eq_none_iff.1 h u hparse .socks5 hscheme.symm

end Reading

variable {i : Intercept} {s proxy : Text}

theorem Intercept.hasHost_of_via (h : Url.parse s = .ok i.proxy) (hvia : i.via ≠ .socks5) :
    i.proxy.HasHost := by
  have hscheme := i.scheme_eq
  -- The other two schemes are those of servers, which are not read without a host.
  cases hi : i.via with
  | http =>
    have hkind : Url.schemeKind i.proxy.scheme = .server 80 := by
      rw [← hscheme, hi]
      decide
    exact Url.hasHost_of_server h hkind
  | https =>
    have hkind : Url.schemeKind i.proxy.scheme = .server 443 := by
      rw [← hscheme, hi]
      decide
    exact Url.hasHost_of_server h hkind
  | socks5 => contradiction

theorem hasHost_iff_of_parseProxy (h : parseProxy proxy = .resolved i) :
    i.proxy.HasHost ↔ Reading.isHostless proxy = false := by
  rcases parseProxy_eq_resolved_iff.1 h with hparse | ⟨hwritten, hparse⟩
  · rw [← Bool.not_eq_true, Reading.isHostless_iff, Url.hasHost_iff_of_parse hparse]
    constructor
    · rintro hne ⟨u, hu, -, hhost⟩
      rw [hparse, Except.ok.injEq] at hu
      rw [hu] at hne
      exact hne hhost
    · intro hnot
      by_cases hvia : i.via = .socks5
      · intro hhost
        refine hnot ⟨i.proxy, hparse, ?_, hhost⟩
        rw [← i.scheme_eq, hvia]
      · exact (Url.hasHost_iff_of_parse hparse).1 (Intercept.hasHost_of_via hparse hvia)
  · -- A text that is repaired is no `socks5` URL, neither before nor after.
    have hvia : i.via ≠ .socks5 := by
      obtain ⟨hscheme, hrepaired⟩ := Reading.intercept?_repaired hparse
      rw [Reading.intercept?_eq_some_iff.2 hparse, Option.some.injEq] at hrepaired
      rw [hrepaired]
      exact Via.noConfusion
    rw [Reading.isHostless_eq_false_of_intercept? hwritten]
    simp only [Intercept.hasHost_of_via hparse hvia]

namespace Config

variable {c : Config} {u v : Url}

theorem parseProxy_of_resolve (h : c.resolve u = .resolved i) :
    parseProxy (c.candidate u.scheme) = .resolved i := by
  rw [resolve_eq] at h
  split at h
  · contradiction
  · split at h
    · exact h
    · contradiction

theorem resolve_of_proxyFor (h : c.proxyFor u = .ok (some v)) :
    ∃ i, c.resolve u = .resolved i ∧ i.proxy = v := by
  unfold proxyFor at h
  cases hresolve : c.resolve u with
  | notConfigured =>
    rw [hresolve, Decision.toResult, Except.ok.injEq] at h
    contradiction
  | bypassed =>
    rw [hresolve, Decision.toResult, Except.ok.injEq] at h
    contradiction
  | resolved i =>
    rw [hresolve, Decision.toResult, Except.ok.injEq, Option.some.injEq] at h
    exact ⟨i, rfl, h⟩
  | invalid failure =>
    rw [hresolve] at h
    contradiction

theorem hasHost_resolved_iff (c : Config) :
    (∀ u i, c.resolve u = .resolved i →
      (i.proxy.HasHost ↔ Reading.isHostless (c.candidate u.scheme) = false)) ∧
    (∀ request v, resolveProxy request c = .ok (some v) → ∃ u, request.toUrl = .ok u ∧
      (v.HasHost ↔ Reading.isHostless (c.candidate u.scheme) = false)) := by
  constructor
  · intro u i h
    exact hasHost_iff_of_parseProxy (parseProxy_of_resolve h)
  · intro request v h
    obtain ⟨u, hu, h⟩ := bind_eq_ok_iff.1 h
    obtain ⟨i, hresolve, rfl⟩ := resolve_of_proxyFor h
    exact ⟨u, hu, hasHost_iff_of_parseProxy (parseProxy_of_resolve hresolve)⟩

theorem not_hasHost_of_slashes :
    let c : Config := ⟨"socks5:///".toList, [], []⟩
    let u : Url := ⟨"http".toList, some ⟨[], [], some (.domain "host".toList), none⟩,
      .segments [[]], none, none⟩
    (∃ i, c.resolve u = .resolved i ∧ ¬ i.proxy.HasHost) ∧
      ∃ v, resolveProxy (.text "http://host/".toList) c = .ok (some v) ∧ ¬ v.HasHost := by
  intro c u
  let v : Url := ⟨"socks5".toList, some ⟨[], [], none, none⟩, .segments [[]], none, none⟩
  have hhostless : Reading.isHostless "socks5:///".toList = true := by decide +kernel
  constructor
  · have hresolve : c.resolve u = .resolved ⟨v, .socks5, rfl⟩ := by decide +kernel
    refine ⟨_, hresolve, ?_⟩
    rw [(hasHost_resolved_iff c).1 u _ hresolve, Bool.not_eq_false]
    exact hhostless
  · have hresolve : resolveProxy (.text "http://host/".toList) c = .ok (some v) := by
      decide +kernel
    refine ⟨v, hresolve, ?_⟩
    obtain ⟨w, -, hiff⟩ := (hasHost_resolved_iff c).2 _ v hresolve
    have hcandidate : c.candidate w.scheme = "socks5:///".toList := by
      unfold candidate
      rw [if_neg fun h => h.2 rfl]
    rw [hiff, hcandidate, Bool.not_eq_false]
    exact hhostless

end Config

end ForwardProxy
