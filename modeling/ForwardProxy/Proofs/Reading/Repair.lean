import ForwardProxy.Proofs.Reading
import ForwardProxy.Proofs.Url.Prefix

/-!
This module contains the repair of configured proxies that are URLs of another scheme. Main
statement: `parseProxy_of_url_with_host` says which of them are repaired, and to which host.
-/

namespace ForwardProxy

namespace Reading

def portText (proxy : Text) : Text :=
  ((Url.cutScheme? (Url.clean proxy)).map fun (_, rest) => Url.beforePath rest).getD []

/-- A text with a scheme reads as a server of that name, and a port. -/
def NamesServer (proxy scheme : Text) : Prop :=
  Url.lead proxy = [] ∧ Url.serverHost scheme = .ok (.domain scheme) ∧
    ∃ port, Url.readPort (':' :: portText proxy) = .ok port

variable {proxy : Text} {u : Url} {host repaired : Url.Host}

theorem portText_of_cutScheme? {scheme rest : Text}
    (h : Url.cutScheme? (Url.clean proxy) = some (scheme, rest)) :
    portText proxy = Url.beforePath rest := by
  unfold portText
  rw [h]
  rfl

theorem parse_repaired_host?_iff (hparse : Url.parse proxy = .ok u) (hhost : u.host? = some host) :
    (∃ v, Url.parse ("http://".toList ++ proxy) = .ok v ∧ v.host? = some repaired) ↔
      '@' ∈ portText proxy ∧ repaired = host ∨
        '@' ∉ portText proxy ∧ NamesServer proxy u.scheme ∧ repaired = .domain u.scheme := by
  obtain ⟨rest, hcut⟩ := Url.parse_scheme hparse
  obtain ⟨written, hwritten, hscheme, hclean⟩ := Url.cutScheme?_eq_some hcut
  unfold NamesServer
  rw [portText_of_cutScheme? hcut]
  -- An at sign makes credentials of the scheme. Without one the scheme is where a host stands.
  by_cases hat : '@' ∈ Url.beforePath rest
  · obtain ⟨v, hv, hsame⟩ := Url.parse_http_append_of_mem hcut hat hparse hhost
    simp only [hv, hat, Except.ok.injEq, true_and, not_true_eq_false, false_and, or_false]
    simp [hsame, eq_comm]
  · rw [Url.parse_http_append_of_not_mem hclean hwritten hat, hscheme]
    simp only [hat, false_and, false_or, not_false_eq_true, true_and]
    constructor
    · rintro ⟨hlead, hrepaired, hserver, hport⟩
      exact ⟨⟨hlead, hserver, hport⟩, hrepaired⟩
    · rintro ⟨⟨hlead, hserver, hport⟩, hrepaired⟩
      exact ⟨hlead, hrepaired, hserver, hport⟩

theorem parseProxy_eq_resolved_iff_of_none {i : Intercept} (hwritten : intercept? proxy = none) :
    parseProxy proxy = .resolved i ↔ Url.parse ("http://".toList ++ proxy) = .ok i.proxy := by
  rw [parseProxy_eq_resolved_iff, ← intercept?_eq_some_iff, hwritten]
  simp

theorem exists_host?_of_resolved {i : Intercept} (hwritten : intercept? proxy = none)
    (h : parseProxy proxy = .resolved i) : ∃ repaired, i.proxy.host? = some repaired := by
  rw [parseProxy_eq_resolved_iff_of_none hwritten] at h
  obtain ⟨hscheme, -⟩ := intercept?_repaired h
  have hkind : Url.schemeKind i.proxy.scheme = .server 80 := by
    rw [← hscheme]
    decide
  obtain ⟨repaired, hhost, -⟩ := Url.hasHost_of_server h hkind
  exact ⟨repaired, hhost⟩

theorem parseProxy_eq_invalid (hwritten : intercept? proxy = none)
    (h : ∀ i, parseProxy proxy ≠ .resolved i) : parseProxy proxy = .invalid (failure proxy) := by
  unfold parseProxy ofText at h ⊢
  rw [hwritten] at h ⊢
  cases hrepaired : intercept? ("http://".toList ++ proxy) with
  | some i =>
    rw [hrepaired] at h
    exact absurd rfl (h i)
  | none => rfl

theorem exists_resolved_host?_iff (hwritten : intercept? proxy = none)
    (hparse : Url.parse proxy = .ok u) (hhost : u.host? = some host) :
    (∃ i, parseProxy proxy = .resolved i ∧ i.proxy.host? = some repaired) ↔
      '@' ∈ portText proxy ∧ repaired = host ∨
        '@' ∉ portText proxy ∧ NamesServer proxy u.scheme ∧ repaired = .domain u.scheme := by
  rw [← parse_repaired_host?_iff hparse hhost]
  constructor
  · rintro ⟨i, hresolved, hrepaired⟩
    exact ⟨i.proxy, (parseProxy_eq_resolved_iff_of_none hwritten).1 hresolved, hrepaired⟩
  · rintro ⟨v, hv, hrepaired⟩
    obtain ⟨hscheme, -⟩ := intercept?_repaired hv
    refine ⟨⟨v, .http, hscheme⟩, ?_, hrepaired⟩
    exact (parseProxy_eq_resolved_iff_of_none hwritten).2 hv

theorem exists_resolved_iff (hwritten : intercept? proxy = none)
    (hparse : Url.parse proxy = .ok u) (hhost : u.host? = some host) :
    (∃ i, parseProxy proxy = .resolved i) ↔
      '@' ∈ portText proxy ∨ NamesServer proxy u.scheme := by
  constructor
  · rintro ⟨i, hi⟩
    obtain ⟨repaired, hrepaired⟩ := exists_host?_of_resolved hwritten hi
    have hcases := (exists_resolved_host?_iff hwritten hparse hhost).1 ⟨i, hi, hrepaired⟩
    rcases hcases with ⟨hat, -⟩ | ⟨-, hnames, -⟩
    · exact .inl hat
    · exact .inr hnames
  · intro h
    by_cases hat : '@' ∈ portText proxy
    · obtain ⟨i, hi, -⟩ := (exists_resolved_host?_iff hwritten hparse hhost).2 (.inl ⟨hat, rfl⟩)
      exact ⟨i, hi⟩
    · have hnames := h.resolve_left hat
      obtain ⟨i, hi, -⟩ :=
        (exists_resolved_host?_iff hwritten hparse hhost).2 (.inr ⟨hat, hnames, rfl⟩)
      exact ⟨i, hi⟩

theorem host?_of_resolved {i : Intercept} (hwritten : intercept? proxy = none)
    (hparse : Url.parse proxy = .ok u) (hhost : u.host? = some host)
    (h : parseProxy proxy = .resolved i) :
    i.proxy.host? = some (if '@' ∈ portText proxy then host else .domain u.scheme) := by
  obtain ⟨repaired, hrepaired⟩ := exists_host?_of_resolved hwritten h
  have hcases := (exists_resolved_host?_iff hwritten hparse hhost).1 ⟨i, h, hrepaired⟩
  rcases hcases with ⟨hat, hsame⟩ | ⟨hat, -, hscheme⟩
  · rw [hrepaired, if_pos hat, hsame]
  · rw [hrepaired, if_neg hat, hscheme]

end Reading

theorem parseProxy_of_url_with_host {proxy : Text} {u : Url} {host : Url.Host}
    (hparse : Url.parse proxy = .ok u) (hhost : u.host? = some host) :
    (∀ (v : Via) (h : v.scheme = u.scheme), parseProxy proxy = .resolved ⟨u, v, h⟩) ∧
    ((∀ v : Via, v.scheme ≠ u.scheme) →
      ((∃ i, parseProxy proxy = .resolved i) ↔
        '@' ∈ Reading.portText proxy ∨ Reading.NamesServer proxy u.scheme) ∧
      (∀ i, parseProxy proxy = .resolved i →
        i.proxy.host? = some (if '@' ∈ Reading.portText proxy then host else .domain u.scheme)) ∧
      ((∀ i, parseProxy proxy ≠ .resolved i) →
        parseProxy proxy = .invalid (.unsupportedScheme proxy u.scheme))) := by
  constructor
  · intro v h
    exact parseProxy_eq_resolved_iff.2 (.inl hparse)
  · intro hforeign
    have hwritten : Reading.intercept? proxy = none := by
      rw [Reading.intercept?_of_ok hparse]
      exact Intercept.ofUrl?_eq_none_iff.2 hforeign
    refine ⟨Reading.exists_resolved_iff hwritten hparse hhost, ?_, ?_⟩
    · intro i hi
      exact Reading.host?_of_resolved hwritten hparse hhost hi
    · intro hnot
      rw [Reading.parseProxy_eq_invalid hwritten hnot, Reading.failure_of_ok hparse]

theorem parseProxy_to_scheme_as_host :
    let u : Url := ⟨"ftp".toList, some ⟨[], [], some (.domain "proxy.example".toList), none⟩,
      .segments [[]], none, none⟩
    Url.parse "ftp://proxy.example/".toList = .ok u ∧
      ∃ i, parseProxy "ftp://proxy.example/".toList = .resolved i ∧
        i.proxy.host? = some (.domain "ftp".toList) := by
  intro u
  have hparse : Url.parse "ftp://proxy.example/".toList = .ok u := by decide +kernel
  have hforeign : ∀ v : Via, v.scheme ≠ u.scheme := by
    intro v
    cases v <;> decide
  have hat : '@' ∉ Reading.portText "ftp://proxy.example/".toList := by decide +kernel
  have hnames : Reading.NamesServer "ftp://proxy.example/".toList u.scheme :=
    ⟨by decide +kernel, by decide +kernel, _, rfl⟩
  obtain ⟨hresolved, hhost, -⟩ := (parseProxy_of_url_with_host hparse rfl).2 hforeign
  obtain ⟨i, hi⟩ := hresolved.2 (.inr hnames)
  refine ⟨hparse, i, hi, ?_⟩
  rw [hhost i hi, if_neg hat]

end ForwardProxy
