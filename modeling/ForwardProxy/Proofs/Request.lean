import ForwardProxy.Proofs.Reading
import ForwardProxy.Proofs.Resolution
import ForwardProxy.Request

/-!
This module contains the theory of requests. Main statement: `resolveProxy_attribution` says which
failures are those of the request, whatever is configured, and that a configuration only fails
requests that would go through its proxy.
-/

namespace ForwardProxy

namespace Decision

variable {d : Decision} {f : Failure}

theorem isDirect_iff : d.isDirect = true ↔ d = .notConfigured ∨ d = .bypassed := by
  cases d with
  | notConfigured => simp [isDirect]
  | bypassed => simp [isDirect]
  | resolved intercept => simp [isDirect]
  | invalid failure => simp [isDirect]

theorem toResult_eq_none_iff : d.toResult = .ok none ↔ d.isDirect = true := by
  cases d with
  | notConfigured => simp [toResult, isDirect]
  | bypassed => simp [toResult, isDirect]
  | resolved intercept => simp [toResult, isDirect]
  | invalid failure => simp [toResult, isDirect]

theorem toResult_eq_error_iff : d.toResult = .error f ↔ d = .invalid f := by
  cases d with
  | notConfigured => simp [toResult]
  | bypassed => simp [toResult]
  | resolved intercept => simp [toResult]
  | invalid failure => simp [toResult]

end Decision

namespace Failure

/-- A failure in one of the two ways in which a configured proxy can be at fault. -/
structure BlamesProxy (f : Failure) (proxy : Text) : Prop where
  isConfig_eq : f.isConfig = true
  one_kind : (f.isInvalidProxy ^^ f.isUnsupportedScheme) = true
  proxy_eq : f.proxy = some proxy
  has_cause : f.cause.isSome = true

theorem BlamesProxy.kind_ne_request {f : Failure} {proxy : Text} (h : f.BlamesProxy proxy) :
    f.kind ≠ .request := by
  intro hkind
  have hconfig := h.isConfig_eq
  unfold isConfig isInvalidProxy isUnsupportedScheme at hconfig
  rw [hkind] at hconfig
  contradiction

end Failure

namespace Reading

theorem blamesProxy_failure (proxy : Text) : (failure proxy).BlamesProxy proxy := by
  cases hparse : Url.parse proxy with
  | error e =>
    rw [failure_of_error hparse]
    exact ⟨rfl, rfl, rfl, rfl⟩
  | ok u =>
    rw [failure_of_ok hparse]
    exact ⟨rfl, rfl, rfl, rfl⟩

end Reading

theorem eq_failure_of_parseProxy {proxy : Text} {f : Failure}
    (h : parseProxy proxy = .invalid f) : f = Reading.failure proxy := by
  unfold parseProxy Reading.ofText at h
  split at h
  · contradiction
  · contradiction
  · rw [Reading.decision, Decision.invalid.injEq] at h
    exact h.symm

theorem Config.blamesProxy_of_resolve {c : Config} {u : Url} {f : Failure}
    (h : c.resolve u = .invalid f) : f.BlamesProxy (c.candidate u.scheme) := by
  have hdirect : (c.resolve u).isDirect = false := by
    rw [h]
    rfl
  rw [Config.resolve_of_not_isDirect hdirect] at h
  rw [eq_failure_of_parseProxy h]
  apply Reading.blamesProxy_failure

namespace Request

def url? : Request → Except Url.ParseError Url
  | .text s => Url.parse s
  | .url u => .ok u
  | .uri u => Url.parse u.toText

variable {request : Request} {u : Url} {e : Url.ParseError}

theorem toUrl_eq (request : Request) :
    request.toUrl =
      match request.url? with
      | .ok u => withHost u
      | .error e => .error (.request (.parse e)) := by
  cases request with
  | text s => rfl
  | url u => rfl
  | uri u => rfl

theorem toUrl_of_error (h : request.url? = .error e) :
    request.toUrl = .error (.request (.parse e)) := by
  rw [toUrl_eq, h]

theorem toUrl_of_host (h : request.url? = .ok u) (hhost : u.host? ≠ none) :
    request.toUrl = .ok u := by
  rw [toUrl_eq, h]
  exact if_pos (Option.isSome_iff_ne_none.2 hhost)

theorem toUrl_of_hostless (h : request.url? = .ok u) (hhost : u.host? = none) :
    request.toUrl = .error (.request .noHost) := by
  rw [toUrl_eq, h]
  exact if_neg (by simp [hhost])

theorem exists_failure_toUrl (h : ∀ u, request.url? = .ok u → u.host? = none) :
    ∃ cause, request.toUrl = .error (.request cause) := by
  cases hurl : request.url? with
  | error e => exact ⟨_, toUrl_of_error hurl⟩
  | ok u => exact ⟨_, toUrl_of_hostless hurl (h u hurl)⟩

end Request

variable {request : Request} {c : Config} {u : Url}

theorem resolveProxy_of_error {f : Failure} (h : request.toUrl = .error f) :
    resolveProxy request c = .error f := by
  unfold resolveProxy
  rw [h]
  rfl

theorem resolveProxy_of_ok (h : request.toUrl = .ok u) :
    resolveProxy request c = (c.resolve u).toResult := by
  unfold resolveProxy
  rw [h]
  rfl

theorem resolveProxy_attribution (request : Request) (c : Config) :
    ((∀ u, request.url? = .ok u → u.host? = none) →
      ∃ f, f.kind = .request ∧ f.proxy = none ∧ ∀ d, resolveProxy request d = .error f) ∧
    (∀ u, request.url? = .ok u → u.host? ≠ none →
      (∀ f, resolveProxy request c = .error f → f.kind ≠ .request) ∧
      (resolveProxy request c = .ok none ↔ c.resolve u = .notConfigured ∨ c.resolve u = .bypassed) ∧
      (∀ f, resolveProxy request c = .error f ↔ c.resolve u = .invalid f) ∧
      (∀ f, resolveProxy request c = .error f → f.BlamesProxy (c.candidate u.scheme)) ∧
      (c.candidate u.scheme = [] ∨ c.allowsProxy u = false → resolveProxy request c = .ok none)) := by
  constructor
  · intro h
    obtain ⟨cause, hcause⟩ := Request.exists_failure_toUrl h
    exact ⟨.request cause, rfl, rfl, fun d => resolveProxy_of_error hcause⟩
  · intro u hurl hhost
    rw [resolveProxy_of_ok (Request.toUrl_of_host hurl hhost)]
    have hblames : ∀ f, (c.resolve u).toResult = .error f →
        f.BlamesProxy (c.candidate u.scheme) := by
      intro f hf
      exact Config.blamesProxy_of_resolve (Decision.toResult_eq_error_iff.1 hf)
    refine ⟨?_, ?_, fun f => Decision.toResult_eq_error_iff, hblames, ?_⟩
    · intro f hf
      exact (hblames f hf).kind_ne_request
    · rw [Decision.toResult_eq_none_iff]
      exact Decision.isDirect_iff
    · intro hdirect
      rw [Decision.toResult_eq_none_iff]
      exact Config.isDirect_resolve_iff.2 hdirect

theorem resolveProxy_with_malformed_proxy :
    let c : Config := ⟨"proxy:99999".toList, "::".toList, "foo.com".toList⟩
    (∃ f, f.kind = .request ∧ f.proxy = none ∧
      ∀ d, resolveProxy (.text "mailto:me@foo.com".toList) d = .error f) ∧
    resolveProxy (.text "https://www.foo.com".toList) c = .ok none ∧
    ∃ f, resolveProxy (.uri ⟨some "http".toList, some "bar.com".toList, ['/'], none⟩) c = .error f ∧
      f.BlamesProxy "proxy:99999".toList := by
  intro c
  refine ⟨?_, ?_, ?_⟩
  · have hurl : Request.url? (.text "mailto:me@foo.com".toList) =
        .ok ⟨"mailto".toList, none, .plain "me@foo.com".toList, none, none⟩ := by decide +kernel
    apply (resolveProxy_attribution _ c).1
    intro u h
    rw [hurl, Except.ok.injEq] at h
    rw [← h]
    rfl
  · let u : Url := ⟨"https".toList, some ⟨[], [], some (.domain "www.foo.com".toList), none⟩,
      .segments [[]], none, none⟩
    have hurl : Request.url? (.text "https://www.foo.com".toList) = .ok u := by decide +kernel
    have hbypassed : c.resolve u = .bypassed := by decide +kernel
    apply ((resolveProxy_attribution _ c).2 u hurl (Option.some_ne_none _)).2.1.2
    exact .inr hbypassed
  · let request : Request := .uri ⟨some "http".toList, some "bar.com".toList, ['/'], none⟩
    let u : Url := ⟨"http".toList, some ⟨[], [], some (.domain "bar.com".toList), none⟩,
      .segments [[]], none, none⟩
    have hurl : request.url? = .ok u := by decide +kernel
    have hinvalid : c.resolve u =
        .invalid (.unsupportedScheme "proxy:99999".toList "proxy".toList) := by
      decide +kernel
    obtain ⟨-, -, herror, hblames, -⟩ :=
      (resolveProxy_attribution request c).2 u hurl (Option.some_ne_none _)
    exact ⟨_, (herror _).2 hinvalid, hblames _ ((herror _).2 hinvalid)⟩

end ForwardProxy
