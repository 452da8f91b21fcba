import ForwardProxy.Proofs.Request
import ForwardProxy.Proofs.Resolution.Host
import ForwardProxy.Proofs.Uri

/-!
This module contains what the form of a request amounts to. Main statement: `resolveProxy_of_forms`
says that all forms of a text are answered in the same way.
-/

namespace ForwardProxy

variable {request other : Request} {form form' : Request.Form} {s : Text}

namespace Request

theorem map_target_url?_of_read (h : read form s = .ok request) :
    request.url?.map Url.target = (Url.parse s).map Url.target := by
  cases form with
  | text =>
    rw [← Except.ok.inj h]
    rfl
  | url =>
    unfold read at h
    dsimp only at h
    split at h
    · next hparse =>
      rw [← Except.ok.inj h, hparse]
      rfl
    · contradiction
  | uri =>
    unfold read at h
    dsimp only at h
    split at h
    · next hparse =>
      rw [← Except.ok.inj h]
      exact Uri.map_target_parse_toText hparse
    · contradiction

end Request

theorem resolveProxy_of_ok_of_ok {u v : Url} (hu : request.url? = .ok u) (hv : other.url? = .ok v)
    (h : u.target = v.target) (c : Config) : resolveProxy request c = resolveProxy other c := by
  rw [Url.target, Url.target, Url.Target.mk.injEq] at h
  obtain ⟨hscheme, hhost⟩ := h
  by_cases hnone : u.host? = none
  · rw [resolveProxy_of_error (Request.toUrl_of_hostless hu hnone)]
    rw [resolveProxy_of_error (Request.toUrl_of_hostless hv (hhost ▸ hnone))]
  · rw [resolveProxy_of_ok (Request.toUrl_of_host hu hnone)]
    rw [resolveProxy_of_ok (Request.toUrl_of_host hv (hhost ▸ hnone))]
    rw [Config.resolve_congr hhost rfl (by rw [hscheme])]

theorem resolveProxy_congr (h : request.url?.map Url.target = other.url?.map Url.target)
    (c : Config) : resolveProxy request c = resolveProxy other c := by
  cases hrequest : request.url? with
  | error e =>
    cases hother : other.url? with
    | error e' =>
      rw [hrequest, hother] at h
      rw [resolveProxy_of_error (Request.toUrl_of_error hrequest), Except.error.inj h]
      rw [resolveProxy_of_error (Request.toUrl_of_error hother)]
    | ok v =>
      rw [hrequest, hother] at h
      contradiction
  | ok u =>
    cases hother : other.url? with
    | error e =>
      rw [hrequest, hother] at h
      contradiction
    | ok v =>
      rw [hrequest, hother] at h
      exact resolveProxy_of_ok_of_ok hrequest hother (Except.ok.inj h) c

theorem resolveProxy_of_forms (h : Request.read form s = .ok request)
    (h' : Request.read form' s = .ok other) (c : Config) :
    resolveProxy request c = resolveProxy other c := by
  apply resolveProxy_congr
  rw [Request.map_target_url?_of_read h, Request.map_target_url?_of_read h']

theorem resolveProxy_of_foo_in_each_form :
    let c : Config := ⟨"proxy:3128".toList, [], "bar.com".toList⟩
    let uri : Uri := ⟨some "http".toList, some "Foo.com".toList, ['/'], some ['q']⟩
    let url : Url := ⟨"http".toList, some ⟨[], [], some (.domain "foo.com".toList), none⟩,
      .segments [[]], some ['q'], some "a%20b".toList⟩
    let address : Uri := ⟨some "http".toList, some "1.2.3.4.5".toList, ['/'], none⟩
    resolveProxy (.uri uri) c = resolveProxy (.text "HTTP://Foo.com?q#a b".toList) c ∧
      resolveProxy (.uri uri) c = resolveProxy (.url url) c ∧
      resolveProxy (.uri address) c = resolveProxy (.text "http://1.2.3.4.5".toList) c := by
  intro c uri url address
  have huri : Request.read .uri "HTTP://Foo.com?q#a b".toList = .ok (.uri uri) := by
    decide +kernel
  have hurl : Request.read .url "HTTP://Foo.com?q#a b".toList = .ok (.url url) := by
    decide +kernel
  have haddress : Request.read .uri "http://1.2.3.4.5".toList = .ok (.uri address) := by
    decide +kernel
  have htext (s : Text) : Request.read .text s = .ok (.text s) := rfl
  refine ⟨?_, ?_, ?_⟩
  · exact resolveProxy_of_forms huri (htext _) c
  · exact resolveProxy_of_forms huri hurl c
  · exact resolveProxy_of_forms haddress (htext _) c

end ForwardProxy
