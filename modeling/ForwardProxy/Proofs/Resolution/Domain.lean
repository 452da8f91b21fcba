import ForwardProxy.Proofs.Resolution

/-!
This module contains the exclusion of hosts that are given by name. Main statement:
`Config.resolve_of_domain` says that exactly the names in a listed domain are excluded.
-/

namespace ForwardProxy

open Exclusions (Excludes isLoopback)

/-- A name as it stands in the URL of a server: ASCII without capitals, without white space, and
without the characters that part the text of an endpoint or encode others. -/
def IsPlainName (name : Text) : Prop :=
  ∀ c ∈ name, c.toNat < 0x80 ∧ c.isUpper = false ∧ Text.isBlank c = false ∧
    c ∉ ['%', ':', '[', ']']

instance (name : Text) : Decidable (IsPlainName name) :=
  List.decidableBAll _ name

namespace IsPlainName

variable {u : Url} {name : Text}

theorem endpoint_host (h : IsPlainName name) (hhost : u.host? = some (.domain name)) :
    u.endpoint.host = name := by
  apply Url.endpoint_host_domain hhost
  · rw [Text.isAscii_iff]
    intro c hc
    exact (h c hc).1
  · intro hmem
    exact (h _ hmem).2.2.2 List.mem_cons_self

theorem isPlainHost (h : IsPlainName name) : IsPlainHost name := by
  intro c hc
  obtain ⟨hascii, -, hblank, hmem⟩ := h c hc
  refine ⟨hascii, hblank, ?_⟩
  intro hseparator
  exact hmem (List.mem_cons_of_mem _ hseparator)

theorem map_toLower (h : IsPlainName name) : name.map Char.toLower = name := by
  apply Text.map_toLower_eq_self
  intro c hc
  exact (h c hc).2.1

end IsPlainName

variable {c : Config} {u : Url} {name : Text}

theorem isLoopback_eq_false (hlocal : name ≠ "localhost".toList) (hip : Ip.ofText? name = none) :
    isLoopback name = false := by
  unfold isLoopback
  rw [hip, Option.any_none, Bool.or_false, beq_eq_false_iff_ne]
  exact hlocal

theorem Config.resolve_of_domain (hhost : u.host? = some (.domain name))
    (hname : IsPlainName name) (hlocal : name ≠ "localhost".toList) (hip : Ip.ofText? name = none)
    (hcandidate : c.candidate u.scheme ≠ []) :
    (c.resolve u = .bypassed ↔ Excludes c.noProxy name) ∧
      (¬ Excludes c.noProxy name → c.resolve u = parseProxy (c.candidate u.scheme)) := by
  have hendpoint := hname.endpoint_host hhost
  have hplain : IsPlainHost u.endpoint.host := by
    rw [hendpoint]
    exact hname.isPlainHost
  have hallows : c.allowsProxy u = false ↔ Excludes c.noProxy name := by
    rw [Config.allowsProxy_eq_false_iff_of_isPlainHost hplain]
    rw [hendpoint, hname.map_toLower, isLoopback_eq_false hlocal hip]
    simp
  constructor
  · rw [Config.resolve_eq_bypassed_iff hcandidate]
    exact hallows
  · intro hnot
    apply Config.resolve_of_allowsProxy hcandidate
    rwa [← Bool.not_eq_false, hallows]

theorem Config.resolve_subdomain_of_entry :
    IsPlainName "www.foo.com".toList ∧ Ip.ofText? "www.foo.com".toList = none ∧
    Config.resolve ⟨"proxy:3128".toList, [], "foo.org, .Foo.com:80".toList⟩
      ⟨"http".toList, some ⟨"me".toList, [], some (.domain "www.foo.com".toList), some 8080⟩,
        .segments ["x".toList], some "q".toList, none⟩ = .bypassed := by
  have hname : IsPlainName "www.foo.com".toList := by decide +kernel
  have hip : Ip.ofText? "www.foo.com".toList = none := by decide +kernel
  refine ⟨hname, hip, ?_⟩
  apply (Config.resolve_of_domain rfl hname (by decide) hip (by decide)).1.2
  right
  refine ⟨" .Foo.com:80".toList, ?_⟩
  decide +kernel

end ForwardProxy
