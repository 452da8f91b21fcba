import ForwardProxy.Proofs.Exclusions.Spelling
import ForwardProxy.Proofs.Idna.LowerCase
import ForwardProxy.Proofs.Resolution
import ForwardProxy.Proofs.Url.Name

/-!
This module contains lists that hold the name in a URL as it is written there. Main statement:
`Config.resolve_of_own_name` says that such an entry excludes the hosts in its own domain if every
character of it has a small form in ASCII, and otherwise none of them.
-/

namespace ForwardProxy

open Exclusions (Excludes comparable dropDot isLoopback labels)
open Text (hasAsciiForm lower)

namespace Url.IsDomainName

variable {s name host : Text}

theorem isBare (h : IsDomainName s) : Exclusions.IsBare s := by
  have hblank : ∀ c ∈ s, Text.isBlank c = false := by
    intro c hc
    exact (h c hc).1
  constructor
  · unfold Text.trim Text.trimStart Text.trimEnd
    rw [Text.dropWhile_eq_self hblank, Text.reverse_dropWhile_eq_self hblank, List.reverse_reverse]
  · rw [← Bool.not_eq_true, Endpoint.hasPort_iff]
    rintro ⟨before, port, rfl, -⟩
    exact h.not_mem (c := ':') (by decide) (List.mem_append_right _ List.mem_cons_self)

theorem comparable_eq_lower (h : IsDomainName s) : comparable s = lower s := by
  have hstart : Text.trimStart s = s := by
    apply Text.dropWhile_eq_self
    intro c hc
    exact (h c hc).1
  rw [h.isBare.comparable_eq, hstart]

theorem excludes_iff (h : IsDomainName s) :
    Excludes s host ↔
      s = ['*'] ∨ lower s ≠ [] ∧ labels (dropDot (lower s)) <:+ labels host := by
  rw [Exclusions.excludes_entry_iff (h.not_mem (by decide)), h.comparable_eq_lower]

theorem hasAsciiForm_of_excludes (h : IsDomainName s) (hhost : ∀ c ∈ host, c.toNat < 0x80)
    (hexcludes : Excludes s host) : ∀ c ∈ s, hasAsciiForm c = true := by
  rcases h.excludes_iff.1 hexcludes with rfl | ⟨-, hsuffix⟩
  · rw [List.forall_mem_singleton]
    rfl
  · -- The entry in small letters is a part of a host in ASCII, but for the dot at its start.
    apply (Text.smallForm_lower s).forall_ascii_iff.1
    intro c hc
    rcases Exclusions.eq_dot_or_mem_dropDot hc with rfl | hc
    · decide
    · exact hhost c (Exclusions.mem_of_labels_suffix hsuffix hc)

theorem excludes_of_hasAsciiForm (h : IsDomainName s) (hserver : serverHost s = .ok (.domain name))
    (hdomain : labels (name.map Char.toLower) <:+ labels host)
    (hform : ∀ c ∈ s, hasAsciiForm c = true) : Excludes s host := by
  obtain ⟨t, hdecode, hname⟩ := toAscii?_of_serverHost hserver
  rw [Percent.decode?_eq_self (h.not_mem (by decide)), Option.some.injEq] at hdecode
  subst hdecode
  have hlower := Idna.toAscii?_eq_lower hform hname
  have hne := serverHost_toText_ne_nil hserver
  rw [hlower, Text.map_toLower_lower hform] at hdomain
  rw [Host.toText, hlower] at hne
  exact h.excludes_iff.2 (.inr ⟨hne, (Exclusions.labels_dropDot _).trans hdomain⟩)

end Url.IsDomainName

theorem isPlainHost_of_not_isDenied {name : Text}
    (h : ∀ c ∈ name, c.toNat < 0x80 ∧ Url.isDenied c = false) : IsPlainHost name := by
  intro c hc
  obtain ⟨hascii, hdenied⟩ := h c hc
  refine ⟨hascii, ?_⟩
  apply Text.forall_ascii (p := fun c => Url.isDenied c = false →
    Text.isBlank c = false ∧ c ∉ [':', '[', ']']) _ hascii hdenied
  decide

def Url.IsInDomain (u : Url) (name : Text) : Prop :=
  labels (name.map Char.toLower) <:+ labels (u.endpoint.host.map Char.toLower)

namespace Config

variable {c : Config} {u : Url} {s name : Text}

theorem resolve_of_own_name (hs : Url.IsDomainName s)
    (hparse : Url.parse ("http://".toList ++ s ++ ['/']) = .ok u)
    (hhost : u.host? = some (.domain name)) (hproxy : c.httpProxy ≠ []) (hlist : c.noProxy = s) :
    (IsPlainHost u.endpoint.host ∧ u.IsInDomain name) ∧
    ∀ v : Url, IsPlainHost v.endpoint.host → v.IsInDomain name →
      (c.resolve v = .bypassed ↔
        isLoopback v.endpoint.host = true ∨ ∀ ch ∈ s, hasAsciiForm ch = true) ∧
      (c.resolve v ≠ .bypassed → c.resolve v = parseProxy (c.candidate v.scheme)) := by
  have hserver := Url.serverHost_of_parse_http hs hparse hhost
  have hplain := Url.plain_of_serverHost hserver
  constructor
  · unfold Url.IsInDomain
    rw [Url.endpoint_host_of_plain hhost hplain]
    exact ⟨isPlainHost_of_not_isDenied hplain, List.suffix_refl _⟩
  · intro v hv hdomain
    have hcandidate := candidate_ne_nil hproxy v.scheme
    have hascii : ∀ ch ∈ v.endpoint.host.map Char.toLower, ch.toNat < 0x80 := by
      apply Text.ascii_map_toLower
      intro ch hch
      exact (hv ch hch).1
    have hexcludes : Excludes s (v.endpoint.host.map Char.toLower) ↔
        ∀ ch ∈ s, hasAsciiForm ch = true :=
      ⟨hs.hasAsciiForm_of_excludes hascii, hs.excludes_of_hasAsciiForm hserver hdomain⟩
    rw [resolve_eq_bypassed_iff hcandidate, allowsProxy_eq_false_iff_of_isPlainHost hv, hlist]
    rw [hexcludes]
    exact ⟨Iff.rfl, resolve_of_ne_bypassed hcandidate⟩

theorem resolve_of_own_name_outside_ascii :
    let u : Url := ⟨"http".toList,
      some ⟨[], [], some (.domain "xn--bcher-kva.example".toList), none⟩, .segments [[]], none, none⟩
    let v : Url := ⟨"https".toList, some ⟨[], [], some (.domain "www.kelvin".toList), some 8443⟩,
      .segments [[]], none, none⟩
    Url.parse "http://bücher.example/".toList = .ok u ∧
      resolve ⟨"http://proxy:3128".toList, [], "bücher.example".toList⟩ u ≠ .bypassed ∧
      resolve ⟨"http://proxy:3128".toList, [], "\u212aelvin".toList⟩ v = .bypassed := by
  intro u v
  have hbook : Url.parse ("http://".toList ++ "bücher.example".toList ++ ['/']) = .ok u := by
    decide +kernel
  have hkelvin : Url.parse ("http://".toList ++ "\u212aelvin".toList ++ ['/']) =
      .ok ⟨"http".toList, some ⟨[], [], some (.domain "kelvin".toList), none⟩, .segments [[]],
        none, none⟩ := by
    decide +kernel
  refine ⟨hbook, ?_, ?_⟩
  · obtain ⟨⟨hplain, hdomain⟩, hiff⟩ :=
      resolve_of_own_name (c := ⟨"http://proxy:3128".toList, [], "bücher.example".toList⟩)
        (by decide +kernel) hbook rfl (by decide) rfl
    rw [Ne, (hiff u hplain hdomain).1]
    rintro (hloopback | hform)
    · exact absurd hloopback (by decide +kernel)
    · exact absurd (hform 'ü' (by decide)) (by decide)
  · obtain ⟨-, hiff⟩ :=
      resolve_of_own_name (c := ⟨"http://proxy:3128".toList, [], "\u212aelvin".toList⟩)
        (by decide +kernel) hkelvin rfl (by decide) rfl
    have hplain : IsPlainHost v.endpoint.host := by decide +kernel
    have hdomain : v.IsInDomain "kelvin".toList := by
      unfold Url.IsInDomain
      decide +kernel
    apply (hiff v hplain hdomain).1.2
    right
    exact List.all_eq_true.1 (by decide +kernel)

end Config

end ForwardProxy
