import ForwardProxy.Proofs.Resolution.Loopback
import ForwardProxy.Proofs.Url.Name

/-!
This module contains what the address of a request is split into. Main statement:
`Url.ofText?_canonicalAddress_iff` says that it gives the host and the port back unless there are
brackets in the host, which only hosts of other schemes than those of servers can have.
-/

namespace ForwardProxy

open Endpoint (isBracket)

namespace Url

variable {u : Url} {s host : Text}

theorem host?_hostText_iff (h : host.any isBracket = false) :
    Endpoint.host? u.endpoint.hostText = some host ↔
      host = u.endpoint.host ∨ ':' ∉ host ∧ u.endpoint.host = '[' :: (host ++ [']']) := by
  have hopen : '[' ∉ host := (Endpoint.any_isBracket_eq_false_iff.1 h).1
  rw [Endpoint.host?_eq_some_iff h]
  unfold Endpoint.hostText
  -- Brackets are put around a host with a colon; the brackets of any other host are its own.
  split
  · next hcolon =>
    constructor
    · rintro (⟨rfl, -⟩ | heq)
      · exact absurd List.mem_cons_self hopen
      · rw [List.cons.injEq, List.append_left_inj] at heq
        exact .inl heq.2.symm
    · rintro (rfl | ⟨hnot, heq⟩)
      · exact .inr rfl
      · rw [heq] at hcolon
        simp [hnot] at hcolon
  · next hcolon =>
    constructor
    · rintro (⟨heq, -⟩ | heq)
      · exact .inl heq.symm
      · rw [heq] at hcolon
        simp only [List.mem_cons, List.mem_append, not_or] at hcolon
        exact .inr ⟨hcolon.2.1, heq⟩
    · rintro (rfl | ⟨-, heq⟩)
      · exact .inl ⟨rfl, hcolon⟩
      · exact .inr heq

theorem ofText?_canonicalAddress_eq_some_iff {e : Endpoint} :
    Endpoint.ofText? u.canonicalAddress = some e ↔
      e.port = u.endpoint.port ∧ e.host.any isBracket = false ∧
        (e.host = u.endpoint.host ∨
          ':' ∉ e.host ∧ u.endpoint.host = '[' :: (e.host ++ [']'])) := by
  unfold canonicalAddress
  rw [Endpoint.toText_eq_hostText_append]
  rw [Endpoint.ofText?_append_eq_some_iff (any_isBracket_port u) (colon_not_mem_port u)]
  apply and_congr_right
  intro _
  apply and_congr_right
  exact host?_hostText_iff

theorem any_isBracket_of_parse (hparse : parse s = .ok u) (hkind : schemeKind u.scheme ≠ .generic) :
    u.endpoint.host.any isBracket = false := by
  cases hhost : u.host? with
  | none =>
    have hname : u.hostName = [] := by
      unfold hostName
      rw [hhost]
    rw [endpoint_host_of_isAscii (hname ▸ rfl), hname]
    rfl
  | some host =>
    cases host with
    | domain name =>
      have hplain := plain_of_parse hparse hkind hhost
      have hbracket : ∀ c ∈ ['[', ']'], c ∉ name := by
        intro c hc hmem
        have hdenied : ∀ c ∈ ['[', ']'], isDenied c = true := List.all_eq_true.1 (by decide)
        exact ne_true_of_eq_false (hplain c hmem).2 (hdenied c hc)
      rw [endpoint_host_of_plain hhost hplain, Endpoint.any_isBracket_eq_false_iff]
      exact ⟨hbracket _ (by decide), hbracket _ (by decide)⟩
    | ipv4 x =>
      have hip : u.host? = some (Host.ofIp (.v4 x)) := hhost
      exact any_isBracket_ofIp hip
    | ipv6 x =>
      have hip : u.host? = some (Host.ofIp (.v6 x)) := hhost
      exact any_isBracket_ofIp hip

theorem ofText?_canonicalAddress_iff (u : Url) :
    (∀ e, Endpoint.ofText? u.canonicalAddress = some e ↔
      e.port = u.endpoint.port ∧ e.host.any isBracket = false ∧
        (e.host = u.endpoint.host ∨
          ':' ∉ e.host ∧ u.endpoint.host = '[' :: (e.host ++ [']']))) ∧
    (Endpoint.ofText? u.canonicalAddress = some u.endpoint ↔
      u.endpoint.host.any isBracket = false) ∧
    (∀ s, parse s = .ok u → schemeKind u.scheme ≠ .generic →
      Endpoint.ofText? u.canonicalAddress = some u.endpoint) ∧
    (∀ c : Config, c.candidate u.scheme ≠ [] → Endpoint.ofText? u.canonicalAddress = none →
      c.resolve u = .bypassed) := by
  refine ⟨fun e => ofText?_canonicalAddress_eq_some_iff, ?_, ?_, ?_⟩
  · rw [ofText?_canonicalAddress_eq_some_iff]
    simp
  · intro s hparse hkind
    exact ofText?_canonicalAddress (any_isBracket_of_parse hparse hkind)
  · intro c hcandidate hnone
    rw [Config.resolve_eq_bypassed_iff hcandidate]
    exact Exclusions.usesProxy_of_malformed u.canonicalAddress_ne_nil hnone

theorem bypassed_by_bracket_in_name :
    let u : Url := ⟨"socks5".toList, some ⟨[], [], some (.domain "a%5Bb".toList), none⟩,
      .segments [[]], none, none⟩
    parse "socks5://a%5Bb/".toList = .ok u ∧ u.endpoint = ⟨"a[b".toList, "1080".toList⟩ ∧
      Endpoint.ofText? u.canonicalAddress = none ∧
      Config.resolve ⟨"http://proxy:3128".toList, [], []⟩ u = .bypassed := by
  intro u
  have hendpoint : u.endpoint = ⟨"a[b".toList, "1080".toList⟩ := by decide +kernel
  obtain ⟨hsome, -, -, hbypassed⟩ := ofText?_canonicalAddress_iff u
  have hnone : Endpoint.ofText? u.canonicalAddress = none := by
    rw [Option.eq_none_iff_forall_ne_some]
    intro e he
    obtain ⟨-, hbracket, hhost⟩ := (hsome e).1 he
    rw [hendpoint] at hhost
    rcases hhost with hhost | ⟨-, hhost⟩
    · rw [hhost] at hbracket
      contradiction
    · exact absurd (List.cons.inj hhost).1 (by decide)
  exact ⟨by decide +kernel, hendpoint, hnone, hbypassed _ (by decide) hnone⟩

end Url

end ForwardProxy
