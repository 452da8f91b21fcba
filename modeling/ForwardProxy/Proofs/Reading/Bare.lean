import ForwardProxy.Proofs.Reading.Repair
import ForwardProxy.Proofs.Url.Number

/-!
This module contains the reading of proxies that are a host and perhaps a port, without a scheme.
Main statement: `parseProxy_of_bare` says which of them are servers after `http://`, and which are
URLs already because their host is the scheme of a proxy.
-/

namespace ForwardProxy

open Text (number?)

def isNameChar (c : Char) : Bool :=
  c.isAlphanum || c = '-' || c = '.' || 0x80 ≤ c.toNat

/-- A name, or an address in brackets. Addresses of version 4 have the form of names. -/
inductive IsBareHost : Text → Prop
  | name {s : Text} (hne : s ≠ []) (h : ∀ c ∈ s, isNameChar c = true) : IsBareHost s
  | address {s : Text} {a : Ip.V6} (h : Ip.V6.ofText? s = some a) : IsBareHost ('[' :: (s ++ [']']))

structure BareProxy where
  host : Text
  port : Option Text
  isHost : IsBareHost host
  isPort : ∀ s ∈ port, ∃ n, number? 10 s = some n ∧ n < UInt16.size

/-- What a number is after the colon of a scheme. With the scheme of a server it is an address,
unless it is no number in octal although it starts with a zero. -/
def Via.readNumber? (via : Via) (s : Text) : Option Url :=
  match via with
  | .http | .https =>
    (Url.addressPart? s).map fun n =>
      ⟨via.scheme, some ⟨[], [], some (.ipv4 (.ofNat n)), none⟩, .segments [[]], none, none⟩
  | .socks5 => some ⟨via.scheme, none, .plain s, none, none⟩

namespace BareProxy

def toText (b : BareProxy) : Text :=
  b.host ++ (b.port.map (':' :: ·)).getD []

def asWritten? (b : BareProxy) : Option Url := do
  let port ← b.port
  let via ← Via.ofScheme? (b.host.map Char.toLower)
  via.readNumber? port

theorem asWritten?_eq_some_iff {b : BareProxy} {u : Url} :
    b.asWritten? = some u ↔ ∃ port, b.port = some port ∧
      ∃ via : Via, via.scheme = b.host.map Char.toLower ∧ via.readNumber? port = some u := by
  simp only [asWritten?, Option.bind_eq_bind, Option.bind_eq_some_iff, Via.ofScheme?_eq_some_iff]

end BareProxy

theorem Via.isScheme_scheme (via : Via) : Url.isScheme via.scheme = true := by
  cases via <;> decide

theorem Via.scheme_of_readNumber? {via : Via} {s : Text} {u : Url}
    (h : via.readNumber? s = some u) : u.scheme = via.scheme := by
  cases via with
  | http | https =>
    obtain ⟨n, -, rfl⟩ := Option.map_eq_some_iff.1 h
    rfl
  | socks5 =>
    obtain rfl := Option.some.inj h
    rfl

theorem Via.parse_iff {via : Via} {p s : Text} {n : Nat} {u : Url}
    (hcut : Url.cutScheme? (Url.clean p) = some (via.scheme, s)) (h : number? 10 s = some n)
    (hn : n < UInt16.size) : Url.parse p = .ok u ↔ via.readNumber? s = some u := by
  have hserver : ∀ defaultPort, Url.schemeKind via.scheme = .server defaultPort →
      (Url.parse p = .ok u ↔ ∃ m, Url.addressPart? s = some m ∧ ⟨via.scheme,
        some ⟨[], [], some (.ipv4 (.ofNat m)), none⟩, .segments [[]], none, none⟩ = u) := by
    intro defaultPort hkind
    rw [Url.parse_of_server hcut hkind, Url.parseServer_of_number h hn]
    cases Url.addressPart? s with
    | none => simp
    | some m => simp
  cases via with
  | http => rw [hserver 80 (by decide), readNumber?, Option.map_eq_some_iff]
  | https => rw [hserver 443 (by decide), readNumber?, Option.map_eq_some_iff]
  | socks5 =>
    rw [Url.parse_of_generic hcut (by decide), Url.parseGeneric_of_decimal]
    · rw [readNumber?, Except.ok.injEq, Option.some.injEq]
    · exact Text.isDecimal_of_number? h

namespace BareProxy

variable {b : BareProxy} {u v : Url} {port : Text}

theorem plain_of_isNameChar {c : Char} (h : isNameChar c = true) :
    Url.isMargin c = false ∧ c ≠ ':' := by
  cases hascii : decide (c.toNat < 0x80) with
  | true =>
    apply Text.forall_ascii (p := fun c => isNameChar c = true →
      Url.isMargin c = false ∧ c ≠ ':') _ (of_decide_eq_true hascii) h
    decide
  | false =>
    have hlarge := of_decide_eq_false hascii
    constructor
    · simp only [Url.isMargin, decide_eq_false_iff_not]
      omega
    · rintro rfl
      exact hlarge (by decide)

theorem isMargin_of_mem_toText {c : Char} (h : ∀ c ∈ b.host, isNameChar c = true)
    (hc : c ∈ b.toText) : Url.isMargin c = false := by
  cases List.mem_append.1 hc with
  | inl hhost => exact (plain_of_isNameChar (h c hhost)).1
  | inr hport =>
    cases hsome : b.port with
    | none => simp [hsome] at hport
    | some port =>
      rw [hsome, Option.map_some, Option.getD_some, List.mem_cons] at hport
      cases hport with
      | inl hcolon =>
        rw [hcolon]
        decide
      | inr hdigit =>
        obtain ⟨n, hn, -⟩ := b.isPort port hsome
        exact (Url.plain_of_isDecimal (Text.isDecimal_of_number? hn c hdigit)).2.1

theorem cutScheme?_toText_iff {scheme rest : Text} :
    Url.cutScheme? (Url.clean b.toText) = some (scheme, rest) ↔
      b.port = some rest ∧ Url.isScheme b.host = true ∧ b.host.map Char.toLower = scheme := by
  obtain ⟨host, port, isHost, isPort⟩ := b
  cases isHost with
  | address h =>
    have hbracket : ∀ c ∈ ['['], Url.isMargin c = false := List.forall_mem_singleton.2 (by decide)
    have hcut : Url.cutScheme? (Url.clean (toText ⟨_, port, .address h, isPort⟩)) = none := by
      unfold toText
      rw [List.cons_append, ← List.singleton_append, Url.clean_append (by decide) hbracket]
      exact Url.cutScheme?_eq_none _ (by decide)
    have hletter : '['.isAlpha = false := by decide
    rw [hcut]
    simp [Url.isScheme, hletter]
  | name hne h =>
    have hcolon : ':' ∉ host := by
      intro hmem
      exact (plain_of_isNameChar (h _ hmem)).2 rfl
    rw [Url.clean_eq_self fun c hc => isMargin_of_mem_toText h hc]
    unfold toText Url.cutScheme?
    cases port with
    | none => simp [Text.cutFirst?_eq_none_iff.2 hcolon]
    | some port =>
      dsimp only [Option.map_some, Option.getD_some]
      rw [Text.cutFirst?_eq_some_iff.2 ⟨rfl, hcolon⟩]
      dsimp only
      split
      · next hscheme => simp [hscheme, and_comm]
      · next hscheme => simp [hscheme]

theorem parse_toText_iff :
    (Url.parse b.toText = .ok u ∧ ∃ via : Via, via.scheme = u.scheme) ↔ b.asWritten? = some u := by
  rw [asWritten?_eq_some_iff]
  constructor
  · rintro ⟨hparse, via, hvia⟩
    obtain ⟨port, hcut⟩ := Url.parse_scheme hparse
    obtain ⟨hport, -, hhost⟩ := cutScheme?_toText_iff.1 hcut
    obtain ⟨n, hn, hlt⟩ := b.isPort port hport
    rw [← hvia] at hcut
    exact ⟨port, hport, via, hvia.trans hhost.symm, (Via.parse_iff hcut hn hlt).1 hparse⟩
  · rintro ⟨port, hport, via, hvia, hread⟩
    have hscheme : Url.isScheme b.host = true := by
      rw [← Url.isScheme_map_toLower, ← hvia]
      exact via.isScheme_scheme
    have hcut := cutScheme?_toText_iff.2 ⟨hport, hscheme, hvia.symm⟩
    obtain ⟨n, hn, hlt⟩ := b.isPort port hport
    exact ⟨(Via.parse_iff hcut hn hlt).2 hread, via, (Via.scheme_of_readNumber? hread).symm⟩

theorem intercept?_toText_eq_none_iff :
    Reading.intercept? b.toText = none ↔ b.asWritten? = none := by
  rw [Reading.intercept?_eq_none_iff, Option.eq_none_iff_forall_ne_some]
  constructor
  · intro hnone u hu
    obtain ⟨hparse, via, hvia⟩ := parse_toText_iff.2 hu
    exact hnone u hparse via hvia
  · intro hnone u hparse via hvia
    exact hnone u (parse_toText_iff.1 ⟨hparse, via, hvia⟩)

theorem not_mem_beforePath (hport : b.port = some port) : '@' ∉ Url.beforePath port := by
  intro hat
  obtain ⟨n, hn, -⟩ := b.isPort port hport
  have hnot : '@' ∉ port := Url.not_mem_of_decimal (Text.isDecimal_of_number? hn) (by decide)
  exact hnot ((List.takeWhile_prefix _).subset hat)

theorem asWritten?_ne (hrepaired : Url.parse ("http://".toList ++ b.toText) = .ok v) :
    b.asWritten? ≠ some v := by
  intro hwritten
  obtain ⟨hhttp, -⟩ := Reading.intercept?_repaired hrepaired
  obtain ⟨port, hport, via, hvia, hread⟩ := asWritten?_eq_some_iff.1 hwritten
  obtain ⟨rest, hcut⟩ := Url.parse_scheme (parse_toText_iff.2 hwritten).1
  obtain ⟨name, hname, -, hclean⟩ := Url.cutScheme?_eq_some hcut
  have hat : '@' ∉ Url.beforePath rest := not_mem_beforePath (cutScheme?_toText_iff.1 hcut).1
  -- What is an address as it is written is a name after `http://`.
  cases via with
  | http | https =>
    obtain ⟨n, -, hv⟩ := Option.map_eq_some_iff.1 hread
    have hhost : v.host? = some (.ipv4 (.ofNat n)) := by
      rw [← hv]
      rfl
    obtain ⟨-, hdomain, -⟩ :=
      (Url.parse_http_append_of_not_mem hclean hname hat).1 ⟨v, hrepaired, hhost⟩
    contradiction
  | socks5 =>
    rw [Via.scheme_of_readNumber? hread] at hhttp
    exact absurd hhttp (by decide)

end BareProxy

theorem parseProxy_of_bare (b : BareProxy) {v : Url}
    (hparse : Url.parse ("http://".toList ++ b.toText) = .ok v) :
    ((∃ h, parseProxy b.toText = .resolved ⟨v, .http, h⟩) ↔ b.asWritten? = none) ∧
    ∀ u, b.asWritten? = some u → ∃ via h, parseProxy b.toText = .resolved ⟨u, via, h⟩ := by
  have hwritten : ∀ u, b.asWritten? = some u →
      ∃ via h, parseProxy b.toText = .resolved ⟨u, via, h⟩ := by
    intro u hu
    obtain ⟨hparse', via, hvia⟩ := BareProxy.parse_toText_iff.2 hu
    exact ⟨via, hvia, parseProxy_eq_resolved_iff.2 (.inl hparse')⟩
  refine ⟨⟨?_, ?_⟩, hwritten⟩
  · rintro ⟨h, hresolved⟩
    cases hsome : b.asWritten? with
    | none => rfl
    | some u =>
      obtain ⟨via, hvia, hresolved'⟩ := hwritten u hsome
      rw [hresolved, Decision.resolved.injEq, Intercept.mk.injEq] at hresolved'
      exact absurd (hresolved'.1 ▸ hsome) (BareProxy.asWritten?_ne hparse)
  · intro hnone
    obtain ⟨hscheme, -⟩ := Reading.intercept?_repaired hparse
    refine ⟨hscheme, (Reading.parseProxy_eq_resolved_iff_of_none ?_).2 hparse⟩
    exact BareProxy.intercept?_toText_eq_none_iff.2 hnone

theorem parseProxy_of_host_named_socks5 :
    ∃ v u via h, Url.parse "http://socks5:1080".toList = .ok v ∧ v.host? ≠ none ∧
      parseProxy "socks5:1080".toList = .resolved ⟨u, via, h⟩ ∧ u.host? = none := by
  let b : BareProxy := {
    host := "socks5".toList
    port := some "1080".toList
    isHost := .name (by decide) (List.all_eq_true.1 (by decide))
    isPort := by
      rintro _ ⟨⟩
      exact ⟨1080, by decide, by decide⟩
  }
  let v : Url := ⟨"http".toList, some ⟨[], [], some (.domain "socks5".toList), some 1080⟩,
    .segments [[]], none, none⟩
  have hparse : Url.parse "http://socks5:1080".toList = .ok v := by decide +kernel
  obtain ⟨-, hwritten⟩ := parseProxy_of_bare b hparse
  obtain ⟨via, h, hresolved⟩ := hwritten _ rfl
  exact ⟨v, _, via, h, hparse, by decide, hresolved, rfl⟩

end ForwardProxy
