import ForwardProxy.Endpoint
import ForwardProxy.Proofs.Text.Digits

/-!
This module contains the theory of endpoints. Main statements: `Endpoint.ofText?_toText` says that
an endpoint is read back from its text, and `Url.ofText?_canonicalAddress` that a request is looked
up by the host and the port that it goes to.
-/

namespace ForwardProxy

namespace Endpoint

theorem any_isBracket_eq_false_iff {s : Text} :
    s.any isBracket = false ↔ '[' ∉ s ∧ ']' ∉ s := by
  rw [List.any_eq_false]
  constructor
  · intro h
    constructor
    · intro hopen
      exact h _ hopen rfl
    · intro hclose
      exact h _ hclose rfl
  · rintro ⟨hopen, hclose⟩ c hc hbracket
    simp only [isBracket, Bool.or_eq_true, decide_eq_true_eq] at hbracket
    rcases hbracket with rfl | rfl
    · exact hopen hc
    · exact hclose hc

theorem unbracket?_bracketed (s : Text) : unbracket? ('[' :: (s ++ [']'])) = some s := by
  simp [unbracket?]

theorem host?_of_plain {s : Text} (hcolon : ':' ∉ s) (hopen : '[' ∉ s) : host? s = some s := by
  unfold host?
  have hhead : s.head? ≠ some '[' := by
    intro h
    exact hopen (List.mem_of_head? h)
  rw [if_neg hhead, if_neg hcolon]

theorem host?_of_bracketed (s : Text) : host? ('[' :: (s ++ [']'])) = some s := by
  unfold host?
  rw [List.head?_cons, if_pos rfl]
  apply unbracket?_bracketed

theorem unbracket?_eq_some_iff {s t : Text} : unbracket? s = some t ↔ s = '[' :: (t ++ [']']) := by
  constructor
  · intro h
    unfold unbracket? at h
    split at h
    · next rest =>
      split at h
      · next hlast =>
        rw [Option.some.injEq] at h
        rw [← h, List.dropLast_append_getLast? _ hlast]
      · contradiction
    · contradiction
  · rintro rfl
    apply unbracket?_bracketed

theorem host?_eq_some_iff {s host : Text} (h : host.any isBracket = false) :
    host? s = some host ↔ s = host ∧ ':' ∉ host ∨ s = '[' :: (host ++ [']']) := by
  have hopen : '[' ∉ host := (any_isBracket_eq_false_iff.1 h).1
  constructor
  · intro hhost
    unfold host? at hhost
    split at hhost
    · exact .inr (unbracket?_eq_some_iff.1 hhost)
    · split at hhost
      · contradiction
      · next hcolon =>
        rw [Option.some.injEq] at hhost
        exact .inl ⟨hhost, hhost ▸ hcolon⟩
  · rintro (⟨rfl, hcolon⟩ | rfl)
    · exact host?_of_plain hcolon hopen
    · apply host?_of_bracketed

def hostText (e : Endpoint) : Text :=
  if ':' ∈ e.host then '[' :: (e.host ++ [']']) else e.host

theorem toText_eq_hostText_append (e : Endpoint) : e.toText = e.hostText ++ ':' :: e.port := by
  unfold toText hostText
  split <;> simp

theorem host?_hostText {e : Endpoint} (h : e.host.any isBracket = false) :
    host? e.hostText = some e.host := by
  unfold hostText
  split
  · apply host?_of_bracketed
  · next hcolon => exact host?_of_plain hcolon (any_isBracket_eq_false_iff.1 h).1

theorem ofText?_append {s port : Text} (hport : port.any isBracket = false) (hcolon : ':' ∉ port) :
    ofText? (s ++ ':' :: port) =
      (host? s).bind fun host => if host.any isBracket then none else some ⟨host, port⟩ := by
  unfold ofText?
  rw [Text.cutLast?_eq_some_iff.2 ⟨rfl, hcolon⟩]
  dsimp only
  cases host? s with
  | none => rfl
  | some host =>
    dsimp only
    rw [Option.bind_some, hport, Bool.or_false]

theorem ofText?_append_eq_some_iff {s port : Text} {e : Endpoint}
    (hport : port.any isBracket = false) (hcolon : ':' ∉ port) :
    ofText? (s ++ ':' :: port) = some e ↔
      e.port = port ∧ e.host.any isBracket = false ∧ host? s = some e.host := by
  rw [ofText?_append hport hcolon]
  constructor
  · intro h
    obtain ⟨host, hhost, h⟩ := Option.bind_eq_some_iff.1 h
    split at h
    · contradiction
    · next hbracket =>
      rw [Option.some.injEq] at h
      rw [← h]
      exact ⟨rfl, Bool.eq_false_iff.2 hbracket, hhost⟩
  · rintro ⟨rfl, hbracket, hhost⟩
    rw [hhost, Option.bind_some, hbracket]
    rfl

theorem ofText?_toText {e : Endpoint} (hhost : e.host.any isBracket = false)
    (hport : e.port.any isBracket = false) (hcolon : ':' ∉ e.port) :
    ofText? e.toText = some e := by
  rw [toText_eq_hostText_append]
  exact (ofText?_append_eq_some_iff hport hcolon).2 ⟨rfl, hhost, host?_hostText hhost⟩

theorem toText_of_not_mem {e : Endpoint} (h : ':' ∉ e.host) :
    e.toText = e.host ++ ':' :: e.port := by
  unfold toText
  rw [if_neg h]

theorem head?_append_colon {s port : Text} :
    (s ++ ':' :: port).head? = some '[' ↔ s.head? = some '[' := by
  cases s with
  | nil => simp
  | cons c s => rfl

theorem stripPort_prefix (s : Text) : stripPort s <+: s := by
  cases h : hasPort s with
  | false =>
    refine ⟨[], ?_⟩
    rw [stripPort_of_not_hasPort h, List.append_nil]
  | true =>
    obtain ⟨a, b, rfl, hcolon, hbracket⟩ := hasPort_iff.1 h
    rw [stripPort_append hcolon hbracket]
    exact List.prefix_append a (':' :: b)

theorem stripPort_eq_self_iff {s : Text} : stripPort s = s ↔ hasPort s = false := by
  constructor
  · intro hself
    rw [← Bool.not_eq_true]
    intro h
    obtain ⟨a, b, rfl, hcolon, hbracket⟩ := hasPort_iff.1 h
    rw [stripPort_append hcolon hbracket] at hself
    simp at hself
  · exact stripPort_of_not_hasPort

theorem stripPort_eq_nil_iff {s : Text} :
    stripPort s = [] ↔ s = [] ∨ ∃ port, s = ':' :: port ∧ ':' ∉ port ∧ ']' ∉ port := by
  constructor
  · intro hnil
    cases h : hasPort s with
    | false =>
      rw [stripPort_of_not_hasPort h] at hnil
      exact .inl hnil
    | true =>
      obtain ⟨a, b, rfl, hcolon, hbracket⟩ := hasPort_iff.1 h
      rw [stripPort_append hcolon hbracket] at hnil
      exact .inr ⟨b, by rw [hnil, List.nil_append], hcolon, hbracket⟩
  · rintro (rfl | ⟨port, rfl, hcolon, hbracket⟩)
    · rfl
    · exact stripPort_append (a := []) hcolon hbracket

theorem stripPort_cons {c : Char} (hc : c ≠ ':') (s : Text) :
    stripPort (c :: s) = c :: stripPort s := by
  cases h : Text.cutLast? ':' s with
  | none => simp [stripPort, Text.cutLast?, h, hc]
  | some cut =>
    simp only [stripPort, Text.cutLast?, h]
    split <;> rfl

end Endpoint

namespace Url

theorem isDecimal_of_mem_impliedPort {scheme : Text} {c : Char} (hc : c ∈ impliedPort scheme) :
    Text.isDecimal c = true := by
  have h : ∀ port ∈ ["80".toList, "443".toList, "1080".toList, []],
      port.all Text.isDecimal = true := by decide
  apply List.all_eq_true.1 (h (impliedPort scheme) _) c hc
  unfold impliedPort
  repeat' split
  all_goals simp only [List.mem_cons, true_or, or_true]

theorem isDecimal_of_mem_port {u : Url} {c : Char} (hc : c ∈ u.endpoint.port) :
    Text.isDecimal c = true := by
  unfold endpoint at hc
  cases hport : u.port? with
  | none =>
    rw [hport] at hc
    exact isDecimal_of_mem_impliedPort hc
  | some n =>
    rw [hport] at hc
    exact Text.isDecimal_of_mem_ofNat hc

theorem not_mem_port {u : Url} {c : Char} (hc : Text.isDecimal c = false) :
    c ∉ u.endpoint.port := by
  intro h
  rw [isDecimal_of_mem_port h] at hc
  contradiction

theorem any_isBracket_port (u : Url) : u.endpoint.port.any Endpoint.isBracket = false := by
  rw [Endpoint.any_isBracket_eq_false_iff]
  constructor
  · apply not_mem_port
    decide
  · apply not_mem_port
    decide

theorem colon_not_mem_port (u : Url) : ':' ∉ u.endpoint.port := by
  apply not_mem_port
  decide

theorem ofText?_canonicalAddress {u : Url} (h : u.endpoint.host.any Endpoint.isBracket = false) :
    Endpoint.ofText? u.canonicalAddress = some u.endpoint :=
  Endpoint.ofText?_toText h (any_isBracket_port u) (colon_not_mem_port u)

theorem map_host_ofText?_canonicalAddress (u : Url) :
    (Endpoint.ofText? u.canonicalAddress).map Endpoint.host =
      (Endpoint.host? u.endpoint.hostText).filter fun host => !host.any Endpoint.isBracket := by
  unfold canonicalAddress
  rw [Endpoint.toText_eq_hostText_append]
  rw [Endpoint.ofText?_append (any_isBracket_port u) (colon_not_mem_port u)]
  cases Endpoint.host? u.endpoint.hostText with
  | none => rfl
  | some host =>
    rw [Option.bind_some, Option.filter_some]
    cases host.any Endpoint.isBracket <;> rfl

theorem canonicalAddress_ne_nil (u : Url) : u.canonicalAddress ≠ [] := by
  unfold canonicalAddress
  rw [Endpoint.toText_eq_hostText_append]
  simp

theorem endpoint_host_of_isAscii {u : Url} (h : Text.isAscii u.hostName = true) :
    u.endpoint.host = u.hostName := by
  unfold endpoint asciiName?
  rw [if_pos h]
  rfl

theorem hostName_of_stored {u : Url} {stored : Text} (hhost : u.host? = some (.domain stored)) :
    u.hostName = (Percent.decode? stored).getD stored := by
  unfold hostName
  rw [hhost]

theorem hostName_domain {u : Url} {name : Text} (hhost : u.host? = some (.domain name))
    (h : '%' ∉ name) : u.hostName = name := by
  rw [hostName_of_stored hhost, Percent.decode?_eq_self h, Option.getD_some]

theorem endpoint_host_domain {u : Url} {name : Text} (hhost : u.host? = some (.domain name))
    (hascii : Text.isAscii name = true) (h : '%' ∉ name) : u.endpoint.host = name := by
  have hname := hostName_domain hhost h
  rw [endpoint_host_of_isAscii]
  · exact hname
  · rwa [hname]

end Url

end ForwardProxy
