import ForwardProxy.Proofs.Request
import ForwardProxy.Proofs.Text.Quoted

/-!
This module contains the theory of the messages of failures. Main statement: `message_of_parseProxy`
says that the message on a configured proxy can be taken apart again, so that it tells the kind of
the failure, the proxy and the cause.
-/

namespace ForwardProxy

namespace Failure

variable {f g : Failure} {proxy other : Text}

theorem BlamesProxy.kind_cases (h : f.BlamesProxy proxy) :
    f.kind = .invalidProxy ∨ f.kind = .unsupportedScheme := by
  cases hkind : f.kind with
  | request => exact absurd hkind h.kind_ne_request
  | invalidProxy => exact .inl rfl
  | unsupportedScheme => exact .inr rfl

theorem BlamesProxy.message_eq (h : f.BlamesProxy proxy) :
    ∃ cause, f.cause = some cause ∧
      f.message = f.kind.opening ++ ' ' :: Text.quote proxy ++ (": ".toList ++ cause.message) := by
  obtain ⟨cause, hcause⟩ := Option.isSome_iff_exists.1 h.has_cause
  refine ⟨cause, hcause, ?_⟩
  obtain hkind | hkind := h.kind_cases
  · simp only [message, hkind, h.proxy_eq, hcause, Option.map_some, Option.getD_some]
  · simp only [message, hkind, h.proxy_eq, hcause, Option.map_some, Option.getD_some]

theorem BlamesProxy.head?_message (h : f.BlamesProxy proxy) :
    f.message.head? = f.kind.opening.head? := by
  obtain ⟨cause, -, hmessage⟩ := h.message_eq
  rw [hmessage, List.append_assoc]
  obtain hkind | hkind := h.kind_cases
  · rw [hkind]
    rfl
  · rw [hkind]
    rfl

theorem BlamesProxy.kind_eq (hf : f.BlamesProxy proxy) (hg : g.BlamesProxy other)
    (h : f.message.head? = g.message.head?) : f.kind = g.kind := by
  have hopening : Kind.invalidProxy.opening.head? ≠ Kind.unsupportedScheme.opening.head? := by
    decide
  rw [hf.head?_message, hg.head?_message] at h
  obtain hkf | hkf := hf.kind_cases
  · obtain hkg | hkg := hg.kind_cases
    · rw [hkf, hkg]
    · rw [hkf, hkg] at h
      exact absurd h hopening
  · obtain hkg | hkg := hg.kind_cases
    · rw [hkf, hkg] at h
      exact absurd h.symm hopening
    · rw [hkf, hkg]

theorem BlamesProxy.message_eq_iff (hf : f.BlamesProxy proxy) (hg : g.BlamesProxy other) :
    f.message = g.message ↔
      f.kind = g.kind ∧ f.proxy = g.proxy ∧
        f.cause.map Cause.message = g.cause.map Cause.message := by
  obtain ⟨cause, hcause, hmf⟩ := hf.message_eq
  obtain ⟨cause', hcause', hmg⟩ := hg.message_eq
  rw [hf.proxy_eq, hg.proxy_eq, hcause, hcause', Option.map_some, Option.map_some,
    Option.some.injEq, Option.some.injEq]
  constructor
  · intro h
    have hkind := hf.kind_eq hg (congrArg List.head? h)
    rw [hmf, hmg, hkind, List.append_assoc, List.append_assoc] at h
    have hquoted := (List.cons.inj (List.append_cancel_left h)).2
    obtain ⟨hproxy, htail⟩ := Text.eq_of_quote_append hquoted
    exact ⟨hkind, hproxy, List.append_cancel_left htail⟩
  · rintro ⟨hkind, rfl, hcauses⟩
    rw [hmf, hmg, hkind, hcauses]

end Failure

theorem blamesProxy_of_parseProxy {proxy : Text} {f : Failure}
    (h : parseProxy proxy = .invalid f) : f.BlamesProxy proxy := by
  rw [eq_failure_of_parseProxy h]
  apply Reading.blamesProxy_failure

theorem message_of_parseProxy {proxy : Text} {f : Failure} (h : parseProxy proxy = .invalid f) :
    (f.kind = .invalidProxy ∨ f.kind = .unsupportedScheme) ∧ f.proxy = some proxy ∧
    (∃ cause rest, f.cause = some cause ∧
      f.message = f.kind.opening ++ ' ' :: Text.quote proxy ++ (": ".toList ++ cause.message) ∧
      f.message = f.kind.opening ++ ' ' :: '"' :: rest ∧
      Text.unquote? rest = some (proxy, ": ".toList ++ cause.message)) ∧
    (∀ c ∈ Text.quote proxy, ¬ Text.breaksLine c) ∧
    ∀ other g, parseProxy other = .invalid g →
      (f.message = g.message ↔ f.kind = g.kind ∧ f.proxy = g.proxy ∧
        f.cause.map Failure.Cause.message = g.cause.map Failure.Cause.message) := by
  have hblames := blamesProxy_of_parseProxy h
  refine ⟨hblames.kind_cases, hblames.proxy_eq, ?_, ?_, ?_⟩
  · obtain ⟨cause, hcause, hmessage⟩ := hblames.message_eq
    refine ⟨cause, _, hcause, hmessage, ?_, Text.unquote?_quote proxy _⟩
    rw [hmessage, Text.quote]
    simp only [List.append_assoc, List.cons_append, List.nil_append]
  · intro c hc
    exact Text.not_breaksLine_of_isPrintable (Text.isPrintable_of_mem_quote hc)
  · intro other g hg
    exact hblames.message_eq_iff (blamesProxy_of_parseProxy hg)

theorem message_of_proxies_with_quotes :
    let proxy := "\": x\n".toList
    let other := "\\\": x\\n".toList
    ∃ f g, parseProxy proxy = .invalid f ∧ parseProxy other = .invalid g ∧
      f.message = "invalid proxy address \"\\\": x\\n\": relative URL without a base".toList ∧
      f.message ≠ g.message := by
  intro proxy other
  have hparse : parseProxy proxy = .invalid (.invalidProxy proxy .missingBase) := by
    decide +kernel
  have hother : parseProxy other = .invalid (.invalidProxy other .missingBase) := by
    decide +kernel
  refine ⟨_, _, hparse, hother, by decide +kernel, ?_⟩
  intro h
  have hproxy := (((message_of_parseProxy hparse).2.2.2.2 other _ hother).1 h).2.1
  exact absurd hproxy (by decide)

end ForwardProxy
