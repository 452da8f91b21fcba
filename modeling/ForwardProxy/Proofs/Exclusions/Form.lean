import ForwardProxy.Proofs.Endpoint.Grammar
import ForwardProxy.Proofs.Exclusions.Pattern

/-!
This module contains what of an address matters for exclusions: its host, and the form in which it
is written. Main statement: `usesProxy_of_same_host` says that addresses of one host are treated
alike if all of them are in brackets, and if none is, unless the host ends in a capital sigma.
-/

namespace ForwardProxy

namespace Text

theorem startsCased_of_isBlank {s : Text} (h : ∀ c ∈ s, isBlank c = true) :
    startsCased s = false := by
  unfold startsCased
  split
  · rfl
  · next c rest hrest =>
    have hc : c ∈ s := by
      apply (List.dropWhile_suffix Unicode.isCaseIgnorable).subset
      rw [hrest]
      exact List.mem_cons_self
    exact isCased_of_isMark (isMark_of_isBlank (h c hc))

theorem startsCased_trimEnd (s : Text) : startsCased (trimEnd s) = startsCased s := by
  have hblank : ∀ c ∈ s.rtakeWhile isBlank, isBlank c = true := by
    intro c hc
    exact List.mem_rtakeWhile_imp hc
  have hs : trimEnd s ++ s.rtakeWhile isBlank = s := List.rdropWhile_append_rtakeWhile
  rw [← startsCased_append (startsCased_of_isBlank hblank), hs]

theorem EndsInSigma.of_trimStart {s : Text} (h : EndsInSigma (trimStart s)) : EndsInSigma s := by
  obtain ⟨x, y, hs, hx, hy⟩ := h
  have hblank : ∀ c ∈ (s.takeWhile isBlank).reverse, isBlank c = true := by
    intro c hc
    exact List.mem_takeWhile_imp (List.mem_reverse.1 hc)
  have hfront : s.takeWhile isBlank ++ trimStart s = s := List.takeWhile_append_dropWhile
  refine ⟨s.takeWhile isBlank ++ x, y, ?_, ?_, hy⟩
  · rw [List.append_assoc, ← hs, hfront]
  · rwa [List.reverse_append, startsCased_append (startsCased_of_isBlank hblank)]

end Text

namespace Endpoint

variable {a b : Text} {e f : Endpoint}

def inBrackets (a : Text) : Bool :=
  a.head? = some '['

def IsPort (s : Text) : Prop :=
  ':' ∉ s ∧ ']' ∉ s

theorem IsPort.trimEnd {s : Text} (h : IsPort s) : IsPort (Text.trimEnd s) := by
  have hsubset := (Text.trimEnd_prefix s).subset
  exact ⟨fun hmem => h.1 (hsubset hmem), fun hmem => h.2 (hsubset hmem)⟩

theorem isPort_of_ofText? (h : ofText? a = some e) : IsPort e.port := by
  obtain ⟨-, hcolon, -, hclose⟩ := isWritable_iff.1 (ofText?_iff_isWritable.1 h).1
  exact ⟨hcolon, hclose⟩

theorem form_cases (h : ofText? a = some e) :
    inBrackets a = true ∧ a = '[' :: (e.host ++ [']']) ++ ':' :: e.port ∨
      inBrackets a = false ∧ ':' ∉ e.host ∧ a = e.host ++ ':' :: e.port := by
  obtain ⟨hwritable, hform⟩ := ofText?_iff_isWritable.1 h
  obtain ⟨⟨hopen, -⟩, -⟩ := isWritable_iff.1 hwritable
  rcases hform with ⟨rfl, hhost⟩ | rfl
  · refine .inr ⟨?_, hhost, rfl⟩
    unfold inBrackets
    rw [decide_eq_false_iff_not, head?_append_colon]
    intro hhead
    exact hopen (List.mem_of_head? hhead)
  · exact .inl ⟨rfl, by simp⟩

theorem eq_of_brackets (h : ofText? a = some e) (hform : inBrackets a = true) :
    a = '[' :: (e.host ++ [']']) ++ ':' :: e.port := by
  obtain ⟨-, ha⟩ | ⟨hnot, -⟩ := form_cases h
  · exact ha
  · rw [hform] at hnot
    contradiction

theorem eq_of_no_brackets (h : ofText? a = some e) (hform : inBrackets a = false) :
    a = e.host ++ ':' :: e.port := by
  obtain ⟨hin, -⟩ | ⟨-, -, ha⟩ := form_cases h
  · rw [hform] at hin
    contradiction
  · exact ha

theorem inBrackets_of_colon (h : ofText? a = some e) (hcolon : ':' ∈ e.host) :
    inBrackets a = true := by
  obtain ⟨hform, -⟩ | ⟨-, hnot, -⟩ := form_cases h
  · exact hform
  · exact absurd hcolon hnot

end Endpoint

namespace Exclusions

open Endpoint (IsPort eq_of_brackets eq_of_no_brackets inBrackets inBrackets_of_colon
  isPort_of_ofText? stripPort)
open Text (EndsInSigma lower startsCased trimStart trimEnd)

variable {s p q : Text}

theorem stripPort_append_go {front before : Text} (h : IsPort p) :
    stripPort (front ++ lower.go before (':' :: p)) = front := by
  have hgo : lower.go before (':' :: p) = ':' :: lower.go (':' :: before) p := rfl
  have hform := Text.smallForm_go (':' :: before) p
  rw [hgo]
  apply Endpoint.stripPort_append
  · rw [hform.mem_iff_of_isMark (by decide)]
    exact h.1
  · rw [hform.mem_iff_of_isMark (by decide)]
    exact h.2

theorem comparable_append_congr (hp : IsPort p) (hq : IsPort q)
    (h : startsCased p = startsCased q ∨ ¬ EndsInSigma s) :
    comparable (s ++ ':' :: p) = comparable (s ++ ':' :: q) := by
  have hcolon : Text.isBlank ':' = false := by decide
  have hcased : startsCased (':' :: trimEnd p) = startsCased (':' :: trimEnd q) ∨
      ¬ EndsInSigma ([].reverse ++ trimStart s) := by
    apply h.imp
    · intro h
      have hports : startsCased (trimEnd p) = startsCased (trimEnd q) := by
        rwa [Text.startsCased_trimEnd, Text.startsCased_trimEnd]
      exact Text.startsCased_append_congr (s := [':']) hports
    · exact mt EndsInSigma.of_trimStart
  -- What stands before the last colon is lower-cased alike, and the rest is cut off.
  obtain ⟨front, hfront, hfront'⟩ := Text.lower.go_append_congr hcased
  unfold comparable
  rw [Text.trim_append_cons hcolon, Text.trim_append_cons hcolon]
  unfold lower
  rw [hfront, hfront', stripPort_append_go hp.trimEnd, stripPort_append_go hq.trimEnd]

section SameHost

variable {a b : Text} {e f : Endpoint} (ha : Endpoint.ofText? a = some e)
  (hb : Endpoint.ofText? b = some f) (hhost : e.host = f.host)

include ha hb hhost

theorem comparable_of_brackets (hform : inBrackets a = true) (hform' : inBrackets b = true) :
    comparable a = comparable b := by
  rw [eq_of_brackets ha hform, eq_of_brackets hb hform', ← hhost]
  apply comparable_append_congr (isPort_of_ofText? ha) (isPort_of_ofText? hb)
  -- What stands before the port ends in a bracket, so its small form does not see the port.
  rw [← List.cons_append]
  exact .inr (Text.not_endsInSigma_concat (by decide) (by decide))

theorem comparable_of_no_brackets (hform : inBrackets a = false) (hform' : inBrackets b = false)
    (h : startsCased e.port = startsCased f.port ∨ ¬ EndsInSigma e.host) :
    comparable a = comparable b := by
  rw [eq_of_no_brackets ha hform, eq_of_no_brackets hb hform', ← hhost]
  exact comparable_append_congr (isPort_of_ofText? ha) (isPort_of_ofText? hb) h

end SameHost

theorem usesProxy_of_same_host {list a b : Text} {e f : Endpoint}
    (ha : Endpoint.ofText? a = some e) (hb : Endpoint.ofText? b = some f)
    (hhost : e.host = f.host) :
    (':' ∈ e.host ∨ inBrackets a = true ∧ inBrackets b = true →
      (ofText list).usesProxy a = (ofText list).usesProxy b) ∧
    (inBrackets a = false → inBrackets b = false →
      startsCased e.port = startsCased f.port ∨ ¬ EndsInSigma e.host →
      (ofText list).usesProxy a = (ofText list).usesProxy b) ∧
    (isLoopback e.host = true ∨ list = ['*'] ∨ (ofText list).patterns = [] →
      (ofText list).usesProxy a = (ofText list).usesProxy b) := by
  refine ⟨?_, ?_, ?_⟩
  · intro hform
    have hbrackets : inBrackets a = true ∧ inBrackets b = true := by
      rcases hform with hcolon | hbrackets
      · exact ⟨inBrackets_of_colon ha hcolon, inBrackets_of_colon hb (hhost ▸ hcolon)⟩
      · exact hbrackets
    rw [usesProxy_eq ha, usesProxy_eq hb, hhost,
      comparable_of_brackets ha hb hhost hbrackets.1 hbrackets.2]
  · intro hform hform' hcased
    rw [usesProxy_eq ha, usesProxy_eq hb, hhost,
      comparable_of_no_brackets ha hb hhost hform hform' hcased]
  · intro hany
    rw [usesProxy_eq ha, usesProxy_eq hb, ← hhost]
    rcases hany with hloopback | rfl | hpatterns
    · rw [hloopback]
      rfl
    · have hwildcard : (ofText ['*']).isWildcard = true := by decide
      rw [hwildcard, Bool.not_true, Bool.and_false, Bool.false_and, Bool.false_and]
    · rw [hpatterns]
      rfl

theorem usesProxy_of_sigma_and_localhost :
    (ofText "bar.org,[aς]:1".toList).usesProxy "[aΣ]:80".toList =
        (ofText "bar.org,[aς]:1".toList).usesProxy "[aΣ]:b".toList ∧
      (ofText "foo.com".toList).usesProxy "Σ.foo.com:80".toList =
        (ofText "foo.com".toList).usesProxy "Σ.foo.com:b".toList ∧
      (ofText "foo.com".toList).usesProxy "localhost:80".toList =
        (ofText "foo.com".toList).usesProxy "[localhost]:8080".toList := by
  refine ⟨?_, ?_, ?_⟩
  · have ha : Endpoint.ofText? "[aΣ]:80".toList = some ⟨"aΣ".toList, "80".toList⟩ := by decide
    have hb : Endpoint.ofText? "[aΣ]:b".toList = some ⟨"aΣ".toList, "b".toList⟩ := by decide
    exact (usesProxy_of_same_host ha hb rfl).1 (.inr ⟨by decide, by decide⟩)
  · have ha : Endpoint.ofText? "Σ.foo.com:80".toList =
        some ⟨"Σ.foo.com".toList, "80".toList⟩ := by decide
    have hb : Endpoint.ofText? "Σ.foo.com:b".toList =
        some ⟨"Σ.foo.com".toList, "b".toList⟩ := by decide
    have hend : ¬ EndsInSigma ("Σ.foo.co".toList ++ ['m']) :=
      Text.not_endsInSigma_concat (by decide) (by decide)
    exact (usesProxy_of_same_host ha hb rfl).2.1 (by decide) (by decide) (.inr hend)
  · have ha : Endpoint.ofText? "localhost:80".toList = some ⟨"localhost".toList, "80".toList⟩ := by
      decide
    have hb : Endpoint.ofText? "[localhost]:8080".toList =
        some ⟨"localhost".toList, "8080".toList⟩ := by
      decide
    exact (usesProxy_of_same_host ha hb rfl).2.2 (.inl (by decide +kernel))

theorem usesProxy_of_brackets_and_final_sigma :
    (Endpoint.ofText? "foo.com:80".toList = some ⟨"foo.com".toList, "80".toList⟩ ∧
      Endpoint.ofText? "[foo.com]:80".toList = some ⟨"foo.com".toList, "80".toList⟩ ∧
      (ofText "foo.com".toList).usesProxy "foo.com:80".toList = false ∧
      (ofText "foo.com".toList).usesProxy "[foo.com]:80".toList = true) ∧
    (Endpoint.ofText? "aΣ:80".toList = some ⟨"aΣ".toList, "80".toList⟩ ∧
      Endpoint.ofText? "aΣ:b".toList = some ⟨"aΣ".toList, "b".toList⟩ ∧
      (ofText "aς".toList).usesProxy "aΣ:80".toList = false ∧
      (ofText "aς".toList).usesProxy "aΣ:b".toList = true) := by
  decide +kernel

end Exclusions

end ForwardProxy
