import ForwardProxy.Proofs.Endpoint
import ForwardProxy.Proofs.Exclusions
import ForwardProxy.Proofs.Text.SmallForm

/-!
This module contains the theory of single entries: what is left of their text, and which hosts they
cover. Main statements: `covers_iff_labels` says that an entry covers the names that end in its
labels, with a leading dot or without, and `isNormal_iff_isTidy` says of which entries nothing but
the name is left.
-/

namespace ForwardProxy

namespace Text.SmallForm

variable {s t : Text}

theorem cutLast?_cases (h : SmallForm s t) :
    (cutLast? ':' s = none ∧ cutLast? ':' t = none) ∨
      ∃ a b x y, cutLast? ':' s = some (a, b) ∧ cutLast? ':' t = some (x, y) ∧
        SmallForm a x ∧ SmallForm b y := by
  have hmark : isMark ':' = true := by decide
  cases hcut : cutLast? ':' s with
  | none =>
    left
    rw [cutLast?_eq_none_iff] at hcut ⊢
    rw [h.mem_iff_of_isMark hmark]
    exact ⟨rfl, hcut⟩
  | some cut =>
    right
    obtain ⟨a, b⟩ := cut
    obtain ⟨rfl, hcolon⟩ := cutLast?_eq_some_iff.1 hcut
    obtain ⟨x, y, rfl, hx, hy⟩ := h.append_cases
    cases hy with
    | @cons _ small _ y hsmall hy =>
      have hself : small = [':'] := List.mem_singleton.1 hsmall
      refine ⟨a, b, x, y, rfl, ?_, hx, hy⟩
      rw [hself, cutLast?_eq_some_iff, hy.mem_iff_of_isMark hmark]
      exact ⟨rfl, hcolon⟩

theorem hasPort_eq (h : SmallForm s t) : Endpoint.hasPort t = Endpoint.hasPort s := by
  unfold Endpoint.hasPort
  rcases h.cutLast?_cases with ⟨hs, ht⟩ | ⟨a, b, x, y, hs, ht, -, hy⟩
  · rw [hs, ht]
  · have hbracket := hy.mem_iff_of_isMark (d := ']') (by decide)
    simp only [hs, ht, hbracket]

theorem stripPort (h : SmallForm s t) :
    SmallForm (Endpoint.stripPort s) (Endpoint.stripPort t) := by
  unfold Endpoint.stripPort
  rcases h.cutLast?_cases with ⟨hs, ht⟩ | ⟨a, b, x, y, hs, ht, hx, hy⟩
  · rw [hs, ht]
    exact h
  · have hbracket := hy.mem_iff_of_isMark (d := ']') (by decide)
    simp only [hs, ht, hbracket]
    split
    · exact h
    · exact hx

end Text.SmallForm

namespace Exclusions

open Endpoint (hasPort stripPort)
open Text (trim trimStart trimEnd lower isBlank SmallForm)

variable {entry s : Text}

def written (entry : Text) : Text :=
  stripPort (trim entry)

theorem smallForm_comparable (entry : Text) : SmallForm (written entry) (comparable entry) :=
  (Text.smallForm_lower (trim entry)).stripPort

theorem isSmall_of_mem_comparable {c : Char} (hc : c ∈ comparable entry) : Text.isSmall c = true :=
  (smallForm_comparable entry).isSmall_of_mem hc

theorem trimStart_comparable (entry : Text) : trimStart (comparable entry) = comparable entry := by
  rw [(smallForm_comparable entry).trimStart_eq_self_iff]
  have htrim := Text.trimStart_trim entry
  rw [Text.trimStart_eq_self_iff] at htrim ⊢
  -- The text before a port starts as the whole text does, unless it is empty.
  obtain ⟨rest, hrest⟩ := Endpoint.stripPort_prefix (trim entry)
  unfold written
  cases hwritten : stripPort (trim entry) with
  | nil => rfl
  | cons c s => rwa [← hrest, hwritten] at htrim

def IsMalformed (entry : Text) : Prop :=
  trim entry = [] ∨ ∃ port, trim entry = ':' :: port ∧ ':' ∉ port ∧ ']' ∉ port

theorem comparable_eq_nil_iff : comparable entry = [] ↔ IsMalformed entry := by
  rw [(smallForm_comparable entry).eq_nil_iff]
  exact Endpoint.stripPort_eq_nil_iff

theorem comparable_eq_self_iff (hsmall : ∀ c ∈ s, Text.isSmall c = true)
    (hstart : trimStart s = s) : comparable s = s ↔ trimEnd s = s ∧ hasPort s = false := by
  have hfront := Text.trimEnd_prefix s
  have hcomparable : comparable s = stripPort (trimEnd s) := by
    unfold comparable trim
    rw [hstart, Text.lower_eq_self]
    intro c hc
    exact hsmall c (hfront.subset hc)
  rw [hcomparable]
  constructor
  · intro hself
    have hend : trimEnd s = s := by
      apply hfront.eq_of_length
      have hle := (Endpoint.stripPort_prefix (trimEnd s)).length_le
      rw [hself] at hle
      exact Nat.le_antisymm hfront.length_le hle
    rw [hend, Endpoint.stripPort_eq_self_iff] at hself
    exact ⟨hend, hself⟩
  · rintro ⟨hend, hport⟩
    rw [hend, Endpoint.stripPort_eq_self_iff]
    exact hport

def withDot (entry : Text) : Text :=
  entry.takeWhile isBlank ++ '.' :: trimStart entry

theorem comparable_withDot (entry : Text) : comparable (withDot entry) = '.' :: comparable entry := by
  have htrim : trim (withDot entry) = '.' :: trim entry := by
    have hblank : ∀ c ∈ entry.takeWhile isBlank, isBlank c = true := by
      intro c hc
      exact List.mem_takeWhile_imp hc
    unfold withDot
    rw [← Text.trim_cons_trimStart (by decide)]
    have h := Text.trim_append_append (s := '.' :: trimStart entry) hblank
      (List.forall_mem_nil _)
    rwa [List.append_nil] at h
  unfold comparable
  rw [htrim, Text.lower_cons_of_ascii (by decide) (by decide)]
  exact Endpoint.stripPort_cons (by decide) _

namespace Pattern

variable {p : Pattern}

theorem ofText?_congr (h : comparable entry = comparable s) : ofText? entry = ofText? s := by
  unfold ofText?
  rw [h]

theorem text_of_ofText? (h : ofText? entry = some p) :
    p.text = comparable entry ∧ comparable entry ≠ [] := by
  unfold ofText? at h
  split at h
  · contradiction
  · next hdot =>
    rw [← Option.some.inj h, hdot]
    exact ⟨rfl, List.cons_ne_nil _ _⟩
  · next hname =>
    rw [← Option.some.inj h, hname]
    exact ⟨rfl, List.cons_ne_nil _ _⟩

theorem ofText?_eq_none_iff : ofText? entry = none ↔ IsMalformed entry := by
  rw [← comparable_eq_nil_iff]
  unfold ofText?
  split
  · next h => simp [h]
  · next h => simp [h]
  · next h => simp [h]

theorem covers_iff_labels (name host : Text) :
    ((Pattern.domain name).covers host = true ↔ labels name <:+ labels host) ∧
    (Pattern.subdomain ('.' :: name)).covers host = (Pattern.domain name).covers host ∧
    ∀ entry, ofText? entry = some (.domain name) →
      (ofText? (withDot entry)).any (·.covers host) = (ofText? entry).any (·.covers host) := by
  have hdot : (Pattern.subdomain ('.' :: name)).covers host = (Pattern.domain name).covers host := by
    rw [Bool.eq_iff_iff, covers_subdomain_iff, covers_domain_iff]
  refine ⟨covers_domain_iff, hdot, ?_⟩
  intro entry h
  have hdotted : ofText? (withDot entry) = some (.subdomain ('.' :: name)) := by
    unfold ofText?
    rw [comparable_withDot, ← (text_of_ofText? h).1]
    rfl
  rw [hdotted, h, Option.any_some, Option.any_some, hdot]

theorem any_covers_withDot_foo :
    (ofText? (withDot " Foo.com:80".toList)).any (·.covers "www.foo.com".toList) = true := by
  obtain ⟨hlabels, -, hdot⟩ := covers_iff_labels "foo.com".toList "www.foo.com".toList
  have hentry : ofText? " Foo.com:80".toList = some (.domain "foo.com".toList) := by decide +kernel
  rw [hdot _ hentry, hentry, Option.any_some, hlabels]
  decide

/-- What an entry is to be once it is read: a name, in the form in which hosts are compared. -/
structure IsNormal (p : Pattern) : Prop where
  ne_nil : p.text ≠ []
  trimmed : trim p.text = p.text
  small : lower p.text = p.text
  portless : hasPort p.text = false

def IsTidy (s : Text) : Prop :=
  trimEnd s = s ∧ hasPort s = false

theorem isSmall_of_mem_text (h : ofText? entry = some p) {c : Char} (hc : c ∈ p.text) :
    Text.isSmall c = true := by
  rw [(text_of_ofText? h).1] at hc
  exact isSmall_of_mem_comparable hc

theorem trimStart_text (h : ofText? entry = some p) : trimStart p.text = p.text := by
  rw [(text_of_ofText? h).1]
  exact trimStart_comparable entry

theorem isNormal_iff_isTidy_text (h : ofText? entry = some p) : p.IsNormal ↔ IsTidy p.text := by
  have hstart := trimStart_text h
  constructor
  · intro hp
    refine ⟨?_, hp.portless⟩
    have htrimmed := hp.trimmed
    unfold trim at htrimmed
    rwa [hstart] at htrimmed
  · rintro ⟨hend, hport⟩
    obtain ⟨htext, hne⟩ := text_of_ofText? h
    refine ⟨htext ▸ hne, ?_, Text.lower_eq_self fun c hc => isSmall_of_mem_text h hc, hport⟩
    unfold trim
    rw [hstart, hend]

theorem ofText?_text_iff (h : ofText? entry = some p) :
    ofText? p.text = some p ↔ IsTidy p.text := by
  have hself := comparable_eq_self_iff (fun c hc => isSmall_of_mem_text h hc) (trimStart_text h)
  unfold IsTidy
  rw [← hself]
  constructor
  · intro hagain
    exact (text_of_ofText? hagain).1.symm
  · intro hcomparable
    rw [← h]
    apply ofText?_congr
    rw [hcomparable, (text_of_ofText? h).1]

theorem isNormal_iff_isTidy (h : ofText? entry = some p) :
    p.text ≠ [] ∧ trimStart p.text = p.text ∧ lower p.text = p.text ∧
    (p.IsNormal ↔ IsTidy (written entry)) ∧ (ofText? p.text = some p ↔ p.IsNormal) := by
  obtain ⟨htext, hne⟩ := text_of_ofText? h
  have hform := smallForm_comparable entry
  have htidy : IsTidy p.text ↔ IsTidy (written entry) := by
    unfold IsTidy
    rw [htext, hform.trimEnd_eq_self_iff, hform.hasPort_eq]
  refine ⟨htext ▸ hne, trimStart_text h, ?_, ?_, ?_⟩
  · exact Text.lower_eq_self fun c hc => isSmall_of_mem_text h hc
  · exact (isNormal_iff_isTidy_text h).trans htidy
  · exact (ofText?_text_iff h).trans (isNormal_iff_isTidy_text h).symm

theorem not_isNormal_of_blank_before_port :
    ∃ p, ofText? "foo.com :80".toList = some p ∧ ¬ p.IsNormal ∧ ofText? p.text ≠ some p := by
  have hentry : ofText? "foo.com :80".toList = some (.domain "foo.com ".toList) := by
    decide +kernel
  obtain ⟨-, -, -, hnormal, hagain⟩ := isNormal_iff_isTidy hentry
  have hblank : ¬ IsTidy (written "foo.com :80".toList) := by
    rintro ⟨hend, -⟩
    revert hend
    decide
  rw [← hnormal] at hblank
  exact ⟨_, hentry, hblank, fun h => hblank (hagain.1 h)⟩

end Pattern

end Exclusions

end ForwardProxy
