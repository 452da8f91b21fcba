import ForwardProxy.Proofs.Exclusions.Pattern

/-!
This module contains the theory of lists as what their entries say together. Main statement:
`usesProxy_join` says that a list of two lists lets through what both let through, and that only the
set of the entries counts.
-/

namespace ForwardProxy.Exclusions

variable {list address : Text} {p : Pattern} {ps qs : List Pattern}

theorem ofText_of_ne (h : list ≠ ['*']) :
    ofText list = .listed ((list.splitOn ',').filterMap Pattern.ofText?) := by
  unfold ofText
  rw [if_neg h]

theorem mem_patterns_iff (h : list ≠ ['*']) :
    p ∈ (ofText list).patterns ↔ ∃ entry ∈ list.splitOn ',', Pattern.ofText? entry = some p := by
  rw [ofText_of_ne h]
  exact List.mem_filterMap

theorem usesProxy_listed_iff :
    (listed ps).usesProxy address = true ↔ (listed []).usesProxy address = true ∧
      (address ≠ [] → ∀ p ∈ ps, p.covers (comparable address) = false) := by
  by_cases hne : address = []
  · subst hne
    simp [usesProxy, verdict]
  · cases hread : Endpoint.ofText? address with
    | none => simp [usesProxy_of_malformed hne hread]
    | some e =>
      rw [usesProxy_eq hread, usesProxy_eq hread]
      simp [isWildcard, patterns, hne]

theorem usesProxy_listed_append :
    (listed (ps ++ qs)).usesProxy address =
      ((listed ps).usesProxy address && (listed qs).usesProxy address) := by
  rw [Bool.eq_iff_iff, Bool.and_eq_true]
  rw [usesProxy_listed_iff, @usesProxy_listed_iff _ ps, @usesProxy_listed_iff _ qs]
  simp only [List.forall_mem_append]
  tauto

theorem usesProxy_listed_of_subset (hsubset : ps ⊆ qs) (h : (listed qs).usesProxy address = true) :
    (listed ps).usesProxy address = true := by
  rw [usesProxy_listed_iff] at h ⊢
  refine ⟨h.1, ?_⟩
  intro hne p hp
  exact h.2 hne p (hsubset hp)

variable {a b : Text}

theorem usesProxy_of_entries (ha : a ≠ ['*']) (hb : b ≠ ['*'])
    (hentries : ∀ entry ∈ a.splitOn ',', IsMalformed entry ∨ entry ∈ b.splitOn ',')
    (h : (ofText b).usesProxy address = true) : (ofText a).usesProxy address = true := by
  have hsubset : (ofText a).patterns ⊆ (ofText b).patterns := by
    intro p hp
    obtain ⟨entry, hmem, hread⟩ := (mem_patterns_iff ha).1 hp
    cases hentries entry hmem with
    | inl hmalformed =>
      rw [Pattern.ofText?_eq_none_iff.2 hmalformed] at hread
      contradiction
    | inr hmem => exact (mem_patterns_iff hb).2 ⟨entry, hmem, hread⟩
  rw [ofText_of_ne ha, ofText_of_ne hb] at hsubset
  rw [ofText_of_ne ha]
  rw [ofText_of_ne hb] at h
  exact usesProxy_listed_of_subset hsubset h

theorem ofText_join (ha : a ≠ ['*']) (hb : b ≠ ['*']) :
    ofText (a ++ ',' :: b) = .listed ((ofText a).patterns ++ (ofText b).patterns) := by
  have hjoined : a ++ ',' :: b ≠ ['*'] := by
    intro h
    have hmem : ',' ∈ ['*'] := h ▸ List.mem_append_right a List.mem_cons_self
    contradiction
  rw [ofText_of_ne hjoined, ofText_of_ne ha, ofText_of_ne hb]
  rw [List.splitOn_append_cons_self, List.filterMap_append]
  rfl

theorem usesProxy_join (ha : a ≠ ['*']) (hb : b ≠ ['*']) :
    (ofText (a ++ ',' :: b)).patterns = (ofText a).patterns ++ (ofText b).patterns ∧
    (∀ address, (ofText (a ++ ',' :: b)).usesProxy address =
      ((ofText a).usesProxy address && (ofText b).usesProxy address)) ∧
    ((∀ entry ∈ a.splitOn ',', IsMalformed entry ∨ entry ∈ b.splitOn ',') →
      ∀ address, (ofText b).usesProxy address = true → (ofText a).usesProxy address = true) ∧
    ((∀ entry, ¬ IsMalformed entry → (entry ∈ a.splitOn ',' ↔ entry ∈ b.splitOn ',')) →
      ∀ address, (ofText a).usesProxy address = (ofText b).usesProxy address) := by
  refine ⟨by rw [ofText_join ha hb]; rfl, ?_, ?_, ?_⟩
  · intro address
    rw [ofText_join ha hb, usesProxy_listed_append, ofText_of_ne ha, ofText_of_ne hb]
    rfl
  · intro hentries address
    exact usesProxy_of_entries ha hb hentries
  · intro hentries address
    rw [Bool.eq_iff_iff]
    constructor
    · apply usesProxy_of_entries hb ha
      intro entry hmem
      by_cases hmalformed : IsMalformed entry
      · exact .inl hmalformed
      · exact .inr ((hentries entry hmalformed).2 hmem)
    · apply usesProxy_of_entries ha hb
      intro entry hmem
      by_cases hmalformed : IsMalformed entry
      · exact .inl hmalformed
      · exact .inr ((hentries entry hmalformed).1 hmem)

theorem usesProxy_join_foo_bar :
    (ofText "foo.com,:1,.bar.org".toList).usesProxy "www.bar.org:80".toList = false ∧
    (ofText ".bar.org,foo.com,foo.com".toList).usesProxy "www.bar.org:80".toList = false := by
  obtain ⟨-, hboth, -, -⟩ := usesProxy_join
    (a := "foo.com,:1".toList) (b := ".bar.org".toList) (by decide) (by decide)
  obtain ⟨-, -, -, hsame⟩ := usesProxy_join
    (a := ".bar.org,foo.com,foo.com".toList) (b := "foo.com,:1,.bar.org".toList)
    (by decide) (by decide)
  have hjoined : (ofText "foo.com,:1,.bar.org".toList).usesProxy "www.bar.org:80".toList = false := by
    have hbar : (ofText ".bar.org".toList).usesProxy "www.bar.org:80".toList = false := by
      decide +kernel
    have h := hboth "www.bar.org:80".toList
    rw [hbar, Bool.and_false] at h
    exact h
  refine ⟨hjoined, ?_⟩
  rw [hsame _ "www.bar.org:80".toList, hjoined]
  intro entry hentry
  have hport : IsMalformed ":1".toList := .inr ⟨['1'], by decide⟩
  have hne : entry ≠ ":1".toList := fun h => hentry (h ▸ hport)
  have hleft : ".bar.org,foo.com,foo.com".toList.splitOn ',' =
    [".bar.org".toList, "foo.com".toList, "foo.com".toList] := by decide
  have hright : "foo.com,:1,.bar.org".toList.splitOn ',' =
    ["foo.com".toList, ":1".toList, ".bar.org".toList] := by decide
  rw [hleft, hright]
  simp only [List.mem_cons, List.not_mem_nil, or_self, hne, false_or, or_comm]

end ForwardProxy.Exclusions
