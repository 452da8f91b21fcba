import ForwardProxy.Proofs.Endpoint

/-!
This module contains the grammar of endpoints. Main statements: `ofText?_eq_some_iff` says which
texts denote an endpoint, and which one, and `toText_inverse` for which endpoints writing and
reading undo each other.
-/

namespace ForwardProxy.Endpoint

variable {s : Text} {e : Endpoint}

/-- Nothing in the host or in the port can be taken for a sign between or around them. A colon in
the host does no harm, since it puts the host in brackets. -/
structure IsWritable (e : Endpoint) : Prop where
  host_brackets : e.host.any isBracket = false
  port_brackets : e.port.any isBracket = false
  port_colon : ':' ∉ e.port

theorem isWritable_iff :
    e.IsWritable ↔
      ('[' ∉ e.host ∧ ']' ∉ e.host) ∧ ':' ∉ e.port ∧ '[' ∉ e.port ∧ ']' ∉ e.port := by
  constructor
  · intro h
    exact ⟨any_isBracket_eq_false_iff.1 h.host_brackets, h.port_colon,
      any_isBracket_eq_false_iff.1 h.port_brackets⟩
  · rintro ⟨hhost, hcolon, hport⟩
    exact ⟨any_isBracket_eq_false_iff.2 hhost, any_isBracket_eq_false_iff.2 hport, hcolon⟩

theorem ofText?_iff_host? :
    ofText? s = some e ↔
      e.IsWritable ∧ ∃ before, s = before ++ ':' :: e.port ∧ host? before = some e.host := by
  constructor
  · intro h
    unfold ofText? at h
    split at h
    · contradiction
    · next before port hcut =>
      obtain ⟨rfl, hcolon⟩ := Text.cutLast?_eq_some_iff.1 hcut
      split at h
      · contradiction
      · next host hhost =>
        split at h
        · contradiction
        · next hbracket =>
          rw [Option.some.injEq] at h
          subst h
          rw [Bool.or_eq_true, not_or, Bool.not_eq_true, Bool.not_eq_true] at hbracket
          exact ⟨⟨hbracket.1, hbracket.2, hcolon⟩, before, rfl, hhost⟩
  · rintro ⟨hwritable, before, rfl, hhost⟩
    rw [ofText?_append_eq_some_iff hwritable.port_brackets hwritable.port_colon]
    exact ⟨rfl, hwritable.host_brackets, hhost⟩

theorem ofText?_iff_isWritable :
    ofText? s = some e ↔
      e.IsWritable ∧
        (s = e.host ++ ':' :: e.port ∧ ':' ∉ e.host ∨
          s = '[' :: (e.host ++ ']' :: ':' :: e.port)) := by
  rw [ofText?_iff_host?]
  apply and_congr_right
  intro hwritable
  simp only [host?_eq_some_iff hwritable.host_brackets]
  constructor
  · rintro ⟨before, rfl, ⟨rfl, hcolon⟩ | rfl⟩
    · exact .inl ⟨rfl, hcolon⟩
    · exact .inr (by simp)
  · rintro (⟨rfl, hcolon⟩ | rfl)
    · exact ⟨e.host, rfl, .inl ⟨rfl, hcolon⟩⟩
    · exact ⟨'[' :: (e.host ++ [']']), by simp, .inr rfl⟩

theorem ofText?_eq_some_iff :
    ofText? s = some e ↔
      (':' ∉ e.port ∧ '[' ∉ e.port ∧ ']' ∉ e.port) ∧
        (s = e.host ++ ':' :: e.port ∧ (':' ∉ e.host ∧ '[' ∉ e.host ∧ ']' ∉ e.host) ∨
          s = '[' :: (e.host ++ ']' :: ':' :: e.port) ∧ ('[' ∉ e.host ∧ ']' ∉ e.host)) := by
  rw [ofText?_iff_isWritable, isWritable_iff]
  constructor
  · rintro ⟨⟨hhost, hport⟩, ⟨rfl, hcolon⟩ | rfl⟩
    · exact ⟨hport, .inl ⟨rfl, hcolon, hhost⟩⟩
    · exact ⟨hport, .inr ⟨rfl, hhost⟩⟩
  · rintro ⟨hport, ⟨rfl, hcolon, hhost⟩ | ⟨rfl, hhost⟩⟩
    · exact ⟨⟨hhost, hport⟩, .inl ⟨rfl, hcolon⟩⟩
    · exact ⟨⟨hhost, hport⟩, .inr rfl⟩

theorem ofText?_toText_iff_isWritable : ofText? e.toText = some e ↔ e.IsWritable := by
  constructor
  · intro h
    exact (ofText?_iff_isWritable.1 h).1
  · intro h
    exact ofText?_toText h.host_brackets h.port_brackets h.port_colon

theorem toText_of_ofText? (h : ofText? s = some e) :
    e.toText = s ∨
      s = '[' :: (e.host ++ ']' :: ':' :: e.port) ∧ ':' ∉ e.host ∧
        e.toText = e.host ++ ':' :: e.port := by
  obtain ⟨-, ⟨rfl, hcolon⟩ | rfl⟩ := ofText?_iff_isWritable.1 h
  · exact .inl (toText_of_not_mem hcolon)
  · by_cases hcolon : ':' ∈ e.host
    · left
      unfold toText
      rw [if_pos hcolon, List.cons_append]
    · exact .inr ⟨rfl, hcolon, toText_of_not_mem hcolon⟩

theorem toText_inverse :
    (∀ e, ofText? e.toText = some e ↔
      ('[' ∉ e.host ∧ ']' ∉ e.host) ∧ ':' ∉ e.port ∧ '[' ∉ e.port ∧ ']' ∉ e.port) ∧
    (∀ s e, ofText? s = some e →
      (e.toText = s ∨
        s = '[' :: (e.host ++ ']' :: ':' :: e.port) ∧ ':' ∉ e.host ∧
          e.toText = e.host ++ ':' :: e.port) ∧
      ofText? e.toText = some e) := by
  constructor
  · intro e
    rw [ofText?_toText_iff_isWritable, isWritable_iff]
  · intro s e h
    refine ⟨toText_of_ofText? h, ?_⟩
    rw [ofText?_toText_iff_isWritable]
    exact (ofText?_iff_isWritable.1 h).1

theorem toText_inverse_of_brackets :
    (ofText? "[foo.com]:80".toList = some ⟨"foo.com".toList, "80".toList⟩ ∧
      ofText? (toText ⟨"foo.com".toList, "80".toList⟩) = some ⟨"foo.com".toList, "80".toList⟩ ∧
      toText ⟨"foo.com".toList, "80".toList⟩ ≠ "[foo.com]:80".toList) ∧
    (ofText? "[::1]:".toList = some ⟨"::1".toList, []⟩ ∧
      toText ⟨"::1".toList, []⟩ = "[::1]:".toList) := by
  constructor
  · have h : ofText? "[foo.com]:80".toList = some ⟨"foo.com".toList, "80".toList⟩ := by decide
    exact ⟨h, (toText_inverse.2 _ _ h).2, by decide⟩
  · have h : ofText? "[::1]:".toList = some ⟨"::1".toList, []⟩ := by decide
    refine ⟨h, ?_⟩
    obtain ⟨hsame | ⟨-, hcolon, -⟩, -⟩ := toText_inverse.2 _ _ h
    · exact hsame
    · exact absurd (by decide) hcolon

end ForwardProxy.Endpoint
