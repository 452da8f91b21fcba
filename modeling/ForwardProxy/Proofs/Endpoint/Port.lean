import ForwardProxy.Proofs.Endpoint.Offset

/-!
This module contains the cutting of ports. Main statement: `stripPort_removes_port` says which texts
have a port, that exactly the port is cut from them, and that nothing is cut from any other text.
-/

namespace ForwardProxy.Endpoint

variable {s t : Text}

theorem stripPort_eq_iff :
    stripPort s = t ↔
      (∃ port, s = t ++ ':' :: port ∧ ':' ∉ port ∧ ']' ∉ port) ∨ hasPort s = false ∧ s = t := by
  constructor
  · rintro rfl
    cases h : hasPort s with
    | false => exact .inr ⟨rfl, (stripPort_of_not_hasPort h).symm⟩
    | true =>
      obtain ⟨before, port, rfl, hcolon, hbracket⟩ := hasPort_iff.1 h
      rw [stripPort_append hcolon hbracket]
      exact .inl ⟨port, rfl, hcolon, hbracket⟩
  · rintro (⟨port, rfl, hcolon, hbracket⟩ | ⟨h, rfl⟩)
    · exact stripPort_append hcolon hbracket
    · exact stripPort_of_not_hasPort h

/-- The last part says that the same comes out if the last colon and the last closing bracket are
compared by their places, and the text is cut there. -/
theorem stripPort_removes_port (s : Text) :
    (hasPort s = true ↔ ∃ a b, s = a ++ ':' :: b ∧ ':' ∉ b ∧ ']' ∉ b) ∧
    (∀ t, stripPort s = t ↔
      (∃ b, s = t ++ ':' :: b ∧ ':' ∉ b ∧ ']' ∉ b) ∨ hasPort s = false ∧ s = t) ∧
    (hasPort s = false → ∀ port, ':' ∉ port → ']' ∉ port →
      stripPort (s ++ ':' :: port) = s ∧ stripPort s = s) ∧
    (Offset.hasPort s = hasPort s ∧ Offset.stripPort s = .ok (stripPort s)) := by
  refine ⟨hasPort_iff, fun t => stripPort_eq_iff, ?_, Offset.hasPort_eq s, Offset.stripPort_eq s⟩
  intro h port hcolon hbracket
  exact ⟨stripPort_append hcolon hbracket, stripPort_of_not_hasPort h⟩

theorem stripPort_of_address_in_brackets :
    hasPort "[::1]".toList = false ∧ stripPort "[::1]:80".toList = "[::1]".toList ∧
      stripPort "[::1]".toList = "[::1]".toList := by
  have h : hasPort "[::1]".toList = false := by decide
  obtain ⟨-, -, hport, -⟩ := stripPort_removes_port "[::1]".toList
  exact ⟨h, hport h "80".toList (by decide) (by decide)⟩

end ForwardProxy.Endpoint
