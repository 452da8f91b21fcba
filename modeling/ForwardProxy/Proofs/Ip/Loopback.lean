import ForwardProxy.Proofs.Ip

/-!
This module contains the addresses of this machine. Main statement: `Ip.isLoopback_iff_isLocal` says
which they are.
-/

namespace ForwardProxy.Ip

def V4.mapped (x : V4) : V6 :=
  ⟨List.replicate 5 0 ++ 0xFFFF :: x.pieces, rfl⟩

/-- The addresses of this machine: `127.0.0.0/8`, also mapped into version 6, and `::1`. -/
inductive IsLocal : Ip → Prop
  | v4 (b c d : UInt8) : IsLocal (.v4 ⟨127, b, c, d⟩)
  | v6 : IsLocal (.v6 ⟨[0, 0, 0, 0, 0, 0, 0, 1], rfl⟩)
  | mapped (b c d : UInt8) : IsLocal (.v6 (V4.mapped ⟨127, b, c, d⟩))

theorem V4.mapped?_mapped (x : V4) : x.mapped.mapped? = some x := by
  have hhigh (a b : UInt8) : ((a.toUInt16 * 256 + b.toUInt16) / 256).toUInt8 = a := by
    apply UInt8.toNat_inj.1
    have := a.toNat_lt
    have := b.toNat_lt
    simp
    omega
  have hlow (a b : UInt8) : (a.toUInt16 * 256 + b.toUInt16).toUInt8 = b := by
    apply UInt8.toNat_inj.1
    simp
  simp only [mapped, V6.mapped?, pieces, List.replicate, List.cons_append, List.nil_append]
  rw [hhigh, hlow, hhigh, hlow]

theorem V6.eq_mapped {x : V6} {v4 : V4} (h : x.mapped? = some v4) : x = v4.mapped := by
  have hpieces := V6.pieces_of_mapped? h
  cases x with
  | mk pieces length =>
    simp only at hpieces
    subst hpieces
    rfl

theorem V4.isLocal_of_isLoopback {x : V4} (h : x.isLoopback = true) : IsLocal (.v4 x) := by
  rw [V4.isLoopback, beq_iff_eq] at h
  cases x with
  | mk a b c d =>
    simp only at h
    rw [h]
    exact .v4 b c d

theorem V6.isLocal_of_isLoopback {x : V6} (h : x.isLoopback = true) : IsLocal (.v6 x) := by
  rw [V6.isLoopback, Bool.or_eq_true, beq_iff_eq, Option.any_eq_true] at h
  cases h with
  | inl h =>
    cases x with
    | mk pieces length =>
      simp only at h
      subst h
      exact .v6
  | inr h =>
    obtain ⟨v4, hmapped, hv4⟩ := h
    rw [V6.eq_mapped hmapped]
    rw [V4.isLoopback, beq_iff_eq] at hv4
    cases v4 with
    | mk a b c d =>
      simp only at hv4
      rw [hv4]
      exact .mapped b c d

theorem isLoopback_iff_isLocal {x : Ip} : x.isLoopback = true ↔ x.IsLocal := by
  constructor
  · intro h
    cases x with
    | v4 x => exact V4.isLocal_of_isLoopback h
    | v6 x => exact V6.isLocal_of_isLoopback h
  · intro h
    cases h with
    | v4 b c d => rfl
    | v6 => rfl
    | mapped b c d => simp [isLoopback, V6.isLoopback, V4.mapped?_mapped, V4.isLoopback]

instance (x : Ip) : Decidable x.IsLocal :=
  decidable_of_iff (x.isLoopback = true) isLoopback_iff_isLocal

end ForwardProxy.Ip
