import ForwardProxy.Proofs.Endpoint.Offset
import ForwardProxy.Proofs.Exclusions.List

/-!
This module contains the exclusion test by places: every part of an entry or of an address is cut
out between places that were searched for before. Main statement: `usesProxy_by_offset` says that no
cut falls outside of a text or inside of a character, and that the test comes to the same.
-/

namespace ForwardProxy.Exclusions

open Text (size slice BadSlice)

namespace Offset

def pattern? (entry : Text) : Except BadSlice (Option Pattern) := do
  let name ← Endpoint.Offset.stripPort (Text.lower (Text.trim entry))
  if name.isEmpty then return none
  else if name.head? = some '.' then return some (.subdomain name)
  else return some (.domain name)

/-- A host that ends in the whole suffix needs no cut. Otherwise the first byte of the suffix, which
has to be its dot, is left out. -/
def covers (host : Text) (p : Pattern) : Except BadSlice Bool :=
  match p with
  | .domain _ => return p.covers host
  | .subdomain suffix =>
    if suffix.isSuffixOf host then return true
    else do
      let name ← slice suffix 1 (size suffix)
      return host == name

def patterns (list : Text) : Except BadSlice (List Pattern) :=
  if list = ['*'] then return []
  else do
    let entries ← (list.splitOn ',').mapM pattern?
    return entries.reduceOption

def usesProxy (list address : Text) : Except BadSlice Bool := do
  let patterns ← patterns list
  if address.isEmpty then return true
  else
    match ← Endpoint.Offset.ofText? address with
    | none => return false
    | some endpoint =>
      if isLoopback endpoint.host then return false
      else if list = ['*'] then return false
      else do
        let host ← Endpoint.Offset.stripPort (Text.lower (Text.trim address))
        let found ← patterns.findM? (covers host)
        return found.isNone

theorem pattern?_eq (entry : Text) : pattern? entry = .ok (Pattern.ofText? entry) := by
  unfold pattern? Pattern.ofText? comparable
  rw [Endpoint.Offset.stripPort_eq]
  dsimp only [bind, Except.bind]
  cases Endpoint.stripPort (Text.lower (Text.trim entry)) with
  | nil => rfl
  | cons c name =>
    by_cases hc : c = '.'
    · subst hc
      rfl
    · simp [hc, pure, Except.pure]

theorem eq_cons_of_subdomain {entry suffix : Text}
    (h : Pattern.ofText? entry = some (.subdomain suffix)) : ∃ name, suffix = '.' :: name := by
  unfold Pattern.ofText? at h
  split at h
  · contradiction
  · next name _ =>
    rw [Option.some.injEq, Pattern.subdomain.injEq] at h
    exact ⟨name, h.symm⟩
  · simp at h

theorem slice_of_dot (name : Text) : slice ('.' :: name) 1 (size ('.' :: name)) = .ok name :=
  Text.slice_end ['.'] name

theorem covers_eq {entry : Text} {p : Pattern} (h : Pattern.ofText? entry = some p) (host : Text) :
    covers host p = .ok (p.covers host) := by
  cases p with
  | domain name => rfl
  | subdomain suffix =>
    obtain ⟨name, rfl⟩ := eq_cons_of_subdomain h
    unfold covers Pattern.covers
    dsimp only
    rw [slice_of_dot]
    cases ('.' :: name).isSuffixOf host with
    | true => rfl
    | false => rfl

theorem findM?_eq {ps : List Pattern} {f : Pattern → Except BadSlice Bool} {g : Pattern → Bool}
    (h : ∀ p ∈ ps, f p = .ok (g p)) : ps.findM? f = .ok (ps.find? g) := by
  induction ps with
  | nil => rfl
  | cons p ps ih =>
    rw [List.forall_mem_cons] at h
    rw [List.findM?, h.1, List.find?]
    dsimp only [bind, Except.bind]
    cases g p with
    | true => rfl
    | false => exact ih h.2

theorem patterns_eq (list : Text) : patterns list = .ok (ofText list).patterns := by
  have hread : pattern? = fun entry => pure (Pattern.ofText? entry) := funext pattern?_eq
  unfold patterns ofText
  split
  · rfl
  · rw [hread, List.mapM_pure, pure_bind, List.reduceOption, List.filterMap_map]
    rfl

theorem findM?_covers (list host : Text) :
    (ofText list).patterns.findM? (covers host) =
      .ok ((ofText list).patterns.find? (·.covers host)) := by
  apply findM?_eq
  intro p hp
  unfold ofText at hp
  split at hp
  · contradiction
  · obtain ⟨entry, -, hread⟩ := List.mem_filterMap.1 hp
    exact covers_eq hread host

theorem usesProxy_eq_ok (list address : Text) :
    usesProxy list address = .ok ((ofText list).usesProxy address) := by
  unfold usesProxy
  rw [patterns_eq, Endpoint.Offset.ofText?_eq, Endpoint.Offset.stripPort_eq]
  dsimp only [bind, Except.bind]
  rw [findM?_covers]
  split
  · next hnil =>
    rw [List.isEmpty_iff.1 hnil]
    rfl
  · next hne =>
    cases hread : Endpoint.ofText? address with
    | none =>
      rw [usesProxy_of_malformed (by simpa using hne) hread]
      rfl
    | some e =>
      rw [Exclusions.usesProxy_eq hread, ← List.isSome_find?]
      dsimp only
      cases isLoopback e.host with
      | true => rfl
      | false =>
        by_cases hwildcard : list = ['*']
        · subst hwildcard
          rfl
        · rw [ofText_of_ne hwildcard]
          simp [hwildcard, isWildcard, comparable, pure, Except.pure]

end Offset

theorem usesProxy_by_offset (list address : Text) :
    Offset.usesProxy list address = .ok ((ofText list).usesProxy address) ∧
    (∀ s, Endpoint.Offset.ofText? s = .ok (Endpoint.ofText? s)) ∧
    (∀ s, Endpoint.Offset.stripPort s = .ok (Endpoint.stripPort s)) ∧
    (∀ entry suffix, Pattern.ofText? entry = some (.subdomain suffix) →
      ∃ name, suffix = '.' :: name ∧ slice suffix 1 (size suffix) = .ok name) := by
  refine ⟨Offset.usesProxy_eq_ok list address, Endpoint.Offset.ofText?_eq,
    Endpoint.Offset.stripPort_eq, ?_⟩
  intro entry suffix h
  obtain ⟨name, rfl⟩ := Offset.eq_cons_of_subdomain h
  exact ⟨name, rfl, Offset.slice_of_dot name⟩

theorem usesProxy_by_offset_of_accents :
    Offset.usesProxy "bar,.Éa:1".toList "éa:80".toList = .ok false ∧
      slice ('.' :: "éa".toList) 1 (size ('.' :: "éa".toList)) = .ok "éa".toList := by
  obtain ⟨hrun, -, -, hslice⟩ := usesProxy_by_offset "bar,.Éa:1".toList "éa:80".toList
  constructor
  · have hexcluded : (ofText "bar,.Éa:1".toList).usesProxy "éa:80".toList = false := by
      decide +kernel
    rw [hrun, hexcluded]
  · have hread : Pattern.ofText? ".Éa:1".toList = some (.subdomain ('.' :: "éa".toList)) := by
      decide +kernel
    obtain ⟨name, hname, hcut⟩ := hslice _ _ hread
    rw [hcut, (List.cons.inj hname).2]

end ForwardProxy.Exclusions
