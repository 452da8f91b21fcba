import ForwardProxy.Proofs.Exclusions.Pattern
import ForwardProxy.Proofs.Resolution.Host
import ForwardProxy.Proofs.Resolution.Loopback

/-!
This module contains lists of one entry for requests to an address. Main statement:
`Config.resolve_of_entry` says that an entry is compared with the text of an address, and excludes it
if it is that text or what follows one of its dots.
-/

namespace ForwardProxy

open Exclusions (Excludes comparable dropDot labels written)

namespace Ip

def hostText : Ip → Text
  | .v4 x => x.toText
  | .v6 x => '[' :: (x.toMixedText ++ [']'])

def denoted? (s : Text) : Option Ip :=
  match Endpoint.unbracket? s with
  | some t => (V6.ofText? t).map .v6
  | none => ofText? s

theorem isTextChar_of_mem_hostText {x : Ip} {c : Char} (hc : c ∈ x.hostText) :
    isTextChar c = true ∨ c = '[' ∨ c = ']' := by
  cases x with
  | v4 x => exact .inl (V4.isTextChar_of_mem_toText hc)
  | v6 x =>
    simp only [hostText, List.mem_cons, List.mem_append, List.not_mem_nil, or_false] at hc
    rcases hc with hopen | htext | hclose
    · exact .inr (.inl hopen)
    · exact .inl (V6.isTextChar_of_mem_toMixedText htext)
    · exact .inr (.inr hclose)

theorem plain_of_mem_hostText {x : Ip} {c : Char} (hc : c ∈ x.hostText) :
    c.toNat < 0x80 ∧ Text.isBlank c = false ∧ c.isUpper = false := by
  rcases isTextChar_of_mem_hostText hc with htext | rfl | rfl
  · have hparts := Bool.and_eq_true_iff.1 htext
    have hascii := ascii_of_isAddressChar hparts.1
    refine ⟨hascii, ?_⟩
    apply Text.forall_ascii (p := fun c => isTextChar c = true →
      Text.isBlank c = false ∧ c.isUpper = false) _ hascii htext
    decide
  · decide
  · decide

theorem lower_trimStart_hostText (x : Ip) : Text.lower (Text.trimStart x.hostText) = x.hostText := by
  have hstart : Text.trimStart x.hostText = x.hostText := by
    apply Text.dropWhile_eq_self
    intro c hc
    exact (plain_of_mem_hostText hc).2.1
  rw [hstart, Text.lower_of_ascii, Text.map_toLower_eq_self]
  · intro c hc
    exact (plain_of_mem_hostText hc).2.2
  · intro c hc
    exact (plain_of_mem_hostText hc).1

end Ip

theorem Url.hostText_ofIp {u : Url} {ip : Ip} (hhost : u.host? = some (Host.ofIp ip)) :
    u.endpoint.hostText = ip.hostText := by
  unfold Endpoint.hostText
  rw [endpoint_host_ofIp hhost]
  cases ip with
  | v4 x => exact if_neg (Ip.V4.not_mem_toText (by decide) (by decide))
  | v6 x => exact if_pos (Ip.V6.colon_mem_toMixedText x)

namespace Config

variable {c : Config} {u : Url} {ip : Ip}

theorem resolve_of_entry (hhost : u.host? = some (Url.Host.ofIp ip)) (hlocal : ¬ ip.IsLocal)
    (hcandidate : c.candidate u.scheme ≠ []) (hcomma : ',' ∉ c.noProxy)
    (hwildcard : c.noProxy ≠ ['*']) :
    let entry := comparable c.noProxy
    (c.resolve u = .bypassed ↔ entry ≠ [] ∧
      (ip.hostText = dropDot entry ∨ ∃ head, ip.hostText = head ++ '.' :: dropDot entry)) ∧
    (c.resolve u ≠ .bypassed → c.resolve u = parseProxy (c.candidate u.scheme)) := by
  intro entry
  have hallows : c.allowsProxy u = false ↔ entry ≠ [] ∧
      (ip.hostText = dropDot entry ∨ ∃ head, ip.hostText = head ++ '.' :: dropDot entry) := by
    rw [allowsProxy_ofIp_eq_false_iff hhost, Url.comparable_canonicalAddress]
    rw [Url.hostText_ofIp hhost, ip.lower_trimStart_hostText]
    rw [Exclusions.excludes_entry_iff hcomma]
    unfold labels
    rw [Text.splitOn_suffix_iff]
    simp only [hlocal, hwildcard, false_or]
    rfl
  constructor
  · rw [resolve_eq_bypassed_iff hcandidate, hallows]
  · exact resolve_of_ne_bypassed hcandidate

theorem resolve_of_entry_with_port :
    let ip : Ip := .v6 ⟨[0x2001, 0xDB8, 0, 0, 0, 0, 0, 1], rfl⟩
    let u : Url := ⟨"https".toList, some ⟨[], [], some (Url.Host.ofIp ip), none⟩,
      .segments [[]], none, none⟩
    ¬ ip.IsLocal ∧ resolve ⟨"http://proxy:3128".toList, [], " [2001:DB8::1]:80 ".toList⟩ u =
      .bypassed := by
  intro ip u
  have hhost : u.host? = some (Url.Host.ofIp ip) := rfl
  have hlocal : ¬ ip.IsLocal := by decide
  refine ⟨hlocal, ?_⟩
  apply (resolve_of_entry hhost hlocal (by decide) (by decide) (by decide)).1.2
  constructor
  · decide +kernel
  · left
    decide +kernel

theorem resolve_of_parts_and_other_spellings :
    (let ip : Ip := .v4 ⟨10, 0, 0, 1⟩
      let u : Url := ⟨"http".toList, some ⟨[], [], some (Url.Host.ofIp ip), none⟩,
        .segments [[]], none, none⟩
      ¬ ip.IsLocal ∧
        resolve ⟨"http://proxy:3128".toList, [], "0.0.1".toList⟩ u = .bypassed ∧
        Ip.denoted? (written "0.0.1".toList) ≠ some ip) ∧
    (let ip : Ip := .v6 ⟨[0x2001, 0xDB8, 0, 0, 0, 0, 0, 1], rfl⟩
      let u : Url := ⟨"http".toList, some ⟨[], [], some (Url.Host.ofIp ip), none⟩,
        .segments [[]], none, none⟩
      ¬ ip.IsLocal ∧
        resolve ⟨"http://proxy:3128".toList, [], "[2001:DB8:0::1]".toList⟩ u ≠ .bypassed ∧
        Ip.denoted? (written "[2001:DB8:0::1]".toList) = some ip) := by
  decide +kernel

end Config

end ForwardProxy
