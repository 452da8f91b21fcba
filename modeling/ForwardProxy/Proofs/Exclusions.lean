import ForwardProxy.Exclusions
import ForwardProxy.Proofs.Text.Digits
import ForwardProxy.Proofs.Text.LowerCase

/-!
This module contains the theory of exclusions. Main statements: `Pattern.any_covers_ofText?_iff`
says that an entry covers the names whose labels end in the labels of the entry, and
`usesProxy_eq_false_iff` when a request to an endpoint does not go through a proxy.
-/

namespace ForwardProxy.Exclusions

open Text (isBlank isDecimal)

def labels (name : Text) : List Text :=
  name.splitOn '.'

def dropDot : Text → Text
  | '.' :: rest => rest
  | s => s

theorem labels_dropDot (s : Text) : labels (dropDot s) <:+ labels s := by
  unfold dropDot
  split
  · next rest => exact Text.splitOn_suffix_iff.2 (.inr ⟨[], rfl⟩)
  · exact List.suffix_refl _

theorem eq_dot_or_mem_dropDot {s : Text} {c : Char} (hc : c ∈ s) : c = '.' ∨ c ∈ dropDot s := by
  unfold dropDot
  split
  · next rest => exact List.mem_cons.1 hc
  · exact .inr hc

theorem mem_of_labels_suffix {s t : Text} {c : Char} (h : labels s <:+ labels t) (hc : c ∈ s) :
    c ∈ t := by
  rcases Text.splitOn_suffix_iff.1 h with rfl | ⟨head, rfl⟩
  · exact hc
  · exact List.mem_append_right _ (List.mem_cons_of_mem _ hc)

/-- The list is an asterisk, or the labels of one of its entries end the labels of the name. -/
def Excludes (list name : Text) : Prop :=
  list = ['*'] ∨ ∃ entry ∈ list.splitOn ',',
    comparable entry ≠ [] ∧ labels (dropDot (comparable entry)) <:+ labels name

namespace Pattern

theorem covers_domain_iff {name host : Text} :
    (Pattern.domain name).covers host = true ↔ labels name <:+ labels host := by
  unfold labels
  rw [Text.splitOn_suffix_iff]
  simp only [covers, Bool.or_eq_true, beq_iff_eq, Option.any_eq_true, decide_eq_true_eq,
    Text.dropEnd?_eq_some_iff, List.getLast?_eq_some_iff]
  constructor
  · rintro (h | ⟨_, h, head, rfl⟩)
    · exact .inl h
    · exact .inr ⟨head, by simp [h]⟩
  · rintro (h | ⟨head, h⟩)
    · exact .inl h
    · exact .inr ⟨head ++ ['.'], by simp [h], head, rfl⟩

theorem covers_subdomain_iff {name host : Text} :
    (Pattern.subdomain ('.' :: name)).covers host = true ↔ labels name <:+ labels host := by
  unfold labels
  rw [Text.splitOn_suffix_iff]
  simp only [covers, Bool.or_eq_true, beq_iff_eq, List.isSuffixOf_iff_suffix, List.tail_cons]
  constructor
  · rintro (⟨head, h⟩ | h)
    · exact .inr ⟨head, h.symm⟩
    · exact .inl h
  · rintro (h | ⟨head, h⟩)
    · exact .inr h
    · exact .inl ⟨head, h.symm⟩

theorem any_covers_ofText?_iff {entry host : Text} :
    (ofText? entry).any (·.covers host) = true ↔
      comparable entry ≠ [] ∧ labels (dropDot (comparable entry)) <:+ labels host := by
  unfold ofText?
  split
  · next h => simp [h]
  · next rest h =>
    rw [h, Option.any_some, covers_subdomain_iff]
    simp [dropDot]
  · next c rest hdot h =>
    rw [h, Option.any_some, covers_domain_iff]
    have hdrop : dropDot (c :: rest) = c :: rest := by
      unfold dropDot
      split
      · next heq =>
        rw [List.cons.injEq] at heq
        exact absurd heq.1 hdot
      · rfl
    simp [hdrop]

end Pattern

theorem usesProxy_eq {x : Exclusions} {address : Text} {e : Endpoint}
    (h : Endpoint.ofText? address = some e) :
    x.usesProxy address = (!isLoopback e.host && !x.isWildcard &&
      !x.patterns.any (·.covers (comparable address))) := by
  have hne : address.isEmpty = false := by
    cases address with
    | nil => contradiction
    | cons c address => rfl
  unfold usesProxy verdict
  rw [hne, h]
  simp only [Bool.false_eq_true, if_false]
  cases isLoopback e.host with
  | true => rfl
  | false =>
    cases x with
    | everything => rfl
    | listed list =>
      rw [patterns, isWildcard, ← List.isSome_find?]
      simp only [Bool.false_eq_true, if_false]
      cases list.find? (·.covers (comparable address)) with
      | none => rfl
      | some pattern => rfl

theorem usesProxy_of_malformed {x : Exclusions} {address : Text} (hne : address ≠ [])
    (h : Endpoint.ofText? address = none) : x.usesProxy address = false := by
  unfold usesProxy verdict
  rw [if_neg (by simpa using hne), h]
  rfl

theorem usesProxy_congr {x : Exclusions} {a b : Text} (ha : a ≠ []) (hb : b ≠ [])
    (hhost : (Endpoint.ofText? a).map Endpoint.host = (Endpoint.ofText? b).map Endpoint.host)
    (hcomparable : comparable a = comparable b) : x.usesProxy a = x.usesProxy b := by
  cases hreadA : Endpoint.ofText? a with
  | none =>
    rw [hreadA, Option.map_none, eq_comm, Option.map_eq_none_iff] at hhost
    rw [usesProxy_of_malformed ha hreadA, usesProxy_of_malformed hb hhost]
  | some e =>
    rw [hreadA, Option.map_some, eq_comm, Option.map_eq_some_iff] at hhost
    obtain ⟨f, hreadB, hhost⟩ := hhost
    rw [usesProxy_eq hreadA, usesProxy_eq hreadB, hhost, hcomparable]

theorem isWildcard_or_any_covers_iff {list name : Text} :
    ((ofText list).isWildcard || (ofText list).patterns.any (·.covers name)) = true ↔
      Excludes list name := by
  unfold ofText Excludes
  split
  · next h => simp [h, isWildcard]
  · next h =>
    simp only [isWildcard, patterns, Bool.false_or, h, false_or, List.any_eq_true,
      List.mem_filterMap, ← Pattern.any_covers_ofText?_iff, Option.any_eq_true]
    constructor
    · rintro ⟨pattern, ⟨entry, hmem, hentry⟩, hcovers⟩
      exact ⟨entry, hmem, pattern, hentry, hcovers⟩
    · rintro ⟨entry, hmem, pattern, hentry, hcovers⟩
      exact ⟨pattern, ⟨entry, hmem, hentry⟩, hcovers⟩

theorem excludes_entry_iff {entry name : Text} (h : ',' ∉ entry) :
    Excludes entry name ↔ entry = ['*'] ∨
      comparable entry ≠ [] ∧ labels (dropDot (comparable entry)) <:+ labels name := by
  unfold Excludes
  rw [List.splitOn_eq_singleton h]
  simp only [List.mem_singleton, exists_eq_left]

theorem not_excludes {list name : Text} (hwildcard : list ≠ ['*'])
    (hpatterns : (ofText list).patterns = []) : ¬ Excludes list name := by
  have hlisted : (ofText list).isWildcard = false := by
    unfold ofText
    rw [if_neg hwildcard]
    rfl
  rw [← isWildcard_or_any_covers_iff, hlisted, hpatterns]
  exact Bool.false_ne_true

theorem usesProxy_eq_false_iff {list address : Text} {e : Endpoint}
    (h : Endpoint.ofText? address = some e) :
    (ofText list).usesProxy address = false ↔
      isLoopback e.host = true ∨ Excludes list (comparable address) := by
  rw [usesProxy_eq h, ← isWildcard_or_any_covers_iff]
  simp only [Bool.and_eq_false_iff, Bool.not_eq_false', Bool.or_eq_true, or_assoc]

theorem plain_of_isDecimal {c : Char} (hc : isDecimal c = true) :
    c.toNat < 0x80 ∧ isBlank c = false ∧ c.toLower = c := by
  apply Text.forall_decimal (p := fun c => c.toNat < 0x80 ∧ isBlank c = false ∧ c.toLower = c) _ hc
  decide

theorem uncased_of_isDecimal {c : Char} (hc : isDecimal c = true) :
    Unicode.isCased c = false ∧ Unicode.isCaseIgnorable c = false := by
  apply Text.forall_decimal (p := fun c =>
    Unicode.isCased c = false ∧ Unicode.isCaseIgnorable c = false) _ hc
  decide

theorem startsCased_port {port : Text} (h : ∀ c ∈ port, isDecimal c = true) :
    Text.startsCased (':' :: port) = false := by
  have hcolon : Unicode.isCaseIgnorable ':' = true := by decide
  unfold Text.startsCased
  rw [List.dropWhile_cons_of_pos hcolon]
  cases port with
  | nil => rfl
  | cons d port =>
    obtain ⟨hcased, hignorable⟩ := uncased_of_isDecimal (h d List.mem_cons_self)
    rw [List.dropWhile_cons_of_neg (ne_true_of_eq_false hignorable)]
    exact hcased

theorem comparable_append_decimal {s port : Text} (hport : ∀ c ∈ port, isDecimal c = true) :
    comparable (s ++ ':' :: port) = Text.lower (Text.trimStart s) := by
  have hplain : ∀ c ∈ ':' :: port, c.toNat < 0x80 ∧ isBlank c = false ∧ c.toLower = c := by
    intro c hc
    cases List.mem_cons.1 hc with
    | inl h =>
      rw [h]
      decide
    | inr h => exact plain_of_isDecimal (hport c h)
  have hlower : (':' :: port).map Char.toLower = ':' :: port := by
    rw [List.map_congr_left fun c hc => (hplain c hc).2.2]
    apply List.map_id'
  unfold comparable
  -- A port is not changed by trimming or lower-casing, and its colon is the last one.
  rw [Text.trim_append (List.cons_ne_nil _ _) fun c hc => (hplain c hc).2.1]
  rw [Text.lower_append_of_ascii (startsCased_port hport) fun c hc => (hplain c hc).1]
  rw [hlower]
  apply Endpoint.stripPort_append
  · intro hc
    exact absurd (hport _ hc) (by decide)
  · intro hc
    exact absurd (hport _ hc) (by decide)

theorem comparable_append_port {s port : Text} (hascii : ∀ c ∈ s, c.toNat < 0x80)
    (hblank : ∀ c ∈ s, isBlank c = false) (hport : ∀ c ∈ port, isDecimal c = true) :
    comparable (s ++ ':' :: port) = s.map Char.toLower := by
  have hstart : Text.trimStart s = s := Text.dropWhile_eq_self hblank
  rw [comparable_append_decimal hport, hstart, Text.lower_of_ascii hascii]

end ForwardProxy.Exclusions
