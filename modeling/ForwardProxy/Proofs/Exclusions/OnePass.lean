import ForwardProxy.Proofs.Endpoint.Grammar
import ForwardProxy.Proofs.Exclusions
import ForwardProxy.Proofs.Ip.Loopback
import ForwardProxy.Proofs.Text.Place

/-!
This module contains the exclusion test as one pass over the text of a list, which is read by the
places of characters: an entry is compared as soon as its comma is reached. Main statement:
`usesProxy_ofText` says that reading the list first and looking for a pattern afterwards comes to
the same.
-/

namespace ForwardProxy.Exclusions

namespace OnePass

def hostAt? (address : Text) (i : Nat) : Option Text :=
  let front := address.take i
  let inner := (address.take (i - 1)).drop 1
  let port := address.drop (i + 1)
  if address[i]? ≠ some ':' ∨ ':' ∈ port ∨ '[' ∈ port ∨ ']' ∈ port then none
  else if ':' ∉ front ∧ '[' ∉ front ∧ ']' ∉ front then some front
  else if front = '[' :: (inner ++ [']']) ∧ '[' ∉ inner ∧ ']' ∉ inner then some inner
  else none

def host? (address : Text) : Option Text :=
  (List.range address.length).findSome? (hostAt? address)

def isPortAt (s : Text) (i : Nat) : Bool :=
  let port := s.drop (i + 1)
  decide (s[i]? = some ':' ∧ ':' ∉ port ∧ ']' ∉ port)

def stripPort (s : Text) : Text :=
  match (List.range s.length).find? (isPortAt s) with
  | none => s
  | some i => s.take i

def compared (s : Text) : Text :=
  stripPort (Text.Place.lower (Text.Place.trim s))

def hits (host entry : Text) : Bool :=
  let start := host.length - entry.length
  let ends := entry == host.drop start
  if entry.isEmpty then false
  else if host == entry then true
  else if entry.head? == some '.' then ends || host == entry.drop 1
  else ends && 0 < start && host[start - 1]? == some '.'

/-- Compares entry after entry. The characters of the entry that is being read are given from its
end. -/
def scan (host : Text) (entry : Text) : Text → Bool
  | [] => hits host (compared entry.reverse)
  | c :: list =>
    if c = ',' then hits host (compared entry.reverse) || scan host [] list
    else scan host (c :: entry) list

def IsHere (host : Text) : Prop :=
  host = "localhost".toList ∨ ∃ ip, Ip.Denotes host ip ∧ ip.IsLocal

def Allows (list address : Text) : Prop :=
  address = [] ∨ ∃ host, host? address = some host ∧ ¬ IsHere host ∧ list ≠ ['*'] ∧
    scan (compared address) [] list = false

section Place

open Text.Place (drop_append_cons eq_take_append_drop)

variable {address host s : Text} {i : Nat}

theorem hostAt?_eq_some (h : hostAt? address i = some host) :
    ∃ port, Endpoint.ofText? address = some ⟨host, port⟩ := by
  unfold hostAt? at h
  dsimp only at h
  refine ⟨address.drop (i + 1), ?_⟩
  rw [Endpoint.ofText?_iff_isWritable, Endpoint.isWritable_iff]
  split at h
  · contradiction
  · next hplace =>
    simp only [ne_eq, not_or, not_not] at hplace
    obtain ⟨hcolon, hport⟩ := hplace
    have haddress := eq_take_append_drop hcolon
    split at h
    · next hfront =>
      rw [← Option.some.inj h]
      exact ⟨⟨hfront.2, hport⟩, .inl ⟨haddress, hfront.1⟩⟩
    · rw [Option.ite_none_right_eq_some] at h
      obtain ⟨⟨hfront, hinner⟩, h⟩ := h
      rw [Option.some.inj h] at hfront hinner
      refine ⟨⟨hinner, hport⟩, .inr ?_⟩
      rw [hfront] at haddress
      exact haddress.trans (by simp)

theorem exists_hostAt? {e : Endpoint} (h : Endpoint.ofText? address = some e) :
    ∃ i < address.length, hostAt? address i = some e.host := by
  obtain ⟨hwritable, haddress⟩ := Endpoint.ofText?_iff_isWritable.1 h
  obtain ⟨⟨hopen, hclose⟩, hport⟩ := Endpoint.isWritable_iff.1 hwritable
  unfold hostAt?
  rcases haddress with ⟨rfl, hcolon⟩ | haddress
  · refine ⟨e.host.length, by simp, ?_⟩
    rw [List.take_left, drop_append_cons]
    simp [hport, hopen, hclose, hcolon]
  · have hfront : address = ('[' :: (e.host ++ [']'])) ++ ':' :: e.port := by
      rw [haddress]
      simp
    subst hfront
    refine ⟨('[' :: (e.host ++ [']'])).length, by simp, ?_⟩
    rw [List.take_left, drop_append_cons]
    simp [hport, hopen, hclose]

theorem host?_eq (address : Text) :
    host? address = (Endpoint.ofText? address).map Endpoint.host := by
  unfold host?
  cases hhost : (List.range address.length).findSome? (hostAt? address) with
  | some host =>
    obtain ⟨i, -, hi⟩ := List.exists_of_findSome?_eq_some hhost
    obtain ⟨port, hread⟩ := hostAt?_eq_some hi
    rw [hread]
    rfl
  | none =>
    rw [List.findSome?_eq_none_iff] at hhost
    rw [eq_comm, Option.map_eq_none_iff, Option.eq_none_iff_forall_ne_some]
    intro e hread
    obtain ⟨i, hi, hsome⟩ := exists_hostAt? hread
    rw [hhost i (List.mem_range.2 hi)] at hsome
    contradiction

theorem stripPort_eq (s : Text) : stripPort s = Endpoint.stripPort s := by
  unfold stripPort
  split
  · next hnone =>
    rw [List.find?_eq_none] at hnone
    rw [Endpoint.stripPort_of_not_hasPort]
    rw [← Bool.not_eq_true, Endpoint.hasPort_iff]
    rintro ⟨a, b, rfl, hcolon, hbracket⟩
    apply hnone a.length (by simp)
    unfold isPortAt
    rw [drop_append_cons]
    simp [hcolon, hbracket]
  · next i hi =>
    have hport : isPortAt s i = true := List.find?_some hi
    obtain ⟨hplace, hcolon, hbracket⟩ := of_decide_eq_true hport
    have hs := Endpoint.stripPort_append (a := s.take i) hcolon hbracket
    rw [← eq_take_append_drop hplace] at hs
    exact hs.symm

theorem compared_eq (s : Text) : compared s = comparable s := by
  unfold compared comparable
  rw [stripPort_eq, Text.Place.lower_eq, Text.Place.trim_eq]

theorem isHere_iff : IsHere host ↔ isLoopback host = true := by
  unfold IsHere isLoopback
  simp only [Bool.or_eq_true, beq_iff_eq, Option.any_eq_true, ← Ip.ofText?_iff_denotes,
    Ip.isLoopback_iff_isLocal]

end Place

theorem suffix_and_dot_iff {host entry : Text} :
    (entry <:+ host ∧ 0 < host.length - entry.length ∧
        host[host.length - entry.length - 1]? = some '.') ↔
      ∃ head, host = head ++ '.' :: entry := by
  constructor
  · rintro ⟨⟨front, rfl⟩, hstart, hdot⟩
    rw [List.length_append, Nat.add_sub_cancel] at hstart hdot
    rw [List.getElem?_append_left (by omega), ← List.getLast?_eq_getElem?] at hdot
    obtain ⟨head, rfl⟩ := List.getLast?_eq_some_iff.1 hdot
    exact ⟨head, by simp⟩
  · rintro ⟨head, rfl⟩
    have hlength : (head ++ '.' :: entry).length - entry.length = head.length + 1 := by
      rw [List.length_append, List.length_cons]
      omega
    refine ⟨⟨head ++ ['.'], by simp⟩, ?_, ?_⟩
    · omega
    · rw [hlength, Nat.add_sub_cancel, List.getElem?_append_right (Nat.le_refl _)]
      simp

theorem hits_iff {host entry : Text} :
    hits host entry = true ↔ entry ≠ [] ∧ labels (dropDot entry) <:+ labels host := by
  unfold labels
  rw [Text.splitOn_suffix_iff]
  cases entry with
  | nil => simp [hits]
  | cons c rest =>
    by_cases hc : c = '.'
    · subst hc
      have hdrop : dropDot ('.' :: rest) = rest := rfl
      simp only [hits, hdrop, List.isEmpty_cons, List.head?_cons, List.drop_succ_cons,
        List.drop_zero, beq_self_eq_true, Bool.false_eq_true, if_false, if_true, Bool.if_true_left,
        Bool.or_eq_true, beq_iff_eq, decide_eq_true_eq, ← List.suffix_iff_eq_drop, ne_eq,
        reduceCtorEq, not_false_eq_true, true_and]
      constructor
      · rintro (rfl | ⟨head, rfl⟩ | rfl)
        · exact .inr ⟨[], rfl⟩
        · exact .inr ⟨head, rfl⟩
        · exact .inl rfl
      · rintro (rfl | ⟨head, rfl⟩)
        · exact .inr (.inr rfl)
        · exact .inr (.inl ⟨head, rfl⟩)
    · have hdrop : dropDot (c :: rest) = c :: rest := by
        unfold dropDot
        grind
      have hhead : ((c :: rest).head? == some '.') = false := by simpa using hc
      rw [hdrop]
      simp only [hits, hhead, List.isEmpty_cons, Bool.false_eq_true, if_false, Bool.if_true_left,
        Bool.or_eq_true, Bool.and_eq_true, beq_iff_eq, decide_eq_true_eq, and_assoc,
        ← List.suffix_iff_eq_drop, suffix_and_dot_iff, ne_eq, reduceCtorEq, not_false_eq_true,
        true_and]

theorem scan_eq {host entry list : Text} :
    scan host entry list =
      (list.splitOnPPrepend (· == ',') entry).any fun piece => hits host (comparable piece) := by
  -- The entry that is being read is the same in both recursions, so it varies with the list.
  induction list generalizing entry with
  | nil => simp [scan, compared_eq]
  | cons c list ih =>
    unfold scan
    by_cases hc : c = ','
    · rw [if_pos hc, ih, List.splitOnPPrepend_cons_pos (by simpa using hc), List.any_cons,
        compared_eq]
      rfl
    · rw [if_neg hc, ih, List.splitOnPPrepend_cons_neg (by simpa using hc)]

theorem scan_iff {host list : Text} :
    scan host [] list = true ↔ ∃ entry ∈ list.splitOn ',',
      comparable entry ≠ [] ∧ labels (dropDot (comparable entry)) <:+ labels host := by
  rw [scan_eq, List.any_eq_true]
  simp only [hits_iff]
  rfl

theorem allows_iff {list address : Text} {e : Endpoint}
    (h : Endpoint.ofText? address = some e) :
    Allows list address ↔ ¬ (isLoopback e.host = true ∨ Excludes list (comparable address)) := by
  have hne : address ≠ [] := by
    rintro rfl
    contradiction
  unfold Allows Excludes
  rw [or_iff_right hne, host?_eq, h, ← scan_iff, compared_eq]
  simp only [Option.map_some, Option.some.injEq, exists_eq_left', isHere_iff, not_or,
    Bool.not_eq_true]

end OnePass

theorem usesProxy_ofText (list address : Text) :
    (ofText list).usesProxy address = true ↔ OnePass.Allows list address := by
  by_cases hne : address = []
  · subst hne
    exact ⟨fun _ => .inl rfl, fun _ => rfl⟩
  · cases hread : Endpoint.ofText? address with
    | none =>
      rw [usesProxy_of_malformed hne hread]
      unfold OnePass.Allows
      rw [OnePass.host?_eq, hread]
      simp [hne]
    | some e => rw [OnePass.allows_iff hread, ← usesProxy_eq_false_iff hread, Bool.not_eq_false]

theorem usesProxy_of_entry_and_loopback :
    (ofText ",:1,\u3000.GR.ΣΟΦΟΣ:80 ".toList).usesProxy "www.gr.σοφος:443".toList = false ∧
    (ofText ",:1,\u3000.GR.ΣΟΦΟΣ:80 ".toList).usesProxy "wwwgr.σοφος:443".toList = true ∧
    (ofText []).usesProxy "[::FFFF:7F00:1]:80".toList = false ∧
    (ofText []).usesProxy "[foo.com:80".toList = false := by
  refine ⟨?_, ?_, ?_, ?_⟩
  · rw [← Bool.not_eq_true, usesProxy_ofText]
    rintro (hnil | ⟨host, -, -, -, hscan⟩)
    · contradiction
    · exact absurd hscan (by decide +kernel)
  · rw [usesProxy_ofText]
    refine .inr ⟨"wwwgr.σοφος".toList, by decide, ?_, by decide, by decide +kernel⟩
    rw [OnePass.isHere_iff]
    decide +kernel
  · have hhost : OnePass.host? "[::FFFF:7F00:1]:80".toList = some "::FFFF:7F00:1".toList := by
      decide
    have hmask : Ip.IsPiece "FFFF".toList 0xFFFF := ⟨by decide, 0, rfl⟩
    have hhigh : Ip.IsPiece "7F00".toList 0x7F00 := ⟨by decide, 0, rfl⟩
    have hlow : Ip.IsPiece "1".toList 1 := ⟨by decide, 0, rfl⟩
    have hpieces : Ip.ArePieces true "FFFF:7F00:1".toList [0xFFFF, 0x7F00, 1] :=
      .cons hmask (.cons hhigh (.piece hlow))
    have hzeros : 0 < 5 := by decide
    have hhere : OnePass.IsHere "::FFFF:7F00:1".toList :=
      .inr ⟨_, .v6 (.short (.inl ⟨rfl, rfl⟩) (.inr hpieces) hzeros rfl), .mapped 0 0 1⟩
    rw [← Bool.not_eq_true, usesProxy_ofText]
    rintro (hnil | ⟨host, hread, hnot, -⟩)
    · contradiction
    · rw [hhost, Option.some.injEq] at hread
      exact hnot (hread ▸ hhere)
  · have hhost : OnePass.host? "[foo.com:80".toList = none := by decide
    rw [← Bool.not_eq_true, usesProxy_ofText]
    rintro (hnil | ⟨host, hread, -⟩)
    · contradiction
    · rw [hhost] at hread
      contradiction

end ForwardProxy.Exclusions
