import ForwardProxy.Proofs.Text.Trim

/-!
This module contains trimming and lower-casing by the places of characters. Main statements:
`Place.trim_eq` and `Place.lower_eq` say that both come to the same as reading a text from its ends.
-/

namespace ForwardProxy.Text.Place

open Unicode (isCased isCaseIgnorable)

def trim (s : Text) : Text :=
  let first := s.findIdx fun c => !isBlank c
  let afterLast := s.length - s.reverse.findIdx fun c => !isBlank c
  (s.take afterLast).drop first

def isLetter (c : Char) : Bool :=
  isCased c && !isCaseIgnorable c

def startsLetter (s : Text) : Bool :=
  (List.range s.length).any fun i => s[i]?.any isLetter && (s.take i).all isCaseIgnorable

def endsLetter (s : Text) : Bool :=
  (List.range s.length).any fun i => s[i]?.any isLetter && (s.drop (i + 1)).all isCaseIgnorable

def smallAt (s : Text) (i : Nat) : Text :=
  match s[i]? with
  | none => []
  | some c =>
    if c = 'Σ' then
      if endsLetter (s.take i) && !startsLetter (s.drop (i + 1)) then ['ς'] else ['σ']
    else lowerChar c

def lower (s : Text) : Text :=
  (List.range s.length).flatMap (smallAt s)

variable {s t : Text}

theorem trimEnd_eq_take (s : Text) :
    trimEnd s = s.take (s.length - s.reverse.findIdx fun c => !isBlank c) := by
  unfold trimEnd
  rw [List.dropWhile_eq_drop_findIdx_not, List.reverse_drop, List.reverse_reverse,
    List.length_reverse]

theorem trim_eq (s : Text) : trim s = Text.trim s := by
  have hs : s.takeWhile isBlank ++ trimStart s = s := List.takeWhile_append_dropWhile
  have hfirst : s.findIdx (fun c => !isBlank c) = (s.takeWhile isBlank).length := by
    rw [List.takeWhile_eq_take_findIdx_not, List.length_take_of_le List.findIdx_le_length]
  unfold trim Text.trim
  rw [hfirst, trimEnd_eq_take]
  generalize s.takeWhile isBlank = front at hs
  dsimp only
  cases hrest : trimStart s with
  | nil =>
    rw [hrest, List.append_nil] at hs
    rw [hs, List.take_nil, List.drop_eq_nil_of_le (List.length_take_le' _ _)]
  | cons c rest =>
    have hc : isBlank c = false := by
      apply head?_dropWhile (s := s)
      unfold trimStart at hrest
      rw [hrest, List.head?_cons]
    rw [hrest] at hs
    -- There is a place that is not blank, so the last one is not before the first one.
    have hlast : (c :: rest).reverse.findIdx (fun c => !isBlank c) < (c :: rest).length := by
      rw [← List.length_reverse, List.findIdx_lt_length]
      exact ⟨c, by simp, by rw [hc]; rfl⟩
    have hsame : s.reverse.findIdx (fun c => !isBlank c) =
        (c :: rest).reverse.findIdx fun c => !isBlank c := by
      rw [← hs, List.reverse_append, List.findIdx_append, List.length_reverse, if_pos hlast]
    have hlength : s.length = front.length + (c :: rest).length := by
      rw [← hs, List.length_append]
    rw [hsame, hlength, Nat.add_sub_assoc (Nat.le_of_lt hlast), ← hs]
    rw [List.take_length_add_append, List.drop_left]

theorem eq_take_append_drop {i : Nat} {c : Char} (h : s[i]? = some c) :
    s = s.take i ++ c :: s.drop (i + 1) := by
  obtain ⟨hi, hc⟩ := List.getElem?_eq_some_iff.1 h
  rw [← hc, List.getElem_cons_drop, List.take_append_drop]

theorem drop_append_cons (x : Text) (c : Char) (y : Text) :
    (x ++ c :: y).drop (x.length + 1) = y := by
  rw [List.drop_append, List.drop_of_length_le (by omega)]
  simp

theorem startsCased_iff :
    startsCased s = true ↔
      ∃ x c y, s = x ++ c :: y ∧ isLetter c = true ∧ ∀ d ∈ x, isCaseIgnorable d = true := by
  unfold startsCased isLetter
  constructor
  · intro h
    split at h
    · contradiction
    · next c y hrest =>
      have hnot : isCaseIgnorable c = false := head?_dropWhile (by rw [hrest]; rfl)
      refine ⟨s.takeWhile isCaseIgnorable, c, y, ?_, ?_, fun d hd => List.mem_takeWhile_imp hd⟩
      · rw [← hrest, List.takeWhile_append_dropWhile]
      · rw [h, hnot]
        rfl
  · rintro ⟨x, c, y, rfl, hc, hx⟩
    rw [Bool.and_eq_true, Bool.not_eq_true'] at hc
    rw [List.dropWhile_append_of_pos hx, List.dropWhile_cons_of_neg (ne_true_of_eq_false hc.2)]
    exact hc.1

theorem startsLetter_eq (s : Text) : startsLetter s = startsCased s := by
  rw [Bool.eq_iff_iff, startsCased_iff]
  unfold startsLetter
  simp only [List.any_eq_true, List.mem_range, Bool.and_eq_true, Option.any_eq_true, List.all_eq_true]
  constructor
  · rintro ⟨i, -, ⟨c, hi, hc⟩, hbefore⟩
    exact ⟨_, c, _, eq_take_append_drop hi, hc, hbefore⟩
  · rintro ⟨x, c, y, rfl, hc, hx⟩
    refine ⟨x.length, by simp, ⟨c, by simp, hc⟩, ?_⟩
    rwa [List.take_left]

theorem endsLetter_eq (s : Text) : endsLetter s = startsCased s.reverse := by
  rw [Bool.eq_iff_iff, startsCased_iff]
  unfold endsLetter
  simp only [List.any_eq_true, List.mem_range, Bool.and_eq_true, Option.any_eq_true, List.all_eq_true]
  constructor
  · rintro ⟨i, -, ⟨c, hi, hc⟩, hafter⟩
    refine ⟨(s.drop (i + 1)).reverse, c, (s.take i).reverse, ?_, hc, by simpa using hafter⟩
    have hs := congrArg List.reverse (eq_take_append_drop hi)
    simpa using hs
  · rintro ⟨x, c, y, hs, hc, hx⟩
    have hs : s = y.reverse ++ c :: x.reverse := by
      rw [← List.reverse_reverse s, hs]
      simp
    subst hs
    refine ⟨y.reverse.length, by simp, ⟨c, by simp, hc⟩, ?_⟩
    rw [drop_append_cons]
    simpa using hx

theorem go_eq_flatMap_smallAt (before after : Text) :
    Text.lower.go before after = (List.range after.length).flatMap fun i =>
      smallAt (before.reverse ++ after) (before.length + i) := by
  induction after generalizing before with
  | nil => rfl
  | cons c after ih =>
    have hsmall : smallAt (before.reverse ++ c :: after) before.length =
        if c = 'Σ' then if startsCased before && !startsCased after then ['ς'] else ['σ']
        else lowerChar c := by
      have hlength : before.length = before.reverse.length := List.length_reverse.symm
      unfold smallAt
      rw [startsLetter_eq, endsLetter_eq, hlength, List.take_left, List.reverse_reverse,
        drop_append_cons]
      simp
    have hrest (i : Nat) : smallAt ((c :: before).reverse ++ after) ((c :: before).length + i) =
        smallAt (before.reverse ++ c :: after) (before.length + (i + 1)) := by
      rw [List.reverse_cons, List.append_assoc, List.singleton_append, List.length_cons,
        Nat.add_right_comm, Nat.add_assoc]
    rw [List.length_cons, List.range_succ_eq_map, List.flatMap_cons, List.flatMap_map]
    unfold Text.lower.go
    rw [ih, Nat.add_zero, hsmall]
    simp only [hrest]

theorem lower_eq (s : Text) : lower s = Text.lower s := by
  unfold lower Text.lower
  rw [go_eq_flatMap_smallAt]
  simp

end ForwardProxy.Text.Place
