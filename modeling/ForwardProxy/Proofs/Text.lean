import ForwardProxy.Text
import Mathlib.Data.List.Basic
import Mathlib.Data.List.TakeWhile

/-!
This module contains the theory of the parts that a separator or a scan cuts a text into, of
trimming, and of the bytes that a text is written as in UTF-8. Main statement: `splitOn_suffix_iff`
says when the parts of one text end the parts of another.
-/

namespace ForwardProxy.Text

theorem intercalate_append {sep : Text} {xs ys : List Text} (hx : xs ≠ []) (hy : ys ≠ []) :
    sep.intercalate (xs ++ ys) = sep.intercalate xs ++ sep ++ sep.intercalate ys := by
  induction xs with
  | nil => contradiction
  | cons x xs ih =>
    cases xs with
    | nil =>
      rw [List.singleton_append]
      rw [List.intercalate_cons_of_ne_nil hy]
      simp
    | cons x' xs =>
      have hx' : x' :: xs ≠ [] := List.cons_ne_nil _ _
      rw [List.cons_append]
      rw [List.intercalate_cons_of_ne_nil (List.append_ne_nil_of_left_ne_nil hx' ys)]
      rw [List.intercalate_cons_of_ne_nil hx']
      rw [ih hx']
      simp only [List.append_assoc]

theorem splitOn_suffix_iff {sep : Char} {s t : Text} :
    s.splitOn sep <:+ t.splitOn sep ↔ t = s ∨ ∃ head, t = head ++ sep :: s := by
  constructor
  · rintro ⟨front, h⟩
    -- Joining the parts gives both texts back, whatever parts stand in front.
    have ht : t = [sep].intercalate (front ++ s.splitOn sep) := by
      rw [h, List.intercalate_splitOn]
    cases front with
    | nil =>
      left
      rw [ht, List.nil_append, List.intercalate_splitOn]
    | cons part front =>
      right
      refine ⟨[sep].intercalate (part :: front), ?_⟩
      rw [ht]
      rw [intercalate_append (List.cons_ne_nil _ _) (List.splitOn_ne_nil _ _)]
      rw [List.intercalate_splitOn]
      simp
  · intro h
    cases h with
    | inl h => exact ⟨[], by rw [h, List.nil_append]⟩
    | inr h =>
      obtain ⟨head, h⟩ := h
      rw [h, List.splitOn_append_cons_self]
      apply List.suffix_append

theorem mem_intercalate {sep : Text} {c : Char} {parts : List Text}
    (h : c ∈ sep.intercalate parts) : c ∈ sep ∨ ∃ part ∈ parts, c ∈ part := by
  induction parts with
  | nil => simp at h
  | cons part parts ih =>
    cases parts with
    | nil =>
      rw [List.intercalate_singleton] at h
      exact .inr ⟨part, List.mem_cons_self, h⟩
    | cons next parts =>
      rw [List.intercalate_cons_of_ne_nil (by simp), List.mem_append, List.mem_append] at h
      rcases h with (h | h) | h
      · exact .inr ⟨part, List.mem_cons_self, h⟩
      · exact .inl h
      · cases ih h with
        | inl h => exact .inl h
        | inr h =>
          obtain ⟨p, hp, hc⟩ := h
          exact .inr ⟨p, List.mem_cons_of_mem _ hp, hc⟩

theorem mem_intercalate_of_mem {sep part : Text} {c : Char} {parts : List Text}
    (hpart : part ∈ parts) (hc : c ∈ part) : c ∈ sep.intercalate parts := by
  induction parts with
  | nil => contradiction
  | cons first parts ih =>
    cases parts with
    | nil =>
      rw [List.intercalate_singleton]
      rwa [← List.mem_singleton.1 hpart]
    | cons next parts =>
      rw [List.intercalate_cons_of_ne_nil (by simp), List.mem_append]
      cases List.mem_cons.1 hpart with
      | inl h =>
        rw [← h]
        exact .inl (List.mem_append_left _ hc)
      | inr h => exact .inr (ih h)

theorem mem_of_mem_splitOn {sep c : Char} {s part : Text} (hpart : part ∈ s.splitOn sep)
    (hc : c ∈ part) : c ∈ s := by
  have h : c ∈ [sep].intercalate (s.splitOn sep) := mem_intercalate_of_mem hpart hc
  rwa [List.intercalate_splitOn] at h

theorem dropWhile_eq_self {p : Char → Bool} {s : Text} (h : ∀ c ∈ s, p c = false) :
    s.dropWhile p = s := by
  rw [List.dropWhile_eq_self_iff]
  intro hlength
  rw [h _ (List.getElem_mem hlength)]
  exact Bool.false_ne_true

theorem reverse_dropWhile_eq_self {p : Char → Bool} {s : Text} (h : ∀ c ∈ s, p c = false) :
    s.reverse.dropWhile p = s.reverse := by
  apply dropWhile_eq_self
  intro c hc
  exact h c (List.mem_reverse.1 hc)

section Scan

variable {p : Char → Bool} {s rest : Text}

theorem takeWhile_append_of_head? (hs : ∀ c ∈ s, p c = true)
    (hrest : ∀ c ∈ rest.head?, p c = false) : (s ++ rest).takeWhile p = s := by
  rw [List.takeWhile_append_of_pos hs]
  cases rest with
  | nil => rw [List.takeWhile_nil, List.append_nil]
  | cons c rest =>
    rw [List.takeWhile_cons_of_neg (ne_true_of_eq_false (hrest c rfl)), List.append_nil]

theorem dropWhile_append_of_head? (hs : ∀ c ∈ s, p c = true)
    (hrest : ∀ c ∈ rest.head?, p c = false) : (s ++ rest).dropWhile p = rest := by
  rw [List.dropWhile_append_of_pos hs]
  cases rest with
  | nil => rfl
  | cons c rest => exact List.dropWhile_cons_of_neg (ne_true_of_eq_false (hrest c rfl))

theorem takeWhile_of_cutFirst?_eq_none {sep : Char} (h : cutFirst? sep s = none) :
    s.takeWhile (· != sep) = s := by
  rw [List.takeWhile_eq_self_iff]
  intro c hc
  rw [bne_iff_ne]
  rintro rfl
  exact cutFirst?_eq_none_iff.1 h hc

theorem takeWhile_of_cutFirst?_eq_some {sep : Char} {before after : Text}
    (h : cutFirst? sep s = some (before, after)) : s.takeWhile (· != sep) = before := by
  obtain ⟨rfl, hbefore⟩ := cutFirst?_eq_some_iff.1 h
  apply takeWhile_append_of_head?
  · intro c hc
    rw [bne_iff_ne]
    rintro rfl
    exact hbefore hc
  · intro c hc
    rw [← Option.some.inj hc]
    exact bne_self_eq_false sep

theorem drop_length_takeWhile (s : Text) : s.drop (s.takeWhile p).length = s.dropWhile p := by
  have hdrop := List.prefix_iff_eq_append.1 (List.takeWhile_prefix p (l := s))
  have hdropWhile : s.takeWhile p ++ s.dropWhile p = s := List.takeWhile_append_dropWhile
  exact List.append_cancel_left (hdrop.trans hdropWhile.symm)

theorem head?_dropWhile {c : Char} (h : (s.dropWhile p).head? = some c) : p c = false := by
  have hnot := List.head?_dropWhile_not p s
  rw [h] at hnot
  exact hnot

end Scan

theorem trimEnd_append_cons {s t : Text} {c : Char} (hc : isBlank c = false) :
    trimEnd (s ++ c :: t) = s ++ c :: trimEnd t := by
  have hend : (t.reverse ++ [c]).dropWhile isBlank = t.reverse.dropWhile isBlank ++ [c] := by
    rw [List.dropWhile_append, List.dropWhile_cons_of_neg (ne_true_of_eq_false hc)]
    split
    · next ht => rw [List.isEmpty_iff.1 ht, List.nil_append]
    · rfl
  unfold trimEnd
  rw [List.reverse_append, List.reverse_cons, List.dropWhile_append, hend]
  rw [if_neg (by simp)]
  simp

theorem trim_append_cons {s t : Text} {c : Char} (hc : isBlank c = false) :
    trim (s ++ c :: t) = trimStart s ++ c :: trimEnd t := by
  have hstart : trimStart (s ++ c :: t) = trimStart s ++ c :: t := by
    unfold trimStart
    rw [List.dropWhile_append, List.dropWhile_cons_of_neg (ne_true_of_eq_false hc)]
    split
    · next hs => rw [List.isEmpty_iff.1 hs, List.nil_append]
    · rfl
  unfold trim
  rw [hstart, trimEnd_append_cons hc]

theorem trim_append {s t : Text} (hne : t ≠ []) (h : ∀ c ∈ t, isBlank c = false) :
    trim (s ++ t) = trimStart s ++ t := by
  cases t with
  | nil => contradiction
  | cons c t =>
    rw [List.forall_mem_cons] at h
    rw [trim_append_cons h.1]
    unfold trimEnd
    rw [reverse_dropWhile_eq_self h.2, List.reverse_reverse]

section Utf8

variable {bytes : List UInt8} {t : Text}

theorem utf8Decode?_eq_some_iff :
    bytes.toByteArray.utf8Decode?.map Array.toList = some t ↔
      bytes = t.flatMap String.utf8EncodeChar := by
  constructor
  · intro h
    obtain ⟨chars, hchars, rfl⟩ := Option.map_eq_some_iff.1 h
    -- The bytes are those of some text, which is then the one that they are decoded to.
    have hvalid : bytes.toByteArray.IsValidUTF8 := by
      rw [← ByteArray.isSome_utf8Decode?_iff, hchars]
      rfl
    obtain ⟨t, ht⟩ := hvalid
    rw [ht, List.utf8Decode?_utf8Encode, Option.some.injEq] at hchars
    rw [← hchars]
    exact List.toByteArray_inj.1 ht
  · rintro rfl
    have hdecode : (t.flatMap String.utf8EncodeChar).toByteArray.utf8Decode? = some t.toArray :=
      List.utf8Decode?_utf8Encode
    rw [hdecode]
    rfl

theorem utf8Decode?_eq_none_iff :
    bytes.toByteArray.utf8Decode?.map Array.toList = none ↔ ¬ bytes.toByteArray.IsValidUTF8 := by
  rw [← ByteArray.isSome_utf8Decode?_iff, Bool.not_eq_true, Option.isSome_eq_false_iff,
    Option.isNone_iff_eq_none]
  exact Option.map_eq_none_iff

end Utf8

end ForwardProxy.Text
