import ForwardProxy.Json.Skip
import ForwardProxy.Proofs.Json.Literal
import ForwardProxy.Proofs.Json.Number

/-!
This module contains the grammar of values as trees that keep how each token is spelled and the
white space between the tokens. Main statement: `skipValue?_append` says that a value is skipped to
its end, whatever it holds.
-/

namespace ForwardProxy.Json

structure Gap where
  text : Text
  blank : ∀ c ∈ text, c ∈ [' ', '\n', '\r', '\t']

structure Padded (α : Type) where
  before : Gap
  value : α
  after : Gap

def Gap.empty : Gap where
  text := []
  blank := by simp

def Padded.bare {α : Type} (a : α) : Padded α :=
  ⟨Gap.empty, a, Gap.empty⟩

structure Member (α : Type) where
  key : Padded Literal
  item : Padded α

/-- A value as it is written. The gap of a list or an object counts if nothing else is in it. -/
inductive Value
  | word (s : Text) (h : s ∈ ["null".toList, "true".toList, "false".toList])
  | number (s : Text) (h : IsNumber s)
  | string (l : Literal)
  | list (gap : Gap) (items : List (Padded Value))
  | object (gap : Gap) (members : List (Member Value))

def contents (gap : Gap) : List Text → Text
  | [] => gap.text
  | s :: rest => s ++ rest.flatMap (',' :: ·)

namespace Value

mutual

def toText : Value → Text
  | .word s _ => s
  | .number s _ => s
  | .string l => l.toText
  | .list gap items => '[' :: contents gap (itemTexts items) ++ [']']
  | .object gap members => '\x7b' :: contents gap (memberTexts members) ++ ['\x7d']

def itemTexts : List (Padded Value) → List Text
  | [] => []
  | ⟨before, value, after⟩ :: rest =>
    (before.text ++ (value.toText ++ after.text)) :: itemTexts rest

def memberTexts : List (Member Value) → List Text
  | [] => []
  | ⟨key, ⟨before, value, after⟩⟩ :: rest =>
    (key.before.text ++ (key.value.toText ++ (key.after.text ++
      ':' :: (before.text ++ (value.toText ++ after.text))))) :: memberTexts rest

end

end Value

def Padded.toText (item : Padded Value) : Text :=
  item.before.text ++ (item.value.toText ++ item.after.text)

def Member.toText (m : Member Value) : Text :=
  m.key.before.text ++ (m.key.value.toText ++ (m.key.after.text ++ ':' :: m.item.toText))

def Value.text? : Value → Option Text
  | .string l => l.text?
  | _ => none

theorem Value.itemTexts_eq (items : List (Padded Value)) :
    Value.itemTexts items = items.map Padded.toText := by
  induction items with
  | nil => rfl
  | cons item items ih => rw [Value.itemTexts, List.map_cons, ih]; rfl

theorem Value.memberTexts_eq (members : List (Member Value)) :
    Value.memberTexts members = members.map Member.toText := by
  induction members with
  | nil => rfl
  | cons m members ih => rw [Value.memberTexts, List.map_cons, ih]; rfl

theorem Value.induction {motive : Value → Prop} (word : ∀ s h, motive (.word s h))
    (number : ∀ s h, motive (.number s h)) (string : ∀ l, motive (.string l))
    (list : ∀ gap items, (∀ item ∈ items, motive item.value) → motive (.list gap items))
    (object : ∀ gap members, (∀ m ∈ members, motive m.item.value) → motive (.object gap members))
    (v : Value) : motive v := by
  apply Value.toText.induct motive (fun members => ∀ m ∈ members, motive m.item.value)
    (fun items => ∀ item ∈ items, motive item.value)
  · exact word
  · exact number
  · exact string
  · exact list
  · exact object
  · simp
  · intro before value after rest hvalue hrest
    simpa using ⟨hvalue, hrest⟩
  · simp
  · intro key before value after rest hvalue hrest
    simpa using ⟨hvalue, hrest⟩

/-! Tokens -/

theorem next?_gap (gap : Gap) (s : Text) : next? (gap.text ++ s) = next? s := by
  have hblank : ∀ c ∈ gap.text, isBlank c = true := by
    intro c hc
    have : ∀ c ∈ [' ', '\n', '\r', '\t'], isBlank c = true := List.all_eq_true.1 (by decide)
    exact this c (gap.blank c hc)
  unfold next?
  rw [List.dropWhile_append_of_pos hblank]

theorem next?_gap_cons (gap : Gap) {c : Char} (hc : isBlank c = false) (s : Text) :
    next? (gap.text ++ c :: s) = some (c, s) := by
  rw [next?_gap]
  unfold next?
  rw [List.dropWhile_cons_of_neg (by simp [hc])]

theorem next?_gap_nil (gap : Gap) : next? gap.text = none := by
  rw [← List.append_nil gap.text, next?_gap]
  rfl

theorem IsNumber.exists_start {s : Text} (h : IsNumber s) :
    ∃ c t, s = c :: t ∧ isBlank c = false ∧ c ∉ ['"', 'n', 't', 'f', '[', ']', '\x7b'] := by
  obtain ⟨c, t, rfl, hc⟩ := h.exists_cons
  refine ⟨c, t, rfl, ?_⟩
  obtain hc | rfl := hc
  · apply Text.forall_decimal
      (p := fun c => isBlank c = false ∧ c ∉ ['"', 'n', 't', 'f', '[', ']', '\x7b']) _ hc
    decide
  · decide

theorem Value.exists_cons (v : Value) :
    ∃ c t, v.toText = c :: t ∧ isBlank c = false ∧ c ≠ ']' ∧ (c = '"' → ∃ l, v = .string l) := by
  cases v with
  | word s h =>
    simp only [List.mem_cons, List.not_mem_nil, or_false] at h
    obtain rfl | rfl | rfl := h
    · exact ⟨'n', _, rfl, by decide, by decide, fun h => absurd h (by decide)⟩
    · exact ⟨'t', _, rfl, by decide, by decide, fun h => absurd h (by decide)⟩
    · exact ⟨'f', _, rfl, by decide, by decide, fun h => absurd h (by decide)⟩
  | number s h =>
    obtain ⟨c, t, rfl, hblank, hc⟩ := h.exists_start
    simp only [List.mem_cons, List.not_mem_nil, or_false, not_or] at hc
    obtain ⟨hquote, -, -, -, -, hclose, -⟩ := hc
    exact ⟨c, t, rfl, hblank, hclose, fun h => absurd h hquote⟩
  | string l => exact ⟨'"', _, rfl, by decide, by decide, fun _ => ⟨l, rfl⟩⟩
  | list gap items => exact ⟨'[', _, rfl, by decide, by decide, fun h => absurd h (by decide)⟩
  | object gap members =>
    exact ⟨'\x7b', _, rfl, by decide, by decide, fun h => absurd h (by decide)⟩

theorem next?_item (item : Padded Value) (rest : Text) :
    ∃ c t, next? (item.toText ++ rest) = some (c, t) ∧ c ≠ ']' ∧
      (c = '"' → ∃ l, item.value = .string l) ∧
      c :: t = item.value.toText ++ (item.after.text ++ rest) := by
  obtain ⟨c, t, hvalue, hblank, hc, hstring⟩ := item.value.exists_cons
  refine ⟨c, t ++ (item.after.text ++ rest), ?_, hc, hstring, ?_⟩
  · rw [Padded.toText, List.append_assoc, List.append_assoc, hvalue, List.cons_append,
      next?_gap_cons item.before hblank]
  · rw [hvalue, List.cons_append]

def Member.afterQuote (m : Member Value) (rest : Text) : Text :=
  m.key.value.body ++ '"' :: (m.key.after.text ++ ':' :: (m.item.toText ++ rest))

theorem next?_member (m : Member Value) (rest : Text) :
    next? (m.toText ++ rest) = some ('"', m.afterQuote rest) := by
  have hsplit : m.toText ++ rest = m.key.before.text ++ '"' :: m.afterQuote rest := by
    simp only [Member.toText, Member.afterQuote, Literal.toText, List.append_assoc,
      List.cons_append, List.nil_append]
  rw [hsplit]
  exact next?_gap_cons m.key.before (by decide) _

theorem next?_list (before gap : Gap) (items : List (Padded Value)) (rest : Text) :
    next? (before.text ++ ((Value.list gap items).toText ++ rest)) =
      some ('[', contents gap (items.map Padded.toText) ++ ']' :: rest) := by
  rw [Value.toText, Value.itemTexts_eq, List.cons_append, List.cons_append, List.append_assoc,
    List.singleton_append]
  exact next?_gap_cons before (by decide) _

theorem next?_object (before gap : Gap) (members : List (Member Value)) (rest : Text) :
    next? (before.text ++ ((Value.object gap members).toText ++ rest)) =
      some ('\x7b', contents gap (members.map Member.toText) ++ '\x7d' :: rest) := by
  rw [Value.toText, Value.memberTexts_eq, List.cons_append, List.cons_append, List.append_assoc,
    List.singleton_append]
  exact next?_gap_cons before (by decide) _

def EndsValue (rest : Text) : Prop :=
  ∀ c ∈ rest.head?, c ∈ [' ', '\n', '\r', '\t', ',', ']', '\x7d']

theorem EndsValue.endsNumber {rest : Text} (h : EndsValue rest) : EndsNumber rest := by
  have hends : ∀ c ∈ [' ', '\n', '\r', '\t', ',', ']', '\x7d'], (!continuesNumber c) = true :=
    List.all_eq_true.1 (by decide)
  exact fun c hc => by simpa using hends c (h c hc)

theorem endsValue_cons {c : Char} (hc : c ∈ [',', ']', '\x7d']) (s : Text) :
    EndsValue (c :: s) := by
  intro d hd
  obtain rfl := Option.some.inj hd
  exact List.mem_append_right [' ', '\n', '\r', '\t'] hc

theorem endsValue_gap (gap : Gap) {s : Text} (h : EndsValue s) : EndsValue (gap.text ++ s) := by
  intro c hc
  cases htext : gap.text with
  | nil =>
    rw [htext] at hc
    exact h c hc
  | cons d t =>
    rw [htext] at hc
    obtain rfl := Option.some.inj hc
    have hd : d ∈ gap.text := by
      rw [htext]
      exact List.mem_cons_self
    exact List.mem_append_left [',', ']', '\x7d'] (gap.blank d hd)

theorem endsValue_flatMap {c : Char} (hc : c ∈ [',', ']', '\x7d']) (texts : List Text)
    (rest : Text) : EndsValue (texts.flatMap (',' :: ·) ++ c :: rest) := by
  cases texts with
  | nil => exact endsValue_cons hc rest
  | cons s texts => exact endsValue_cons (by decide) _

theorem skipScalar?_word {s : Text} (h : s ∈ ["null".toList, "true".toList, "false".toList])
    (rest : Text) : skipScalar? (s ++ rest) = some rest := by
  simp only [List.mem_cons, List.not_mem_nil, or_false] at h
  obtain rfl | rfl | rfl := h
  · rfl
  · rfl
  · rfl

theorem skipScalar?_number {s rest : Text} (h : IsNumber s) (hrest : EndsNumber rest) :
    skipScalar? (s ++ rest) = some rest := by
  obtain ⟨x, hx⟩ := readNumeral?_append h hrest
  obtain ⟨c, t, rfl, -, hc⟩ := h.exists_start
  simp only [List.mem_cons, List.not_mem_nil, or_false, not_or] at hc
  obtain ⟨hquote, hn, ht, hf, -⟩ := hc
  have hword : skipWord? (c :: t ++ rest) = none := by
    simp [skipWord?, words, Text.dropStart?, Ne.symm hn, Ne.symm ht, Ne.symm hf]
  rw [List.cons_append] at *
  rw [skipScalar?, hword, hx]
  · rfl
  · exact fun _ h => hquote (List.cons.inj h).1

/-! Steps of skipping -/

def Frame.opening : Frame → Char
  | .list => '['
  | .object => '\x7b'

def Frame.closing : Frame → Char
  | .list => ']'
  | .object => '\x7d'

def skipElement? (frames : List Frame) (frame : Frame) (s : Text) : Option Text :=
  match frame with
  | .list => skipValue? (.list :: frames) s
  | .object => skipMember? frames s

section

variable {frame : Frame} {frames : List Frame} {s t u v : Text}

theorem skipValue?_empty (hs : next? s = some (frame.opening, t))
    (ht : next? t = some (frame.closing, u)) : skipValue? frames s = skipRest? frames u := by
  rw [skipValue?]
  split
  · next hnone =>
    rw [hs] at hnone
    contradiction
  · next c rest hfirst =>
    obtain ⟨rfl, rfl⟩ := next?_inj hs hfirst
    cases frame with
    | list =>
      rw [if_pos (by decide)]
      split
      · next after hclosing => rw [(next?_inj ht hclosing).2]
      · next hother => exact absurd ht (hother u)
    | object =>
      rw [if_neg (by decide), if_pos (by decide)]
      split
      · next after hclosing => rw [(next?_inj ht hclosing).2]
      · next hother => exact absurd ht (hother u)

theorem skipValue?_element (hs : next? s = some (frame.opening, t))
    (ht : ∀ u, next? t ≠ some (frame.closing, u)) :
    skipValue? frames s = skipElement? frames frame t := by
  rw [skipValue?]
  split
  · next hnone =>
    rw [hs] at hnone
    contradiction
  · next c rest hfirst =>
    obtain ⟨rfl, rfl⟩ := next?_inj hs hfirst
    cases frame with
    | list =>
      rw [if_pos (by decide)]
      split
      · next after hclosing => exact absurd hclosing (ht after)
      · rfl
    | object =>
      rw [if_neg (by decide), if_pos (by decide)]
      split
      · next after hclosing => exact absurd hclosing (ht after)
      · rfl

theorem skipValue?_scalar {c : Char} (hs : next? s = some (c, t)) (hlist : c ≠ '[')
    (hobject : c ≠ '\x7b') (ht : skipScalar? (c :: t) = some u) :
    skipValue? frames s = skipRest? frames u := by
  rw [skipValue?]
  split
  · next hnone =>
    rw [hs] at hnone
    contradiction
  · next c rest hfirst =>
    obtain ⟨rfl, rfl⟩ := next?_inj hs hfirst
    rw [if_neg hlist, if_neg hobject]
    split
    · next hnone =>
      rw [ht] at hnone
      contradiction
    · next after hscalar =>
      rw [ht, Option.some.injEq] at hscalar
      rw [hscalar]

theorem skipMember?_key (hs : next? s = some ('"', t)) (ht : skipString? t = some u)
    (hu : next? u = some (':', v)) :
    skipMember? frames s = skipValue? (.object :: frames) v := by
  rw [skipMember?]
  split
  · next rest hquote =>
    obtain ⟨-, rfl⟩ := next?_inj hs hquote
    split
    · next hnone =>
      rw [ht] at hnone
      contradiction
    · next after hkey =>
      rw [ht, Option.some.injEq] at hkey
      subst hkey
      split
      · next rest hcolon => rw [(next?_inj hu hcolon).2]
      · next hother => exact absurd hu (hother v)
  · next hother => exact absurd hs (hother t)

theorem skipRest?_nil : skipRest? [] s = some s := by
  rw [skipRest?]

theorem skipRest?_comma (hs : next? s = some (',', t)) :
    skipRest? (frame :: frames) s = skipElement? frames frame t := by
  cases frame with
  | list =>
    rw [skipRest?]
    split
    · next rest hcomma =>
      rw [(next?_inj hs hcomma).2]
      rfl
    · next rest hclosing => exact absurd (next?_inj hs hclosing).1 (by decide)
    · next hother _ => exact absurd hs (hother t)
  | object =>
    rw [skipRest?]
    split
    · next rest hcomma =>
      rw [(next?_inj hs hcomma).2]
      rfl
    · next rest hclosing => exact absurd (next?_inj hs hclosing).1 (by decide)
    · next hother _ => exact absurd hs (hother t)

theorem skipRest?_close (hs : next? s = some (frame.closing, t)) :
    skipRest? (frame :: frames) s = skipRest? frames t := by
  cases frame with
  | list =>
    rw [skipRest?]
    split
    · next rest hcomma => exact absurd (next?_inj hs hcomma).1 (by decide)
    · next rest hclosing => rw [(next?_inj hs hclosing).2]
    · next _ hother => exact absurd hs (hother t)
  | object =>
    rw [skipRest?]
    split
    · next rest hcomma => exact absurd (next?_inj hs hcomma).1 (by decide)
    · next rest hclosing => rw [(next?_inj hs hclosing).2]
    · next _ hother => exact absurd hs (hother t)

end

/-! Elements, in a list or in an object alike -/

section

variable {α : Type} {toText : α → Text} {after : α → Gap} (frame : Frame) {frames : List Frame}
  {xs : List α}

theorem skipRest?_elements
    (h : ∀ x ∈ xs, ∀ rest, EndsValue rest → skipElement? frames frame (toText x ++ rest) =
      skipRest? (frame :: frames) ((after x).text ++ rest))
    (gap : Gap) (rest : Text) :
    skipRest? (frame :: frames)
      (gap.text ++ ((xs.map toText).flatMap (',' :: ·) ++ frame.closing :: rest)) =
        skipRest? frames rest := by
  induction xs generalizing gap with
  | nil =>
    apply skipRest?_close
    apply next?_gap_cons
    cases frame <;> decide
  | cons x xs ih =>
    have hends : EndsValue ((xs.map toText).flatMap (',' :: ·) ++ frame.closing :: rest) := by
      apply endsValue_flatMap
      cases frame <;> decide
    rw [List.map_cons, List.flatMap_cons, List.cons_append, List.cons_append, List.append_assoc,
      skipRest?_comma (next?_gap_cons gap (by decide) _), h x List.mem_cons_self _ hends]
    exact ih (fun y hy => h y (List.mem_cons_of_mem x hy)) (after x)

theorem skipValue?_elements {gap : Gap} {s rest : Text}
    (h : ∀ x ∈ xs, ∀ rest, EndsValue rest → skipElement? frames frame (toText x ++ rest) =
      skipRest? (frame :: frames) ((after x).text ++ rest))
    (hstart : ∀ x ∈ xs, ∀ rest u, next? (toText x ++ rest) ≠ some (frame.closing, u))
    (hs : next? s = some (frame.opening, contents gap (xs.map toText) ++ frame.closing :: rest)) :
    skipValue? frames s = skipRest? frames rest := by
  cases xs with
  | nil =>
    apply skipValue?_empty hs
    apply next?_gap_cons
    cases frame <;> decide
  | cons x xs =>
    have hends : EndsValue ((xs.map toText).flatMap (',' :: ·) ++ frame.closing :: rest) := by
      apply endsValue_flatMap
      cases frame <;> decide
    rw [List.map_cons, contents, List.append_assoc] at hs
    rw [skipValue?_element hs (hstart x List.mem_cons_self _), h x List.mem_cons_self _ hends]
    exact skipRest?_elements frame (fun y hy => h y (List.mem_cons_of_mem x hy)) (after x) rest

end

/-! Values -/

def Value.IsSkipped (v : Value) : Prop :=
  ∀ frames (gap : Gap) rest, EndsValue rest →
    skipValue? frames (gap.text ++ (v.toText ++ rest)) = skipRest? frames rest

theorem skipValue?_item {item : Padded Value} (h : item.value.IsSkipped) (frames : List Frame)
    {rest : Text} (hrest : EndsValue rest) :
    skipValue? frames (item.toText ++ rest) = skipRest? frames (item.after.text ++ rest) := by
  have hsplit : item.toText ++ rest =
      item.before.text ++ (item.value.toText ++ (item.after.text ++ rest)) := by
    simp only [Padded.toText, List.append_assoc]
  rw [hsplit]
  exact h frames item.before _ (endsValue_gap item.after hrest)

theorem skipMember?_member {m : Member Value} (h : m.item.value.IsSkipped)
    (frames : List Frame) {rest : Text} (hrest : EndsValue rest) :
    skipMember? frames (m.toText ++ rest) =
      skipRest? (.object :: frames) (m.item.after.text ++ rest) := by
  rw [← skipValue?_item h _ hrest]
  apply skipMember?_key (next?_member m rest)
  · exact skipString?_body _ _
  · exact next?_gap_cons m.key.after (by decide) _

theorem isSkipped_scalar {v : Value} {c : Char} {t : Text} (hv : v.toText = c :: t)
    (hblank : isBlank c = false) (hlist : c ≠ '[') (hobject : c ≠ '\x7b')
    (h : ∀ rest, EndsValue rest → skipScalar? (v.toText ++ rest) = some rest) : v.IsSkipped := by
  intro frames gap rest hrest
  have hscalar := h rest hrest
  rw [hv] at hscalar ⊢
  exact skipValue?_scalar (next?_gap_cons gap hblank _) hlist hobject hscalar

theorem skipValue?_append (v : Value) : v.IsSkipped := by
  induction v using Value.induction with
  | word s h =>
    have hword := fun rest (_ : EndsValue rest) => skipScalar?_word h rest
    simp only [List.mem_cons, List.not_mem_nil, or_false] at h
    obtain rfl | rfl | rfl := h
    · exact isSkipped_scalar (v := .word _ _) rfl (by decide) (by decide) (by decide) hword
    · exact isSkipped_scalar (v := .word _ _) rfl (by decide) (by decide) (by decide) hword
    · exact isSkipped_scalar (v := .word _ _) rfl (by decide) (by decide) (by decide) hword
  | number s h =>
    obtain ⟨c, t, hs, hblank, hc⟩ := h.exists_start
    simp only [List.mem_cons, List.not_mem_nil, or_false, not_or] at hc
    obtain ⟨-, -, -, -, hlist, -, hobject⟩ := hc
    exact isSkipped_scalar (v := .number s h) hs hblank hlist hobject
      fun rest hrest => skipScalar?_number h hrest.endsNumber
  | string l =>
    apply isSkipped_scalar (v := .string l) rfl (by decide) (by decide) (by decide)
    intro rest hrest
    have hsplit : (Value.string l).toText ++ rest = '"' :: (l.body ++ '"' :: rest) := by
      simp only [Value.toText, Literal.toText, List.append_assoc, List.cons_append,
        List.nil_append]
    rw [hsplit]
    exact skipString?_body l rest
  | list gap items h =>
    intro frames before rest _
    refine skipValue?_elements .list
      (fun item hitem rest hrest => skipValue?_item (h item hitem) _ hrest) ?_
      (next?_list before gap items rest)
    intro item _ rest u hu
    obtain ⟨c, t, hnext, hc, -, -⟩ := next?_item item rest
    rw [hnext] at hu
    exact hc (Prod.mk.inj (Option.some.inj hu)).1
  | object gap members h =>
    intro frames before rest _
    refine skipValue?_elements .object
      (fun m hm rest hrest => skipMember?_member (h m hm) _ hrest) ?_
      (next?_object before gap members rest)
    intro m _ rest u hu
    rw [next?_member] at hu
    exact absurd (Prod.mk.inj (Option.some.inj hu)).1 (by decide)

end ForwardProxy.Json
