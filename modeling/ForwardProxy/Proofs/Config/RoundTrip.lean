import ForwardProxy.Proofs.Config.Document

/-!
This module contains that a configuration is read back from the JSON that it is written as. Main
statements: `ofJson_toJson`, and `ofJson_list` for lists of three strings however they are spelled.
-/

namespace ForwardProxy.Config

open Json

def toJsonList (c : Config) : Text :=
  '[' :: [','].intercalate (Field.all.map fun f => quote (c.get f)) ++ [']']

section

variable {s t u : Text} {c : Char}

theorem nextElement_first (h : next? s = some (c, t)) (hc : c ≠ ']') :
    nextElement true s = .ok (true, c :: t) := by
  rw [nextElement, h]
  split
  · contradiction
  · next rest hclosing =>
    rw [Option.some.injEq, Prod.mk.injEq] at hclosing
    exact absurd hclosing.1 hc
  · next c' rest _ hsome =>
    rw [Option.some.injEq, Prod.mk.injEq] at hsome
    rw [if_pos rfl, hsome.1, hsome.2]

theorem nextElement_comma (hs : next? s = some (',', t)) (ht : next? t = some (c, u))
    (hc : c ≠ ']') : nextElement false s = .ok (true, c :: u) := by
  rw [nextElement, hs]
  split
  · contradiction
  · next rest hclosing =>
    rw [Option.some.injEq, Prod.mk.injEq] at hclosing
    exact absurd hclosing.1 (by decide)
  · next c' rest _ hsome =>
    rw [Option.some.injEq, Prod.mk.injEq] at hsome
    obtain ⟨rfl, rfl⟩ := hsome
    rw [if_neg Bool.false_ne_true, if_pos rfl, ht]
    split
    · contradiction
    · next rest hclosing =>
      rw [Option.some.injEq, Prod.mk.injEq] at hclosing
      exact absurd hclosing.1 hc
    · next d rest _ hsome =>
      rw [Option.some.injEq, Prod.mk.injEq] at hsome
      rw [hsome.1, hsome.2]

theorem nextElement_close (isFirst : Bool) (h : next? s = some (']', t)) :
    nextElement isFirst s = .ok (false, t) := by
  rw [nextElement, h]
  split
  · contradiction
  · next rest hclosing =>
    rw [Option.some.injEq, Prod.mk.injEq] at hclosing
    rw [hclosing.2]
  · next c' rest hother hsome =>
    rw [Option.some.injEq, Prod.mk.injEq] at hsome
    exact absurd hsome.1.symm hother

end

theorem readValue_trimmed {item : Padded Value} {s : Text} (h : item.value.text? = some s)
    (rest : Text) :
    readValue (item.value.toText ++ (item.after.text ++ rest)) =
      .ok (s, item.after.text ++ rest) := by
  have hread := readValue_item ⟨Gap.empty, item.value, item.after⟩ rest
  rw [h] at hread
  rw [← toOption_eq_some_iff, ← List.append_assoc]
  exact hread

theorem readElements_items {fields : List Field} {items : List (Padded Value)} {v : Field → Text}
    (h : items.map (·.value.text?) = fields.map fun f => some (v f)) (c : Config) (gap : Gap)
    (rest : Text) :
    readElements c false fields
      (gap.text ++ ((items.map Padded.toText).flatMap (',' :: ·) ++ ']' :: rest)) =
        .ok (fields.foldl (fun c f => c.put f (v f)) c, rest) := by
  induction fields generalizing items c gap with
  | nil =>
    obtain rfl := List.map_eq_nil_iff.1 h
    rw [List.map_nil, List.flatMap_nil, List.nil_append, readElements,
      nextElement_close false (next?_gap_cons gap (by decide) rest)]
    rfl
  | cons f fields ih =>
    obtain ⟨item, items, rfl, hitem, hitems⟩ := List.map_eq_cons_iff.1 h
    obtain ⟨first, t, hfirst, hne, -, ht⟩ := next?_item item
      ((items.map Padded.toText).flatMap (',' :: ·) ++ ']' :: rest)
    rw [List.map_cons, List.flatMap_cons, List.cons_append, List.cons_append, List.append_assoc,
      readElements, nextElement_comma (next?_gap_cons gap (by decide) _) hfirst hne, ht]
    simp only [bind, Except.bind, if_true, readValue_trimmed hitem]
    exact ih hitems (c.put f (v f)) item.after

theorem readElements_list {field : Field} {fields : List Field} {items : List (Padded Value)}
    {v : Field → Text}
    (h : items.map (·.value.text?) = (field :: fields).map fun f => some (v f)) (c : Config)
    (gap : Gap) (rest : Text) :
    readElements c true (field :: fields) (contents gap (items.map Padded.toText) ++ ']' :: rest) =
      .ok ((field :: fields).foldl (fun c f => c.put f (v f)) c, rest) := by
  obtain ⟨item, items, rfl, hitem, hitems⟩ := List.map_eq_cons_iff.1 h
  obtain ⟨first, t, hfirst, hne, -, ht⟩ := next?_item item
    ((items.map Padded.toText).flatMap (',' :: ·) ++ ']' :: rest)
  rw [List.map_cons, contents, List.append_assoc, readElements, nextElement_first hfirst hne, ht]
  simp only [bind, Except.bind, if_true, readValue_trimmed hitem]
  exact readElements_items hitems (c.put field (v field)) item.after rest

theorem ofJson_list {items : List (Padded Value)} {c : Config}
    (h : items.map (·.value.text?) = Field.all.map fun f => some (c.get f))
    (before gap after : Gap) :
    ofJson (before.text ++ ((Value.list gap items).toText ++ after.text)) = .ok c := by
  rw [ofJson, next?_list]
  simp only [Char.reduceEq, if_false, if_true, bind, Except.bind]
  rw [Field.all, readElements_list h]
  simp only [next?_gap_nil]
  rfl

/-! Writing -/

theorem contents_eq_intercalate (gap : Gap) {texts : List Text} (h : texts ≠ []) :
    contents gap texts = [','].intercalate texts := by
  obtain ⟨s, texts, rfl⟩ := List.exists_cons_of_ne_nil h
  rw [contents]
  induction texts generalizing s with
  | nil => simp
  | cons t texts ih =>
    have htexts := List.cons_ne_nil t texts
    rw [List.intercalate_cons_of_ne_nil htexts, ← ih t htexts, List.flatMap_cons, List.append_assoc]
    rfl

theorem exists_quoted (v : Field → Text) :
    ∃ l : Field → Literal, ∀ f, (l f).toText = quote (v f) ∧ (l f).text? = some (v f) := by
  have hliteral : ∀ f, ∃ l : Literal, l.toText = quote (v f) ∧ l.text? = some (v f) := by
    intro f
    obtain ⟨l, hbody, htext⟩ := exists_literal (v f)
    exact ⟨l, by rw [Literal.toText, hbody, quote], htext⟩
  exact ⟨fun f => (hliteral f).choose, fun f => (hliteral f).choose_spec⟩

def stringMember (name text : Literal) : Member Value :=
  ⟨.bare name, .bare (.string text)⟩

theorem stringMember_toText (name text : Literal) :
    (stringMember name text).toText = name.toText ++ ':' :: text.toText := by
  simp [stringMember, Member.toText, Padded.toText, Padded.bare, Gap.empty, Value.toText]

theorem exists_document (c : Config) :
    ∃ doc : Document, doc.toText = c.toJson ∧ doc.IsNamed ∧
      ∀ f, values doc.members f = [some (c.get f)] := by
  obtain ⟨name, hname⟩ := exists_quoted Field.key
  obtain ⟨text, htext⟩ := exists_quoted c.get
  refine ⟨⟨Gap.empty, Gap.empty, Field.all.map fun f => stringMember (name f) (text f), Gap.empty⟩,
    ?_, ?_, ?_⟩
  · have hmembers : (Field.all.map fun f => stringMember (name f) (text f)).map Member.toText =
        Field.all.map fun f => quote f.key ++ ':' :: quote (c.get f) := by
      rw [List.map_map]
      apply List.map_congr_left
      intro f _
      rw [Function.comp_apply, stringMember_toText, (hname f).1, (htext f).1]
    rw [Document.toText, Value.toText, Value.memberTexts_eq, hmembers,
      contents_eq_intercalate _ (by simp [Field.all]), toJson]
    simp [Gap.empty]
  · intro m hm
    obtain ⟨f, -, rfl⟩ := List.mem_map.1 hm
    simp [stringMember, Padded.bare, (hname f).2]
  · intro f
    have hfilter : (Field.all.filter fun g => g.key = f.key) = [f] := by
      cases f <;> decide
    have hvalues : values (Field.all.map fun f => stringMember (name f) (text f)) f =
        (Field.all.filter fun g => g.key = f.key).map fun g => some (c.get g) := by
      unfold values
      simp [List.filter_map, stringMember, Padded.bare, hname, htext, Value.text?,
        Function.comp_def]
    rw [hvalues, hfilter, List.map_singleton]

theorem exists_list (c : Config) :
    ∃ items : List (Padded Value), (Value.list Gap.empty items).toText = c.toJsonList ∧
      items.map (·.value.text?) = Field.all.map fun f => some (c.get f) := by
  obtain ⟨text, htext⟩ := exists_quoted c.get
  refine ⟨Field.all.map fun f => .bare (.string (text f)), ?_, ?_⟩
  · have hitems : (Field.all.map fun f => Padded.bare (.string (text f))).map Padded.toText =
        Field.all.map fun f => quote (c.get f) := by
      rw [List.map_map]
      apply List.map_congr_left
      intro f _
      simp [Padded.toText, Padded.bare, Gap.empty, Value.toText, htext]
    rw [Value.toText, Value.itemTexts_eq, hitems, contents_eq_intercalate _ (by simp [Field.all]),
      toJsonList]
  · rw [List.map_map]
    exact List.map_congr_left fun f _ => (htext f).2

theorem ofJson_written (c : Config) : ofJson c.toJson = .ok c := by
  obtain ⟨doc, htext, hnamed, hvalues⟩ := exists_document c
  obtain ⟨c', hc', hget, -⟩ := exists_ofJson hnamed fun f => .inr ⟨_, hvalues f⟩
  rw [← htext, hc', eq_of_get_eq fun f => hget f _ (hvalues f)]

theorem ofJson_toJson (c : Config) :
    ofJson c.toJson = .ok c ∧ ofJson c.toJsonList = .ok c ∧
      ∀ d : Config, d.toJson = c.toJson ↔ d = c := by
  refine ⟨ofJson_written c, ?_, fun d => ⟨fun hd => ?_, fun hd => by rw [hd]⟩⟩
  · obtain ⟨items, htext, hitems⟩ := exists_list c
    have hread := ofJson_list hitems Gap.empty Gap.empty Gap.empty
    rw [htext] at hread
    simpa [Gap.empty] using hread
  · have hread := ofJson_written d
    rw [hd, ofJson_written c] at hread
    exact (Except.ok.inj hread).symm

end ForwardProxy.Config
