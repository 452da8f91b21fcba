import ForwardProxy.Config.Json
import ForwardProxy.Proofs.Json.Value

/-!
This module contains what is read from the text of any object. Main statement: `ofJson_document`
says that this depends on the members with the names of the fields only, and that nothing is read if
one of them is not a string, or not the only one of its name.
-/

namespace ForwardProxy.Config

open Json

structure Document where
  before : Gap
  gap : Gap
  members : List (Member Value)
  after : Gap

namespace Document

def toText (doc : Document) : Text :=
  doc.before.text ++ ((Value.object doc.gap doc.members).toText ++ doc.after.text)

def IsNamed (doc : Document) : Prop :=
  ∀ m ∈ doc.members, m.key.value.text? ≠ none

end Document

def values (members : List (Member Value)) (f : Field) : List (Option Text) :=
  (members.filter fun m => m.key.value.text? = some f.key).map (·.item.value.text?)

def Draft.put? (d : Draft) (f : Field) (text : Option Text) : Option Draft :=
  if f ∈ d.fields then none else text.map (d.put f)

def Draft.enter? (d : Draft) (m : Member Value) : Option Draft :=
  m.key.value.text?.bind fun key =>
    match Field.ofKey? key with
    | some f => d.put? f m.item.value.text?
    | none => some d

/-! Reading -/

theorem toOption_eq_some_iff {ε α : Type} {x : Except ε α} {a : α} :
    x.toOption = some a ↔ x = .ok a := by
  cases x with
  | error e => simp [Except.toOption]
  | ok b => simp [Except.toOption]

theorem toOption_eq_none_iff {ε α : Type} {x : Except ε α} :
    x.toOption = none ↔ ∃ e, x = .error e := by
  cases x with
  | error e => simp [Except.toOption]
  | ok b => simp [Except.toOption]

theorem toOption_bind {ε α β : Type} (x : Except ε α) (f : α → Except ε β) :
    (x >>= f).toOption = x.toOption.bind fun a => (f a).toOption := by
  cases x with
  | error e => rfl
  | ok a => rfl

theorem readValue_string {s rest : Text} {l : Literal}
    (h : next? s = some ('"', l.body ++ '"' :: rest)) :
    (readValue s).toOption = l.text?.map (·, rest) := by
  rw [readValue, h]
  simp only
  rw [readString?_body]
  cases l.text? with
  | none => rfl
  | some s => rfl

theorem readValue_other {s t : Text} {c : Char} (h : next? s = some (c, t)) (hc : c ≠ '"') :
    (readValue s).toOption = none := by
  rw [readValue, h]
  split
  · next hnone => simp at hnone
  · next hquote => exact absurd (Prod.mk.inj (Option.some.inj hquote)).1 hc
  · rfl

theorem readValue_item (item : Padded Value) (rest : Text) :
    (readValue (item.toText ++ rest)).toOption =
      item.value.text?.map (·, item.after.text ++ rest) := by
  obtain ⟨c, t, hnext, -, hquote, ht⟩ := next?_item item rest
  cases hvalue : item.value with
  | string l =>
    rw [hvalue, Value.toText, Literal.toText, List.append_assoc] at ht
    obtain ⟨rfl, rfl⟩ := List.cons.inj ht
    exact readValue_string hnext
  | _ =>
    have hc : c ≠ '"' := by
      intro hc
      obtain ⟨l, hl⟩ := hquote hc
      rw [hvalue] at hl
      contradiction
    rw [readValue_other hnext hc]
    rfl

theorem readMember_member (d : Draft) (m : Member Value) {rest : Text} (hrest : EndsValue rest) :
    (readMember d (m.afterQuote rest)).toOption =
      (d.enter? m).map (·, m.item.after.text ++ rest) := by
  have hcolon : next? (m.key.after.text ++ ':' :: (m.item.toText ++ rest)) =
      some (':', m.item.toText ++ rest) := by
    exact next?_gap_cons m.key.after (by decide) _
  have hvalue := readValue_item m.item rest
  have hskip : skipValue? [] (m.item.toText ++ rest) = some (m.item.after.text ++ rest) := by
    rw [skipValue?_item (skipValue?_append m.item.value) [] hrest, skipRest?_nil]
  rw [readMember, Member.afterQuote, readString?_body, Draft.enter?]
  cases m.key.value.text? with
  | none => rfl
  | some key =>
    simp only [Option.map_some, Option.bind_some]
    cases Field.ofKey? key with
    | none =>
      simp only [hcolon, hskip]
      rfl
    | some field =>
      simp only [Draft.put?, hcolon]
      split
      · rfl
      · cases htext : m.item.value.text? with
        | none =>
          rw [htext] at hvalue
          obtain ⟨e, he⟩ := toOption_eq_none_iff.1 hvalue
          simp only [he]
          rfl
        | some s =>
          rw [htext] at hvalue
          have hok := toOption_eq_some_iff.1 hvalue
          simp only [hok]
          rfl

theorem readMembers_close (d : Draft) {s rest : Text} (h : next? s = some ('\x7d', rest)) :
    readMembers d s = .ok (d, rest) := by
  rw [readMembers]
  split
  · next after hclosing => rw [(next?_inj h hclosing).2]
  · next after hcomma => exact absurd (next?_inj h hcomma).1 (by decide)
  · next hother _ => exact absurd h (hother rest)

theorem readMembers_comma {d : Draft} {s t u : Text} (hs : next? s = some (',', t))
    (ht : next? t = some ('"', u)) :
    readMembers d s = readMember d u >>= fun p => readMembers p.1 p.2 := by
  rw [readMembers]
  split
  · next after hclosing => exact absurd (next?_inj hs hclosing).1 (by decide)
  · next after hcomma =>
    obtain ⟨-, rfl⟩ := next?_inj hs hcomma
    split
    · next after hquote =>
      obtain ⟨-, rfl⟩ := next?_inj ht hquote
      split
      · next d' after hmember =>
        dsimp only
        rw [hmember]
        rfl
      · next e hmember =>
        rw [hmember]
        rfl
    · next hother => exact absurd ht (hother u)
  · next _ hother => exact absurd hs (hother t)

theorem readMembers_members (members : List (Member Value)) (d : Draft) (gap : Gap) (rest : Text) :
    (readMembers d (gap.text ++ ((members.map Member.toText).flatMap (',' :: ·) ++
      '\x7d' :: rest))).toOption = (members.foldlM Draft.enter? d).map (·, rest) := by
  induction members generalizing d gap with
  | nil =>
    rw [List.map_nil, List.flatMap_nil, List.nil_append,
      readMembers_close d (next?_gap_cons gap (by decide) rest)]
    rfl
  | cons m members ih =>
    have hends := endsValue_flatMap (c := '\x7d') (by decide) (members.map Member.toText) rest
    rw [List.map_cons, List.flatMap_cons, List.cons_append, List.cons_append, List.append_assoc,
      readMembers_comma (next?_gap_cons gap (by decide) _) (next?_member m _), toOption_bind,
      readMember_member d m hends, List.foldlM_cons]
    cases d.enter? m with
    | none => rfl
    | some d' => exact ih d' m.item.after

theorem readObject_members (members : List (Member Value)) (gap : Gap) (rest : Text) :
    (readObject (contents gap (members.map Member.toText) ++ '\x7d' :: rest)).toOption =
      (members.foldlM Draft.enter? {}).map fun d => (d.config, rest) := by
  cases members with
  | nil =>
    rw [List.map_nil, contents, readObject, next?_gap_cons gap (by decide)]
    rfl
  | cons m members =>
    have hends := endsValue_flatMap (c := '\x7d') (by decide) (members.map Member.toText) rest
    rw [List.map_cons, contents, List.append_assoc, readObject, next?_member, List.foldlM_cons]
    simp only
    rw [toOption_bind, readMember_member {} m hends]
    cases Draft.enter? {} m with
    | none => rfl
    | some d =>
      simp only [Option.map_some, Option.bind_some, Option.bind_eq_bind]
      rw [toOption_bind, readMembers_members]
      cases members.foldlM Draft.enter? d with
      | none => rfl
      | some d' => rfl

theorem ofJson_toText (doc : Document) :
    (ofJson doc.toText).toOption = (doc.members.foldlM Draft.enter? {}).map (·.config) := by
  rw [Document.toText, ofJson, next?_object]
  simp only [if_true]
  rw [toOption_bind, readObject_members]
  cases doc.members.foldlM Draft.enter? {} with
  | none => rfl
  | some d =>
    simp only [Option.map_some, Option.bind_some, next?_gap_nil]
    rfl

/-! Known members -/

theorem values_cons_of_eq {m : Member Value} {f : Field} (h : m.key.value.text? = some f.key)
    (members : List (Member Value)) :
    values (m :: members) f = m.item.value.text? :: values members f := by
  unfold values
  rw [List.filter_cons_of_pos (by simp [h]), List.map_cons]

theorem values_cons_of_ne {m : Member Value} {f : Field} (h : m.key.value.text? ≠ some f.key)
    (members : List (Member Value)) : values (m :: members) f = values members f := by
  unfold values
  rw [List.filter_cons_of_neg (by simp [h])]

theorem ofKey?_key (f : Field) : Field.ofKey? f.key = some f := by
  cases f <;> decide

theorem key_injective {f g : Field} (h : f.key = g.key) : f = g := by
  have hf := ofKey?_key f
  rw [h, ofKey?_key] at hf
  exact (Option.some.inj hf).symm

theorem put?_eq_some_iff {d d' : Draft} {f : Field} {text : Option Text} :
    d.put? f text = some d' ↔ f ∉ d.fields ∧ ∃ s, text = some s ∧ d.put f s = d' := by
  unfold Draft.put?
  split
  · next h => simp [h]
  · next h =>
    rw [Option.map_eq_some_iff]
    simp [h]

theorem enter?_field {m : Member Value} {f : Field} (h : m.key.value.text? = some f.key)
    (d : Draft) : d.enter? m = d.put? f m.item.value.text? := by
  rw [Draft.enter?, h, Option.bind_some, ofKey?_key]

theorem enter?_other {m : Member Value} (hname : m.key.value.text? ≠ none)
    (hother : ∀ f : Field, m.key.value.text? ≠ some f.key) (d : Draft) :
    d.enter? m = some d := by
  obtain ⟨key, hkey⟩ := Option.ne_none_iff_exists'.1 hname
  have hnone : Field.ofKey? key = none := by
    rw [Option.eq_none_iff_forall_ne_some]
    intro f hf
    have : f.key = key := by simpa using List.find?_some hf
    exact hother f (by rw [hkey, this])
  rw [Draft.enter?, hkey, Option.bind_some, hnone]

theorem enter?_cases {d e : Draft} {m : Member Value} (h : d.enter? m = some e) :
    (∃ f s, m.key.value.text? = some f.key ∧ m.item.value.text? = some s ∧ f ∉ d.fields ∧
      d.put f s = e) ∨
    m.key.value.text? ≠ none ∧ (∀ f : Field, m.key.value.text? ≠ some f.key) ∧ d = e := by
  by_cases hfield : ∃ f : Field, m.key.value.text? = some f.key
  · obtain ⟨f, hname⟩ := hfield
    rw [enter?_field hname] at h
    obtain ⟨hnew, s, hitem, hput⟩ := put?_eq_some_iff.1 h
    exact .inl ⟨f, s, hname, hitem, hnew, hput⟩
  · have hother := not_exists.1 hfield
    have hname : m.key.value.text? ≠ none := by
      intro hname
      rw [Draft.enter?, hname] at h
      contradiction
    rw [enter?_other hname hother] at h
    exact .inr ⟨hname, hother, Option.some.inj h⟩

/-- Each field is there at most once, as a string, and only if it is not put yet. -/
def IsReadable (d : Draft) (members : List (Member Value)) : Prop :=
  ∀ f, values members f = [] ∨ f ∉ d.fields ∧ ∃ s, values members f = [some s]

theorem isReadable_put_iff {d : Draft} {m : Member Value} {f : Field} {s : Text}
    {members : List (Member Value)} (hname : m.key.value.text? = some f.key)
    (hitem : m.item.value.text? = some s) (hnew : f ∉ d.fields) :
    IsReadable (d.put f s) members ↔ IsReadable d (m :: members) := by
  apply forall_congr'
  intro g
  by_cases hg : g = f
  · subst hg
    simp [values_cons_of_eq hname, hitem, hnew, Draft.put]
  · have hother : m.key.value.text? ≠ some g.key := by
      rw [hname]
      exact fun h => hg (key_injective (Option.some.inj h)).symm
    simp [values_cons_of_ne hother, hg, Draft.put]

theorem isReadable_other_iff {d : Draft} {m : Member Value} {members : List (Member Value)}
    (hother : ∀ f : Field, m.key.value.text? ≠ some f.key) :
    IsReadable d (m :: members) ↔ IsReadable d members := by
  unfold IsReadable
  simp only [values_cons_of_ne (hother _)]

theorem isReadable_cons_iff {d : Draft} {m : Member Value} {members : List (Member Value)} :
    m.key.value.text? ≠ none ∧ IsReadable d (m :: members) ↔
      ∃ e, d.enter? m = some e ∧ IsReadable e members := by
  constructor
  · rintro ⟨hname, h⟩
    by_cases hfield : ∃ f : Field, m.key.value.text? = some f.key
    · obtain ⟨f, hname⟩ := hfield
      obtain hnil | ⟨hnew, s, hs⟩ := h f
      · rw [values_cons_of_eq hname] at hnil
        contradiction
      · rw [values_cons_of_eq hname] at hs
        have hitem := (List.cons.inj hs).1
        refine ⟨d.put f s, ?_, (isReadable_put_iff hname hitem hnew).2 h⟩
        rw [enter?_field hname, put?_eq_some_iff]
        exact ⟨hnew, s, hitem, rfl⟩
    · have hother := not_exists.1 hfield
      exact ⟨d, enter?_other hname hother d, (isReadable_other_iff hother).1 h⟩
  · rintro ⟨e, he, h⟩
    obtain ⟨f, s, hname, hitem, hnew, rfl⟩ | ⟨hname, hother, rfl⟩ := enter?_cases he
    · exact ⟨by simp [hname], (isReadable_put_iff hname hitem hnew).1 h⟩
    · exact ⟨hname, (isReadable_other_iff hother).2 h⟩

theorem isReadable_iff {members : List (Member Value)} {d : Draft} :
    (∀ m ∈ members, m.key.value.text? ≠ none) ∧ IsReadable d members ↔
      ∃ d', members.foldlM Draft.enter? d = some d' := by
  induction members generalizing d with
  | nil => simp [IsReadable, values]
  | cons m members ih =>
    rw [List.forall_mem_cons, and_assoc, and_left_comm, isReadable_cons_iff, List.foldlM_cons]
    constructor
    · rintro ⟨hnames, e, he, h⟩
      rw [he]
      exact ih.1 ⟨hnames, h⟩
    · rintro ⟨d', h⟩
      obtain ⟨e, he, h⟩ := Option.bind_eq_some_iff.1 h
      obtain ⟨hnames, h⟩ := ih.2 ⟨d', h⟩
      exact ⟨hnames, e, he, h⟩

theorem get_of_values_eq_nil {members : List (Member Value)} {d d' : Draft} {f : Field}
    (h : members.foldlM Draft.enter? d = some d') (hf : values members f = []) :
    d'.config.get f = d.config.get f := by
  induction members generalizing d with
  | nil =>
    obtain rfl := Option.some.inj h
    rfl
  | cons m members ih =>
    have hname : m.key.value.text? ≠ some f.key := by
      intro hname
      rw [values_cons_of_eq hname] at hf
      contradiction
    rw [values_cons_of_ne hname] at hf
    rw [List.foldlM_cons] at h
    obtain ⟨e, he, h⟩ := Option.bind_eq_some_iff.1 h
    rw [ih h hf]
    obtain ⟨g, s, hg, -, -, rfl⟩ | ⟨-, -, rfl⟩ := enter?_cases he
    · have hgf : g ≠ f := by
        rintro rfl
        exact hname hg
      rw [Draft.put, get_put, if_neg hgf]
    · rfl

theorem get_of_values_eq_singleton {members : List (Member Value)} {d d' : Draft} {f : Field}
    {s : Text} (h : members.foldlM Draft.enter? d = some d') (hf : values members f = [some s]) :
    d'.config.get f = s := by
  induction members generalizing d with
  | nil => contradiction
  | cons m members ih =>
    rw [List.foldlM_cons] at h
    obtain ⟨e, he, h⟩ := Option.bind_eq_some_iff.1 h
    by_cases hname : m.key.value.text? = some f.key
    · rw [values_cons_of_eq hname] at hf
      obtain ⟨hitem, hrest⟩ := List.cons.inj hf
      rw [enter?_field hname] at he
      obtain ⟨-, t, ht, rfl⟩ := put?_eq_some_iff.1 he
      obtain rfl := Option.some.inj (hitem.symm.trans ht)
      rw [get_of_values_eq_nil h hrest, Draft.put, get_put, if_pos rfl]
    · rw [values_cons_of_ne hname] at hf
      exact ih h hf

theorem exists_ofJson {doc : Document} (hnamed : doc.IsNamed)
    (h : ∀ f, values doc.members f = [] ∨ ∃ s, values doc.members f = [some s]) :
    ∃ c, ofJson doc.toText = .ok c ∧
      (∀ f s, values doc.members f = [some s] → c.get f = s) ∧
      ∀ f, values doc.members f = [] → c.get f = [] := by
  have hreadable : IsReadable {} doc.members :=
    fun f => (h f).imp_right fun hs => ⟨List.not_mem_nil, hs⟩
  obtain ⟨d, hd⟩ := isReadable_iff.1 ⟨hnamed, hreadable⟩
  refine ⟨d.config, ?_, fun f s hf => get_of_values_eq_singleton hd hf, fun f hf => ?_⟩
  · rw [← toOption_eq_some_iff, ofJson_toText, hd]
    rfl
  · rw [get_of_values_eq_nil hd hf]
    cases f <;> rfl

/-- An object with names that can be read is read if each field is there at most once, and as a
string; then the fields are the strings, or empty. Neither the order of the members, nor white
space, nor the members with other names play a part. With a field that is there twice, or not as a
string, no object is read. -/
theorem ofJson_document (doc : Document) :
    (doc.IsNamed → (∀ f, values doc.members f = [] ∨ ∃ s, values doc.members f = [some s]) →
      ∃ c, ofJson doc.toText = .ok c ∧
        (∀ f s, values doc.members f = [some s] → c.get f = s) ∧
        (∀ f, values doc.members f = [] → c.get f = []) ∧
        ∀ other : Document, other.IsNamed →
          (∀ f, (values other.members f).Perm (values doc.members f)) →
          ofJson other.toText = .ok c) ∧
    ((∃ f, 2 ≤ (values doc.members f).length ∨ none ∈ values doc.members f) →
      ∃ e, ofJson doc.toText = .error e) := by
  constructor
  · intro hnamed h
    obtain ⟨c, hc, hstring, hempty⟩ := exists_ofJson hnamed h
    refine ⟨c, hc, hstring, hempty, fun other hother hperm => ?_⟩
    have hsame : ∀ f, values other.members f = values doc.members f := by
      intro f
      obtain hnil | ⟨s, hs⟩ := h f
      · rw [hnil, ← List.perm_nil, ← hnil]
        exact hperm f
      · rw [hs, ← List.perm_singleton, ← hs]
        exact hperm f
    simp only [← hsame] at h hstring hempty
    obtain ⟨c', hc', hstring', hempty'⟩ := exists_ofJson hother h
    suffices c' = c by rw [hc', this]
    apply eq_of_get_eq
    intro f
    obtain hnil | ⟨s, hs⟩ := h f
    · rw [hempty f hnil, hempty' f hnil]
    · rw [hstring f s hs, hstring' f s hs]
  · rintro ⟨f, hwrong⟩
    rw [← toOption_eq_none_iff, ofJson_toText, Option.map_eq_none_iff,
      Option.eq_none_iff_forall_ne_some]
    intro d hd
    obtain hnil | ⟨-, s, hs⟩ := (isReadable_iff.2 ⟨d, hd⟩).2 f
    · simp [hnil] at hwrong
    · simp [hs] at hwrong

def space : Gap where
  text := [' ']
  blank := List.forall_mem_singleton.2 (by decide)

def nested : Document where
  before := space
  gap := .empty
  members :=
    [⟨⟨.empty, Literal.plain "no_proxy".toList (by decide), space⟩,
        ⟨space, .string (Literal.plain ['b'] (by decide)), .empty⟩⟩,
      ⟨.bare (Literal.plain ['x'] (by decide)), .bare (.list .empty
        [.bare (.object .empty [⟨.bare (Literal.plain "http_proxy".toList (by decide)),
            .bare (.string [.unit 'd' '8' '0' '0' 0xD800 (by decide)])⟩]),
          .bare (.number ['-', '7'] ⟨['-'], ['7'], [], [], by decide,
            ⟨⟨by decide, List.forall_mem_singleton.2 (by decide)⟩, by decide⟩, .inl rfl, .inl rfl,
            rfl⟩)])⟩,
      ⟨.bare (Literal.plain ['x'] (by decide)), .bare (.word "null".toList (by decide))⟩,
      ⟨.bare (Literal.plain "http".toList (by decide) ++ .unit '0' '0' '5' 'f' 0x5F (by decide) ::
          Literal.plain "proxy".toList (by decide)),
        .bare (.string (Literal.plain ['a'] (by decide)))⟩]
  after := .empty

def short : Document where
  before := .empty
  gap := .empty
  members :=
    [⟨.bare (Literal.plain "http_proxy".toList (by decide)),
        .bare (.string (Literal.plain ['a'] (by decide)))⟩,
      ⟨.bare (Literal.plain "no_proxy".toList (by decide)),
        .bare (.string (Literal.plain ['b'] (by decide)))⟩]
  after := .empty

def repeated : Document where
  before := .empty
  gap := .empty
  members := short.members ++ short.members
  after := .empty

theorem ofJson_nested :
    nested.toText = (" \x7b\"no_proxy\" : \"b\",\"x\":[\x7b\"http_proxy\":\"\\ud800\"\x7d,-7]," ++
      "\"x\":null,\"http\\u005fproxy\":\"a\"\x7d").toList ∧
    short.toText = "\x7b\"http_proxy\":\"a\",\"no_proxy\":\"b\"\x7d".toList ∧
    (∃ c, ofJson nested.toText = .ok c ∧ c.get .httpProxy = ['a'] ∧ c.get .httpsProxy = [] ∧
      c.get .noProxy = ['b'] ∧ ofJson short.toText = .ok c) ∧
    ∃ e, ofJson repeated.toText = .error e := by
  have hhttp : values nested.members .httpProxy = [some ['a']] := by decide +kernel
  have hhttps : values nested.members .httpsProxy = [] := by decide +kernel
  have hno : values nested.members .noProxy = [some ['b']] := by decide +kernel
  have hnamed : ∀ m ∈ nested.members, m.key.value.text? ≠ none := by decide +kernel
  have hshort : ∀ m ∈ short.members, m.key.value.text? ≠ none := by decide +kernel
  refine ⟨by decide +kernel, by decide +kernel, ?_, ?_⟩
  · obtain ⟨c, hc, hstring, hempty, hother⟩ := (ofJson_document nested).1 hnamed (by
      intro f
      cases f with
      | httpProxy => exact .inr ⟨_, hhttp⟩
      | httpsProxy => exact .inl hhttps
      | noProxy => exact .inr ⟨_, hno⟩)
    refine ⟨c, hc, hstring _ _ hhttp, hempty _ hhttps, hstring _ _ hno, hother short hshort ?_⟩
    intro f
    cases f <;> decide +kernel
  · exact (ofJson_document repeated).2 ⟨.httpProxy, .inl (by decide +kernel)⟩

end ForwardProxy.Config
