import ForwardProxy.Proofs.Url.Target
import ForwardProxy.Uri

/-!
This module contains the theory of URIs. Main statement: `map_target_parse_toText` says that a text
and the URI that is read from it lead to the same place, or nowhere for the same cause.
-/

namespace ForwardProxy

theorem Url.parse_slash (s : Text) : parse ('/' :: s) = .error .missingBase := by
  have hclean : clean (['/'] ++ s) = ['/'] ++ cleanEnd s := by
    apply clean_append (by simp)
    exact List.forall_mem_singleton.2 rfl
  unfold parse
  rw [← List.singleton_append, hclean, List.singleton_append, cutScheme?_eq_none _ rfl]

namespace Uri

def isAuthorityChar (c : Char) : Bool :=
  (c = '%' || isUriChar c) && !endsAuthority c

theorem Scan.next_of_foreign {c : Char} (hpercent : c ≠ '%') (hchar : isUriChar c = false)
    (scan : Scan) : scan.next c = .error .invalidCharacter := by
  have hsigns : ∀ sign ∈ [':', '[', ']', '@'], c ≠ sign := by
    have hchars : ∀ sign ∈ [':', '[', ']', '@'], isUriChar sign = true :=
      List.all_eq_true.1 (by decide)
    rintro sign hsign rfl
    rw [hchars c hsign] at hchar
    contradiction
  simp only [List.forall_mem_cons] at hsigns
  unfold next
  dsimp only
  rw [if_neg hsigns.1, if_neg hsigns.2.1, if_neg hsigns.2.2.1, if_neg hsigns.2.2.2.1]
  rw [if_neg hpercent, if_neg (ne_true_of_eq_false hchar)]

theorem Scan.foldlM_next_eq_ok {scan scan' : Scan} {s : Text}
    (h : s.foldlM Scan.next scan = .ok scan') : ∀ c ∈ s, c = '%' ∨ isUriChar c = true := by
  induction s generalizing scan with
  | nil => exact List.forall_mem_nil _
  | cons d s ih =>
    rw [List.foldlM_cons] at h
    obtain ⟨between, hnext, hrest⟩ := bind_eq_ok_iff.1 h
    rw [List.forall_mem_cons]
    refine ⟨?_, ih hrest⟩
    by_contra hforeign
    rw [not_or, Bool.not_eq_true] at hforeign
    rw [Scan.next_of_foreign hforeign.1 hforeign.2] at hnext
    contradiction

theorem readAuthority_eq_ok {s authority rest : Text}
    (h : readAuthority s = .ok (authority, rest)) :
    s = authority ++ rest ∧ (∀ c ∈ authority, isAuthorityChar c = true) ∧ authority ≠ ['@'] ∧
      ∀ c ∈ rest.head?, endsAuthority c = true := by
  unfold readAuthority at h
  dsimp only at h
  split at h
  · contradiction
  · obtain ⟨scan, hscan, h⟩ := bind_eq_ok_iff.1 h
    split at h
    · next hcomplete =>
      rw [pure_eq_ok_iff, Prod.mk.injEq, Text.drop_length_takeWhile] at h
      obtain ⟨rfl, rfl⟩ := h
      refine ⟨List.takeWhile_append_dropWhile.symm, ?_, ?_, ?_⟩
      · intro c hc
        have hchar := Scan.foldlM_next_eq_ok hscan c hc
        have hends := List.mem_takeWhile_imp hc
        simp only [isAuthorityChar, Bool.and_eq_true, Bool.or_eq_true, decide_eq_true_eq]
        exact ⟨hchar, hends⟩
      · intro hat
        rw [hat] at hscan
        rw [← Except.ok.inj hscan] at hcomplete
        contradiction
      · intro c hc
        simpa using Text.head?_dropWhile hc
    · contradiction

def queryText (query : Option Text) : Text :=
  (query.map ('?' :: ·)).getD []

theorem endsPath_of_isPathChar {c : Char} (h : isPathChar c = true) : Url.endsPath c = false := by
  simp only [isPathChar, Bool.and_eq_true, Bool.not_eq_true', decide_eq_false_iff_not,
    List.mem_cons, not_or] at h
  simp [Url.endsPath, h]

theorem queryText_start (query : Option Text) : ∀ c ∈ (queryText query).head?, c = '?' := by
  intro c hc
  cases query with
  | none => contradiction
  | some query => exact (Option.some.inj hc).symm

theorem readPath_eq_ok {s path : Text} {query : Option Text} (h : readPath s = .ok (path, query)) :
    ∃ fragment, s = path ++ (queryText query ++ fragment) ∧ (∀ c ∈ path, isPathChar c = true) ∧
      (∀ c ∈ queryText query, isQueryChar c = true) ∧ ∀ c ∈ fragment.head?, c = '#' := by
  have hs : s = s.takeWhile isPathChar ++ s.dropWhile isPathChar :=
    List.takeWhile_append_dropWhile.symm
  have hpath : ∀ c ∈ s.takeWhile isPathChar, isPathChar c = true := fun c => List.mem_takeWhile_imp
  unfold readPath at h
  dsimp only at h
  rw [Text.drop_length_takeWhile] at h
  split at h
  · next hrest =>
    rw [hrest] at hs
    cases h
    exact ⟨[], hs, hpath, List.forall_mem_nil _, by simp⟩
  · next fragment hrest =>
    rw [hrest] at hs
    cases h
    exact ⟨_, hs, hpath, List.forall_mem_nil _, by simp⟩
  · next rest hrest =>
    have hend : rest = rest.takeWhile isQueryChar ++ rest.dropWhile isQueryChar :=
      List.takeWhile_append_dropWhile.symm
    have hquery : ∀ c ∈ '?' :: rest.takeWhile isQueryChar, isQueryChar c = true :=
      List.forall_mem_cons.2 ⟨by decide, fun c => List.mem_takeWhile_imp⟩
    rw [Text.drop_length_takeWhile] at h
    rw [hrest, hend] at hs
    split at h
    · next hfragment =>
      rw [hfragment] at hs
      cases h
      exact ⟨[], hs, hpath, hquery, by simp⟩
    · next fragment hfragment =>
      rw [hfragment] at hs
      cases h
      exact ⟨_, hs, hpath, hquery, by simp⟩
    · contradiction
  · contradiction

theorem isSchemeChar_toLower (c : Char) : isSchemeChar c.toLower = isSchemeChar c :=
  Text.apply_toLower (by decide) c

theorem isSchemeChar_of_map_toLower {s t : Text} (h : s.map Char.toLower = t.map Char.toLower)
    (hs : ∀ c ∈ s, isSchemeChar c = true) : ∀ c ∈ t, isSchemeChar c = true := by
  intro c hc
  have hmem : c.toLower ∈ s.map Char.toLower := by
    rw [h]
    exact List.mem_map_of_mem hc
  obtain ⟨d, hd, hlower⟩ := List.mem_map.1 hmem
  rw [← isSchemeChar_toLower, ← hlower, isSchemeChar_toLower]
  exact hs d hd

theorem dropIgnoringCase?_eq_some {scheme s rest : Text}
    (h : dropIgnoringCase? (scheme ++ "://".toList) s = some rest) :
    ∃ written, s = written ++ ':' :: '/' :: '/' :: rest ∧ written.map Char.toLower = scheme := by
  unfold dropIgnoringCase? at h
  split at h
  · next hstart =>
    obtain ⟨written, slashes, htake, hwritten, hslashes⟩ := List.map_eq_append_iff.1 hstart
    -- There is no letter after the scheme, so this part can only be written in one way.
    have hupper : ∀ c ∈ slashes, c.isUpper = false := by
      have hsigns : ∀ c ∈ "://".toList, (!c.isAlpha) = true := List.all_eq_true.1 (by decide)
      intro c hc
      have halpha := hsigns c.toLower (hslashes ▸ List.mem_map_of_mem hc)
      rw [Text.apply_toLower (f := Char.isAlpha) (by decide), Bool.not_eq_true'] at halpha
      exact (Bool.or_eq_false_iff.1 halpha).1
    rw [Text.map_toLower_eq_self hupper] at hslashes
    refine ⟨written, ?_, hwritten⟩
    have hs := List.take_append_drop (scheme ++ "://".toList).length s
    rw [htake, hslashes, Option.some.inj h, List.append_assoc] at hs
    exact hs.symm
  · contradiction

theorem exists_written_of_web {web s rest : Text} (hinside : ∀ c ∈ web, isSchemeChar c = true)
    (hlower : web.map Char.toLower = web)
    (h : dropIgnoringCase? (web ++ "://".toList) s = some rest) :
    ∃ written, s = written ++ ':' :: '/' :: '/' :: rest ∧ (∀ c ∈ written, isSchemeChar c = true) ∧
      written.map Char.toLower = web.map Char.toLower := by
  obtain ⟨written, hs, hwritten⟩ := dropIgnoringCase?_eq_some h
  rw [← hlower] at hwritten
  exact ⟨written, hs, isSchemeChar_of_map_toLower hwritten.symm hinside, hwritten⟩

theorem cutScheme_eq_ok {s scheme rest : Text} (h : cutScheme s = .ok (some (scheme, rest))) :
    ∃ written, s = written ++ ':' :: '/' :: '/' :: rest ∧ (∀ c ∈ written, isSchemeChar c = true) ∧
      written.map Char.toLower = scheme.map Char.toLower := by
  unfold cutScheme at h
  split at h
  · next hhttp =>
    cases h
    exact exists_written_of_web (List.all_eq_true.1 (by decide)) rfl hhttp
  · next hhttps =>
    cases h
    exact exists_written_of_web (List.all_eq_true.1 (by decide)) rfl hhttps
  · dsimp only at h
    rw [Text.drop_length_takeWhile] at h
    split at h
    · next hdrop =>
      split at h
      · simp at h
      · split at h
        · contradiction
        · cases h
          refine ⟨s.takeWhile isSchemeChar, ?_, fun c => List.mem_takeWhile_imp, rfl⟩
          have hrest := Text.dropStart?_eq_some_iff.1 hdrop
          have hs := List.takeWhile_append_dropWhile (p := isSchemeChar) (l := s)
          rw [hrest] at hs
          exact hs.symm
    · simp at h

def cleanFragment : Text → Text
  | [] => []
  | sign :: rest => sign :: Url.cleanEnd rest

theorem head?_cleanFragment (s : Text) : (cleanFragment s).head? = s.head? := by
  cases s with
  | nil => rfl
  | cons sign rest => rfl

/-- The parts of a text that is a URI with a scheme. Query and fragment start with their signs. -/
structure Parts where
  scheme : Text
  authority : Text
  path : Text
  query : Text
  fragment : Text
  scheme_inside : ∀ c ∈ scheme, isSchemeChar c = true
  authority_inside : ∀ c ∈ authority, isAuthorityChar c = true
  authority_ne_nil : authority ≠ []
  authority_ne_at : authority ≠ ['@']
  path_start : ∀ c ∈ path.head?, c = '/'
  path_inside : ∀ c ∈ path, isPathChar c = true
  query_start : ∀ c ∈ query.head?, c = '?'
  query_inside : ∀ c ∈ query, isQueryChar c = true
  fragment_start : ∀ c ∈ fragment.head?, c = '#'

namespace Parts

variable (p : Parts)

def front : Text :=
  p.scheme ++ ':' :: '/' :: '/' :: (p.authority ++ (p.path ++ p.query))

def toText : Text :=
  p.front ++ p.fragment

def clean : Parts where
  __ := p
  fragment := cleanFragment p.fragment
  fragment_start := by
    rw [head?_cleanFragment]
    exact p.fragment_start

theorem isMargin_front : ∀ c ∈ p.front, Url.isMargin c = false := by
  intro c hc
  simp only [front, List.mem_append, List.mem_cons] at hc
  rcases hc with hc | rfl | rfl | rfl | hc | hc | hc
  · exact Url.isMargin_eq_false (by decide) (p.scheme_inside c hc)
  · rfl
  · rfl
  · rfl
  · exact Url.isMargin_eq_false (by decide) (p.authority_inside c hc)
  · exact Url.isMargin_eq_false (by decide) (p.path_inside c hc)
  · exact Url.isMargin_eq_false (by decide) (p.query_inside c hc)

theorem clean_toText : Url.clean p.toText = p.clean.toText := by
  have hclean : p.clean.toText = p.front ++ cleanFragment p.fragment := rfl
  rw [hclean, toText]
  cases hfragment : p.fragment with
  | nil => rw [List.append_nil, Url.clean_eq_self p.isMargin_front, cleanFragment, List.append_nil]
  | cons sign rest =>
    have hsign : sign = '#' := p.fragment_start sign (by rw [hfragment]; rfl)
    have hkept : ∀ c ∈ p.front ++ [sign], Url.isMargin c = false := by
      intro c hc
      cases List.mem_append.1 hc with
      | inl hc => exact p.isMargin_front c hc
      | inr hc =>
        rw [List.mem_singleton.1 hc, hsign]
        rfl
    -- The sign of the fragment is kept as well.
    rw [List.append_cons, Url.clean_append (by simp) hkept, ← List.append_cons, cleanFragment]

def toUrl : Url.Parts where
  scheme := p.scheme
  authority := p.authority
  path := p.path
  tail := p.query ++ p.fragment
  scheme_colon hmem := absurd (p.scheme_inside _ hmem) (by decide)
  authority_ne_nil := p.authority_ne_nil
  authority_ne_at := p.authority_ne_at
  authority_inside := by
    have hends : ∀ c ∈ ['/', '\\', '?', '#'], (!isAuthorityChar c) = true :=
      List.all_eq_true.1 (by decide)
    intro c hc hmem
    have hnot := hends c hmem
    rw [p.authority_inside c hc] at hnot
    exact Bool.false_ne_true hnot
  path_start := p.path_start
  path_inside c hc := endsPath_of_isPathChar (p.path_inside c hc)
  tail_start := by
    intro c hc
    rw [List.head?_append, Option.mem_def, Option.or_eq_some_iff] at hc
    rcases hc with hc | ⟨-, hc⟩
    · rw [p.query_start c hc]
      rfl
    · rw [p.fragment_start c hc]
      rfl

theorem toText_toUrl : p.toUrl.toText = p.toText := by
  simp [toUrl, toText, front, Url.Parts.toText, Url.Parts.afterScheme]

theorem map_target_parse :
    (Url.parse p.toText).map Url.target =
      if Url.isScheme p.scheme then
        Url.readTarget (p.scheme.map Char.toLower) p.authority p.path.tail
      else .error .missingBase :=
  p.clean.toUrl.map_target_parse (p.clean_toText.trans p.clean.toText_toUrl.symm)

theorem map_target_parse_congr {p q : Parts}
    (hscheme : p.scheme.map Char.toLower = q.scheme.map Char.toLower)
    (hauthority : p.authority = q.authority) (hpath : p.path.tail = q.path.tail) :
    (Url.parse p.toText).map Url.target = (Url.parse q.toText).map Url.target := by
  have hisScheme : Url.isScheme p.scheme = Url.isScheme q.scheme := by
    rw [← Url.isScheme_map_toLower, hscheme, Url.isScheme_map_toLower]
  rw [map_target_parse, map_target_parse, hisScheme, hscheme, hauthority, hpath]

variable {scheme : Text} (h : p.scheme.map Char.toLower = scheme.map Char.toLower)

def normal : Parts where
  __ := p
  scheme
  path := if p.path.isEmpty then ['/'] else p.path
  fragment := []
  scheme_inside := isSchemeChar_of_map_toLower h p.scheme_inside
  path_start := by
    split
    · simp
    · exact p.path_start
  path_inside := by
    split
    · exact List.forall_mem_singleton.2 (by decide)
    · exact p.path_inside
  fragment_start := by simp

theorem tail_path_normal : (p.normal h).path.tail = p.path.tail := by
  unfold normal
  dsimp only
  split
  · next hempty => rw [List.isEmpty_iff.1 hempty]; rfl
  · rfl

theorem map_target_parse_normal :
    (Url.parse (p.normal h).toText).map Url.target = (Url.parse p.toText).map Url.target :=
  map_target_parse_congr h.symm rfl (p.tail_path_normal h)

end Parts

theorem exists_parts {s scheme authority path after rest : Text} {query : Option Text}
    (hscheme : cutScheme s = .ok (some (scheme, after)))
    (hauthority : readAuthority after = .ok (authority, rest)) (hne : authority ≠ [])
    (hpath : readPath rest = .ok (path, query)) :
    ∃ p : Parts, s = p.toText ∧ p.scheme.map Char.toLower = scheme.map Char.toLower ∧
      p.authority = authority ∧ p.path = path ∧ p.query = queryText query := by
  obtain ⟨written, hs, hwritten, hlower⟩ := cutScheme_eq_ok hscheme
  obtain ⟨hafter, hinside, hat, hends⟩ := readAuthority_eq_ok hauthority
  obtain ⟨fragment, hrest, hpathInside, hqueryInside, hfragment⟩ := readPath_eq_ok hpath
  -- What follows an authority is no part of it, and of what ends one only a slash is in a path.
  have hstart : ∀ c ∈ path.head?, c = '/' := by
    intro c hc
    have hend := hends c (by rw [hrest, List.head?_append, Option.mem_def.1 hc]; rfl)
    have hpathEnd := endsPath_of_isPathChar (hpathInside c (List.mem_of_mem_head? hc))
    unfold endsAuthority at hend
    rw [Bool.or_assoc, ← Url.endsPath, hpathEnd, Bool.or_false, decide_eq_true_eq] at hend
    exact hend
  refine ⟨⟨written, authority, path, queryText query, fragment, hwritten, hinside, hne, hat, hstart,
    hpathInside, queryText_start query, hqueryInside, hfragment⟩, ?_, hlower, rfl, rfl, rfl⟩
  rw [hs, hafter, hrest]
  simp [Parts.toText, Parts.front]

theorem toText_of_readPath {s path : Text} {query : Option Text}
    (h : readPath ('/' :: s) = .ok (path, query)) :
    ∃ t, toText ⟨none, none, path, query⟩ = '/' :: t := by
  obtain ⟨fragment, hs, -, -, hfragment⟩ := readPath_eq_ok h
  rw [← List.append_assoc] at hs
  rcases List.cons_eq_append_iff.1 hs with ⟨-, hslash⟩ | ⟨t, hfront, -⟩
  · rw [hslash] at hfragment
    exact absurd (hfragment '/' rfl) (by decide)
  · exact ⟨t, hfront⟩

theorem toText_of_readAuthority {s : Text} {u : Uri} {e : ParseError}
    (h : (do
      let (authority, rest) ← readAuthority s
      if rest.isEmpty then return ofAuthority authority else throw e) = Except.ok u) :
    u.toText = s := by
  obtain ⟨⟨authority, rest⟩, hauthority, h⟩ := bind_eq_ok_iff.1 h
  dsimp only at h
  split at h
  · next hempty =>
    rw [pure_eq_ok_iff] at h
    rw [← h, (readAuthority_eq_ok hauthority).1, List.isEmpty_iff.1 hempty]
    simp [toText, ofAuthority]
  · contradiction

theorem map_target_parse_toText {s : Text} {u : Uri} (h : parse s = .ok u) :
    (Url.parse u.toText).map Url.target = (Url.parse s).map Url.target := by
  unfold parse at h
  dsimp only at h
  split at h
  · contradiction
  · split at h
    · contradiction
    · rw [pure_eq_ok_iff] at h
      rw [← h]
      rfl
    · obtain ⟨⟨path, query⟩, hpath, h⟩ := bind_eq_ok_iff.1 h
      rw [pure_eq_ok_iff] at h
      obtain ⟨t, ht⟩ := toText_of_readPath hpath
      rw [← h, ht, Url.parse_slash, Url.parse_slash]
    · rw [toText_of_readAuthority h]
    · obtain ⟨cut, hcut, h⟩ := bind_eq_ok_iff.1 h
      cases cut with
      | none => rw [toText_of_readAuthority h]
      | some cut =>
        obtain ⟨⟨authority, rest⟩, hauthority, h⟩ := bind_eq_ok_iff.1 h
        dsimp only at h
        split at h
        · contradiction
        · next hempty =>
          obtain ⟨⟨path, query⟩, hpath, h⟩ := bind_eq_ok_iff.1 h
          rw [pure_eq_ok_iff] at h
          have hne : authority ≠ [] := fun hnil => hempty (List.isEmpty_iff.2 hnil)
          obtain ⟨p, hs, hscheme, rfl, rfl, hquery⟩ := exists_parts hcut hauthority hne hpath
          have hu : u.toText = (p.normal hscheme).toText := by
            rw [← h]
            simp [toText, Parts.toText, Parts.front, Parts.normal, hquery, queryText]
          rw [hu, hs, p.map_target_parse_normal hscheme]

end Uri

end ForwardProxy
