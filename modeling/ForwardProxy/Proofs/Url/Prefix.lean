import ForwardProxy.Proofs.Url.Presence

/-!
This module contains what a text with a scheme of its own is after `http://`. Main statements:
`parse_http_append_of_not_mem` says when the scheme becomes the host, and `parse_http_append_of_mem`
when the host stays the same.
-/

namespace ForwardProxy.Url

def lead (s : Text) : Text :=
  (s.takeWhile isMargin).filter fun c => !(c ∈ ['\t', '\n', '\r'])

theorem isMargin_of_mem_lead {s : Text} {c : Char} (h : c ∈ lead s) : isMargin c = true :=
  List.mem_takeWhile_imp (List.mem_of_mem_filter h)

theorem cleanEnd_eq_lead_append {s : Text} (h : clean s ≠ []) :
    cleanEnd s = lead s ++ clean s := by
  have hne : (s.dropWhile isMargin).reverse.dropWhile isMargin ≠ [] := by
    intro hnil
    unfold clean at h
    rw [hnil] at h
    exact h rfl
  have hreverse : s.reverse = (s.dropWhile isMargin).reverse ++ (s.takeWhile isMargin).reverse := by
    rw [← List.reverse_append, List.takeWhile_append_dropWhile]
  -- Something follows the margin at the start, so the cut at the end does not reach it.
  unfold cleanEnd
  rw [hreverse, List.dropWhile_append, if_neg (by simpa using hne)]
  rw [List.reverse_append, List.reverse_reverse, List.filter_append]
  rfl

theorem serverText_of_front {front rest : Text} (hne : front ≠ [])
    (h : ∀ c ∈ front, isFront c = true) :
    serverText ('/' :: '/' :: (front ++ ':' :: rest)) = front ++ ':' :: beforePath rest := by
  have hfront : ∀ c ∈ front, c ∉ ['/', '\\', '?', '#'] := by
    intro c hc hmem
    apply (plain_of_isFront (h c hc)).2
    simp only [List.mem_cons, List.not_mem_nil, or_false] at hmem ⊢
    tauto
  rw [serverText_append hne hfront]
  rfl

theorem isSlash_of_beforePath {c : Char} {s : Text} (h : beforePath (c :: s) ≠ []) :
    isSlash c = false := by
  unfold beforePath at h
  by_contra hslash
  apply h
  rw [List.takeWhile_cons_of_neg]
  simp only [isSlash, Bool.not_eq_false, Bool.or_eq_true, decide_eq_true_eq] at hslash
  rcases hslash with rfl | rfl
  · decide
  · decide

theorem serverText_eq_beforePath {s : Text} (h : beforePath s ≠ []) :
    serverText s = beforePath s := by
  cases s with
  | nil => rfl
  | cons c s =>
    unfold serverText
    rw [List.dropWhile_cons_of_neg (ne_true_of_eq_false (isSlash_of_beforePath h))]

variable {p written rest : Text} {u : Url} {host : Host}

theorem isSlash_of_parseFile {c : Char} {s : Text} (h : parseFile (c :: s) = .ok u)
    (hhost : u.host? = some host) : isSlash c = true := by
  by_contra hslash
  have hfile : parseFile (c :: s) = .ok (assembleFile none (dropSlash (c :: s))) := by
    cases s with
    | nil => rfl
    | cons d s =>
      unfold parseFile
      dsimp only
      rw [if_neg (by simp [hslash])]
      rfl
  rw [hfile, Except.ok.injEq] at h
  rw [← h] at hhost
  have := eq_of_host?_assembleFile hhost
  contradiction

theorem isSlash_of_parseGeneric {scheme : Text} {c : Char} {s : Text}
    (h : parseGeneric scheme (c :: s) = .ok u) (hhost : u.host? = some host) :
    isSlash c = true := by
  by_contra hslash
  have hhostless : isHostless (c :: s) = true := by
    apply isHostless_of_ne
    intro rest heq
    rw [(List.cons.inj heq).1] at hslash
    exact hslash rfl
  obtain ⟨v, hv, hnone⟩ := parseGeneric_host?_eq_none_iff.2 hhostless
  rw [h, Except.ok.injEq] at hv
  rw [← hv, hhost] at hnone
  contradiction

theorem parseServer_of_parse {c : Char} {s : Text}
    (hcut : cutScheme? (clean p) = some (u.scheme, c :: s)) (hslash : isSlash c = false)
    (h : parse p = .ok u) (hhost : u.host? = some host) :
    ∃ defaultPort, parseServer u.scheme defaultPort (c :: s) = .ok u := by
  unfold parse at h
  rw [hcut] at h
  dsimp only at h
  -- In URLs of the other two kinds no host follows the colon without slashes.
  split at h
  · next defaultPort _ => exact ⟨defaultPort, h⟩
  · exact absurd (isSlash_of_parseFile h hhost) (ne_true_of_eq_false hslash)
  · exact absurd (isSlash_of_parseGeneric h hhost) (ne_true_of_eq_false hslash)

theorem lead_append_ne_nil (h : isScheme written = true) : lead p ++ written ≠ [] := by
  intro hnil
  rw [(List.append_eq_nil_iff.1 hnil).2] at h
  contradiction

theorem isFront_of_mem_lead_append (h : isScheme written = true) :
    ∀ c ∈ lead p ++ written, isFront c = true := by
  intro c hc
  cases List.mem_append.1 hc with
  | inl hc => rw [isFront, isMargin_of_mem_lead hc, Bool.true_or]
  | inr hc => exact isFront_of_mem_scheme h c hc

theorem serverHost_lead_append_iff (h : isScheme written = true) :
    serverHost (lead p ++ written) = .ok host ↔ lead p = [] ∧
      host = .domain (written.map Char.toLower) ∧
      serverHost (written.map Char.toLower) = .ok (.domain (written.map Char.toLower)) := by
  rw [serverHost_map_toLower h]
  constructor
  · intro hhost
    -- A name holds no blank or control, so none can have stayed before the scheme.
    have hmargin := isMargin_of_serverHost (isFront_of_mem_lead_append h) hhost
    have hlead : lead p = [] := by
      rw [List.eq_nil_iff_forall_not_mem]
      intro c hc
      have := hmargin c (List.mem_append_left _ hc)
      rw [isMargin_of_mem_lead hc] at this
      contradiction
    rw [hlead, List.nil_append] at hhost
    have hdomain := serverHost_of_isScheme h hhost
    rw [hdomain] at hhost
    exact ⟨hlead, hdomain, hhost⟩
  · rintro ⟨hlead, rfl, hhost⟩
    rw [hlead, List.nil_append]
    exact hhost

theorem parse_http_append (hclean : clean p = written ++ ':' :: rest) :
    parse ("http://".toList ++ p) =
      parseServer "http".toList 80 ('/' :: '/' :: (lead p ++ written ++ ':' :: rest)) := by
  have hne : clean p ≠ [] := by
    rw [hclean]
    simp
  have hcut : cutScheme? (clean ("http://".toList ++ p)) =
      some ("http".toList, '/' :: '/' :: (lead p ++ written ++ ':' :: rest)) := by
    rw [clean_http_append, cleanEnd_eq_lead_append hne, hclean, List.append_assoc]
    have hscheme : isScheme "http".toList = true := by decide
    exact cutScheme?_append hscheme _
  exact parse_of_server hcut (by decide)

theorem parse_http_append_host?_iff (hclean : clean p = written ++ ':' :: rest)
    (h : isScheme written = true) :
    (∃ v, parse ("http://".toList ++ p) = .ok v ∧ v.host? = some host) ↔
      let raw := RawAuthority.cut (lead p ++ written ++ ':' :: beforePath rest)
      raw.host ≠ [] ∧ serverHost raw.host = .ok host ∧ ∃ port, readPort raw.port = .ok port := by
  rw [parse_http_append hclean, parseServer_host?_iff]
  rw [serverText_of_front (lead_append_ne_nil h) (isFront_of_mem_lead_append h)]
  rw [serverAuthority_host_iff]

theorem parse_http_append_of_not_mem (hclean : clean p = written ++ ':' :: rest)
    (h : isScheme written = true) (hat : '@' ∉ beforePath rest) :
    (∃ v, parse ("http://".toList ++ p) = .ok v ∧ v.host? = some host) ↔ lead p = [] ∧
      host = .domain (written.map Char.toLower) ∧
      serverHost (written.map Char.toLower) = .ok (.domain (written.map Char.toLower)) ∧
      ∃ port, readPort (':' :: beforePath rest) = .ok port := by
  have hfront := isFront_of_mem_lead_append (p := p) h
  have hmem : ∀ c ∈ ['%', ':', '@', '[', '/', '\\', '?', '#'], c ∉ lead p ++ written := by
    intro c hc hfrontc
    exact (plain_of_isFront (hfront c hfrontc)).2 hc
  have hcut : RawAuthority.cut (lead p ++ written ++ ':' :: beforePath rest) =
      ⟨none, lead p ++ written, ':' :: beforePath rest⟩ := by
    rw [RawAuthority.cut_of_not_mem]
    · rw [cutHost_append_colon (hmem _ (by decide)) (hmem _ (by decide))]
    · rw [List.mem_append, List.mem_cons, not_or, not_or]
      exact ⟨hmem _ (by decide), by decide, hat⟩
  rw [parse_http_append_host?_iff hclean h, hcut]
  dsimp only
  rw [serverHost_lead_append_iff h]
  simp only [lead_append_ne_nil h, ne_eq, not_false_eq_true, true_and, and_assoc]

theorem parse_http_append_of_mem (hcut : cutScheme? (clean p) = some (u.scheme, rest))
    (hat : '@' ∈ beforePath rest) (hparse : parse p = .ok u) (hhost : u.host? = some host) :
    ∃ v, parse ("http://".toList ++ p) = .ok v ∧ v.host? = some host := by
  obtain ⟨written, h, -, hclean⟩ := cutScheme?_eq_some hcut
  have hne : beforePath rest ≠ [] := List.ne_nil_of_mem hat
  have hserver : ∃ defaultPort, parseServer u.scheme defaultPort rest = .ok u := by
    cases rest with
    | nil => contradiction
    | cons c rest => exact parseServer_of_parse hcut (isSlash_of_beforePath hne) hparse hhost
  obtain ⟨defaultPort, hserver⟩ := hserver
  have hauthority := serverAuthority_host_iff.1 (parseServer_host?_iff.1 ⟨u, hserver, hhost⟩)
  rw [serverText_eq_beforePath hne] at hauthority
  rw [parse_http_append_host?_iff hclean h]
  -- The scheme joins the credentials. The last at sign stays, and the host and port after it.
  rcases RawAuthority.cut_cases (beforePath rest) with hnot | ⟨credentials, after, hbefore, hafter⟩
  · contradiction
  · rw [hbefore, RawAuthority.cut_append_at hafter] at hauthority
    rw [hbefore, ← List.cons_append, ← List.append_assoc, RawAuthority.cut_append_at hafter]
    exact hauthority

end ForwardProxy.Url
