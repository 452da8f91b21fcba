import ForwardProxy.Proofs.Endpoint
import ForwardProxy.Proofs.Idna.Ascii
import ForwardProxy.Proofs.Url.Presence

/-!
This module contains the names of servers. Main statements: `plain_of_parse` says what the name in a
URL is made of, and `serverHost_of_parse_http` that a name after `http://` is read as a host.
-/

namespace ForwardProxy.Url

variable {scheme s name : Text} {u : Url} {host : Host}

theorem toAscii?_of_serverHost (h : serverHost s = .ok (.domain name)) :
    ∃ t, Percent.decode? s = some t ∧ Idna.toAscii? isDenied t = some name := by
  unfold serverHost at h
  split at h
  · exact absurd h bracketed_ne_domain
  · split at h
    · contradiction
    · next ascii hascii =>
      obtain ⟨t, hdecode, hname⟩ := Option.bind_eq_some_iff.1 hascii
      refine ⟨t, hdecode, ?_⟩
      split at h
      · contradiction
      · split at h
        · split at h
          · rw [Except.ok.injEq] at h
            contradiction
          · contradiction
        · rw [Except.ok.injEq, Host.domain.injEq] at h
          rw [← h]
          exact hname

theorem isDenied_of_isCode {c : Char} (h : Idna.isCode c = true) : isDenied c = false := by
  apply Text.forall_ascii (p := fun c => Idna.isCode c = true → isDenied c = false) _
    (Idna.ascii_of_isCode h) h
  decide

theorem plain_of_serverHost (h : serverHost s = .ok (.domain name)) :
    ∀ c ∈ name, c.toNat < 0x80 ∧ isDenied c = false := by
  intro c hc
  obtain ⟨t, -, hname⟩ := toAscii?_of_serverHost h
  obtain ⟨hascii, hplain⟩ := Idna.plain_of_toAscii? hname hc
  refine ⟨hascii, ?_⟩
  rcases hplain with hdenied | rfl | hcode
  · exact hdenied
  · decide
  · exact isDenied_of_isCode hcode

theorem exists_serverHost_of_parse (h : parse s = .ok u) (hkind : schemeKind u.scheme ≠ .generic)
    (hhost : u.host? = some host) : ∃ t, serverHost t = .ok host := by
  obtain ⟨rest, hcut⟩ := parse_scheme h
  unfold parse at h
  rw [hcut] at h
  dsimp only at h
  split at h
  · exact exists_serverHost_of_parseServer h hhost
  · exact exists_serverHost_of_parseFile h hhost
  · next hgeneric => exact absurd hgeneric hkind

theorem plain_of_parse (h : parse s = .ok u) (hkind : schemeKind u.scheme ≠ .generic)
    (hhost : u.host? = some (.domain name)) : ∀ c ∈ name, c.toNat < 0x80 ∧ isDenied c = false := by
  obtain ⟨t, hserver⟩ := exists_serverHost_of_parse h hkind hhost
  exact plain_of_serverHost hserver

theorem endpoint_host_of_plain (hhost : u.host? = some (.domain name))
    (h : ∀ c ∈ name, c.toNat < 0x80 ∧ isDenied c = false) : u.endpoint.host = name := by
  apply endpoint_host_domain hhost
  · rw [Text.isAscii_iff]
    intro c hc
    exact (h c hc).1
  · intro hmem
    exact absurd (h _ hmem).2 (by decide)

/-- A text without blanks, and without the signs that part a URL, an endpoint or a list. -/
def IsDomainName (s : Text) : Prop :=
  ∀ c ∈ s, Text.isBlank c = false ∧ c ∉ [',', ':', '%', '/', '\\', '?', '#', '@']

instance (s : Text) : Decidable (IsDomainName s) :=
  List.decidableBAll _ s

theorem IsDomainName.not_mem (h : IsDomainName s) {c : Char}
    (hc : c ∈ [',', ':', '%', '/', '\\', '?', '#', '@']) : c ∉ s := by
  intro hmem
  exact (h c hmem).2 hc

theorem IsDomainName.cleanEnd_append (h : IsDomainName s) : cleanEnd (s ++ ['/']) = s ++ ['/'] := by
  have hslash : isMargin '/' = false := by decide
  unfold cleanEnd
  rw [List.reverse_concat, List.dropWhile_cons_of_neg (ne_true_of_eq_false hslash)]
  rw [← List.reverse_concat, List.reverse_reverse, List.filter_eq_self]
  intro c hc
  have hblank : ∀ c ∈ ['\t', '\n', '\r'], Text.isBlank c = true := List.all_eq_true.1 (by decide)
  rw [Bool.not_eq_true', decide_eq_false_iff_not]
  intro hbreak
  cases List.mem_append.1 hc with
  | inl hmem => exact ne_true_of_eq_false (h c hmem).1 (hblank c hbreak)
  | inr hslash =>
    rw [List.mem_singleton.1 hslash] at hbreak
    exact absurd hbreak (by decide)

theorem IsDomainName.cutScheme?_http (h : IsDomainName s) :
    cutScheme? (clean ("http://".toList ++ s ++ ['/'])) =
      some ("http".toList, '/' :: '/' :: (s ++ ['/'])) := by
  have hscheme : isScheme "http".toList = true := by decide
  have hassoc : "http://".toList ++ s ++ ['/'] = "http://".toList ++ (s ++ ['/']) :=
    List.append_assoc _ _ _
  have hsplit : "http://".toList ++ (s ++ ['/']) =
      "http".toList ++ ':' :: '/' :: '/' :: (s ++ ['/']) := rfl
  rw [hassoc, clean_http_append, h.cleanEnd_append, hsplit]
  exact cutScheme?_append hscheme _

theorem IsDomainName.serverText_append (h : IsDomainName s) (hne : s ≠ []) :
    serverText ('/' :: '/' :: (s ++ ['/'])) = s := by
  have hparts : ∀ c ∈ s, c ∉ ['/', '\\', '?', '#'] := by
    intro c hc hmem
    apply (h c hc).2
    simp only [List.mem_cons, List.not_mem_nil, or_false] at hmem ⊢
    tauto
  rw [Url.serverText_append hne hparts]
  exact List.append_nil s

theorem serverHost_of_parse_http (h : IsDomainName s)
    (hparse : parse ("http://".toList ++ s ++ ['/']) = .ok u) (hhost : u.host? = some host) :
    serverHost s = .ok host := by
  have hkind : schemeKind "http".toList = .server 80 := by decide
  rw [parse_of_server h.cutScheme?_http hkind] at hparse
  obtain ⟨hne, hserver, -⟩ :=
    serverAuthority_host_iff.1 (parseServer_host?_iff.1 ⟨u, hparse, hhost⟩)
  cases s with
  | nil =>
    -- Slashes alone name no host.
    exact absurd rfl hne
  | cons c rest =>
    rw [h.serverText_append (List.cons_ne_nil c rest)] at hserver
    rw [RawAuthority.cut_of_not_mem (h.not_mem (by decide))] at hserver
    rw [cutHost_of_not_mem (h.not_mem (by decide))] at hserver
    exact hserver

end ForwardProxy.Url
