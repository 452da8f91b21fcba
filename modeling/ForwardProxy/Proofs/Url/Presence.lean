import ForwardProxy.Proofs.Url.Authority

/-!
This module contains which URLs have a host. Main statements: `toText_ne_nil_of_parse` says that no
host is empty, and `parseGeneric_host?_eq_none_iff` which texts are URLs without a host.
-/

namespace ForwardProxy.Url

def beforePath (s : Text) : Text :=
  s.takeWhile fun c => !(endsAuthority c || c = '\\')

def serverText (s : Text) : Text :=
  beforePath (s.dropWhile isSlash)

variable {scheme s : Text} {defaultPort : UInt16} {u : Url} {host : Host}

theorem isPart_of_not_mem {c : Char} (h : c ∉ ['/', '\\', '?', '#']) :
    (!(endsAuthority c || c = '\\')) = true ∧ isSlash c = false := by
  simp only [List.mem_cons, not_or] at h
  simp [endsAuthority, isSlash, h]

theorem dropWhile_isSlash_append {front : Text} (hne : front ≠ [])
    (h : ∀ c ∈ front, c ∉ ['/', '\\', '?', '#']) (rest : Text) :
    ('/' :: '/' :: (front ++ rest)).dropWhile isSlash = front ++ rest := by
  rw [List.dropWhile_cons_of_pos (by decide), List.dropWhile_cons_of_pos (by decide)]
  rw [List.dropWhile_append]
  rw [Text.dropWhile_eq_self fun c hc => (isPart_of_not_mem (h c hc)).2]
  rw [if_neg (by simpa using hne)]

theorem serverText_append {front rest : Text} (hne : front ≠ [])
    (h : ∀ c ∈ front, c ∉ ['/', '\\', '?', '#']) :
    serverText ('/' :: '/' :: (front ++ rest)) = front ++ beforePath rest := by
  unfold serverText beforePath
  rw [dropWhile_isSlash_append hne h]
  rw [List.takeWhile_append_of_pos fun c hc => (isPart_of_not_mem (h c hc)).1]

theorem parseServer_host?_iff :
    (∃ u, parseServer scheme defaultPort s = .ok u ∧ u.host? = some host) ↔
      ∃ a, serverAuthority defaultPort (serverText s) = .ok a ∧ a.host = some host := by
  unfold parseServer serverText beforePath
  dsimp only
  constructor
  · rintro ⟨u, h, hhost⟩
    obtain ⟨a, hauthority, h⟩ := bind_eq_ok_iff.1 h
    rw [pure_eq_ok_iff] at h
    refine ⟨a, hauthority, ?_⟩
    rw [← hhost, ← h]
    rfl
  · rintro ⟨a, hauthority, hhost⟩
    rw [hauthority]
    exact ⟨_, rfl, hhost⟩

theorem exists_host?_of_serverAuthority {a : Authority}
    (h : serverAuthority defaultPort s = .ok a) : ∃ host, a.host = some host := by
  unfold serverAuthority at h
  dsimp only at h
  split at h
  · contradiction
  · obtain ⟨host, -, h⟩ := bind_eq_ok_iff.1 h
    obtain ⟨port, -, h⟩ := bind_eq_ok_iff.1 h
    rw [pure_eq_ok_iff] at h
    rw [← h]
    exact ⟨host, rfl⟩

theorem exists_host?_of_parseServer (h : parseServer scheme defaultPort s = .ok u) :
    ∃ host, u.host? = some host := by
  unfold parseServer at h
  obtain ⟨a, hauthority, h⟩ := bind_eq_ok_iff.1 h
  rw [pure_eq_ok_iff] at h
  rw [← h]
  exact exists_host?_of_serverAuthority hauthority

theorem exists_serverHost_of_parseServer (h : parseServer scheme defaultPort s = .ok u)
    (hhost : u.host? = some host) : ∃ t, serverHost t = .ok host := by
  obtain ⟨-, hserver, -⟩ := serverAuthority_host_iff.1 (parseServer_host?_iff.1 ⟨u, h, hhost⟩)
  exact ⟨_, hserver⟩

theorem serverHost_of_fileHost (h : fileHost s = .ok (some host)) : serverHost s = .ok host := by
  unfold fileHost at h
  split at h
  · simp at h
  · obtain ⟨host', hserver, h⟩ := bind_eq_ok_iff.1 h
    rw [pure_eq_ok_iff] at h
    split at h
    · contradiction
    · rw [Option.some.injEq] at h
      rw [← h]
      exact hserver

theorem eq_of_host?_assembleFile {host' : Option Host}
    (h : (assembleFile host' s).host? = some host) : host' = some host := by
  unfold assembleFile at h
  dsimp only [assemble, host?, Option.bind_some] at h
  split at h
  · contradiction
  · exact h

theorem exists_serverHost_of_parseFile (h : parseFile s = .ok u) (hhost : u.host? = some host) :
    ∃ t, serverHost t = .ok host := by
  have hnone : ∀ s, (assembleFile none s).host? ≠ some host := by
    intro s h
    have := eq_of_host?_assembleFile h
    contradiction
  unfold parseFile at h
  split at h
  · split at h
    · dsimp only at h
      split at h
      · rw [pure_eq_ok_iff] at h
        exact absurd (h ▸ hhost) (hnone _)
      · obtain ⟨host', hfile, h⟩ := bind_eq_ok_iff.1 h
        rw [pure_eq_ok_iff] at h
        rw [← h] at hhost
        rw [eq_of_host?_assembleFile hhost] at hfile
        exact ⟨_, serverHost_of_fileHost hfile⟩
    · rw [pure_eq_ok_iff] at h
      exact absurd (h ▸ hhost) (hnone _)
  · rw [pure_eq_ok_iff] at h
    exact absurd (h ▸ hhost) (hnone _)

theorem exists_genericHost_of_parseGeneric (h : parseGeneric scheme s = .ok u)
    (hhost : u.host? = some host) : ∃ t, t ≠ [] ∧ genericHost t = .ok host := by
  unfold parseGeneric at h
  split at h
  · obtain ⟨⟨a, cutOff⟩, hauthority, h⟩ := bind_eq_ok_iff.1 h
    rw [pure_eq_ok_iff] at h
    rw [← h] at hhost
    exact exists_genericHost_of_genericAuthority hauthority hhost
  · rw [pure_eq_ok_iff] at h
    rw [← h] at hhost
    contradiction
  · rw [pure_eq_ok_iff] at h
    rw [← h] at hhost
    contradiction

theorem toText_ne_nil_of_parse (h : parse s = .ok u) (hhost : u.host? = some host) :
    host.toText ≠ [] := by
  unfold parse at h
  split at h
  · contradiction
  · split at h
    · obtain ⟨t, hserver⟩ := exists_serverHost_of_parseServer h hhost
      exact serverHost_toText_ne_nil hserver
    · obtain ⟨t, hserver⟩ := exists_serverHost_of_parseFile h hhost
      exact serverHost_toText_ne_nil hserver
    · obtain ⟨t, hne, hgeneric⟩ := exists_genericHost_of_parseGeneric h hhost
      exact genericHost_toText_ne_nil hne hgeneric

def HasHost (u : Url) : Prop :=
  ∃ host, u.host? = some host ∧ host.toText ≠ []

theorem hasHost_iff_of_parse (h : parse s = .ok u) : u.HasHost ↔ u.host? ≠ none := by
  constructor
  · rintro ⟨host, hhost, -⟩
    rw [hhost]
    exact Option.some_ne_none host
  · intro hne
    obtain ⟨host, hhost⟩ := Option.ne_none_iff_exists'.1 hne
    exact ⟨host, hhost, toText_ne_nil_of_parse h hhost⟩

theorem hasHost_of_server (h : parse s = .ok u)
    (hkind : schemeKind u.scheme = .server defaultPort) : u.HasHost := by
  obtain ⟨rest, hcut⟩ := parse_scheme h
  have hserver := h
  rw [parse_of_server hcut hkind] at hserver
  obtain ⟨host, hhost⟩ := exists_host?_of_parseServer hserver
  exact ⟨host, hhost, toText_ne_nil_of_parse h hhost⟩

/-- What follows the colon of a scheme names no host: there are not two slashes, or nothing stands
between them and the path but the signs around a name and a password. -/
def isHostless (s : Text) : Bool :=
  match Text.dropStart? "//".toList s with
  | none => true
  | some rest =>
    let authority := rest.takeWhile fun c => !endsAuthority c
    authority = [] || authority = [':', '@'] || rest = ['@']

theorem isHostless_of_ne (h : ∀ rest, s ≠ '/' :: '/' :: rest) : isHostless s = true := by
  unfold isHostless
  split
  · rfl
  · next rest hdrop => exact absurd (Text.dropStart?_eq_some_iff.1 hdrop) (h rest)

theorem isHostless_slashes {rest : Text} :
    isHostless ('/' :: '/' :: rest) = true ↔
      rest.takeWhile (fun c => !endsAuthority c) = [] ∨
        rest.takeWhile (fun c => !endsAuthority c) = [':', '@'] ∨
        rest.takeWhile (fun c => !endsAuthority c) = ['@'] ∧
          (rest.dropWhile fun c => !endsAuthority c).isEmpty = true := by
  have hdrop : Text.dropStart? "//".toList ('/' :: '/' :: rest) = some rest :=
    Text.dropStart?_eq_some_iff.2 rfl
  have hlast : rest = ['@'] ↔ rest.takeWhile (fun c => !endsAuthority c) = ['@'] ∧
      (rest.dropWhile fun c => !endsAuthority c).isEmpty = true := by
    constructor
    · rintro rfl
      exact ⟨rfl, rfl⟩
    · rintro ⟨htake, hempty⟩
      rw [← List.takeWhile_append_dropWhile (p := fun c => !endsAuthority c) (l := rest)]
      rw [htake, List.isEmpty_iff.1 hempty]
      rfl
  unfold isHostless
  rw [hdrop]
  simp only [Bool.or_eq_true, decide_eq_true_eq, or_assoc, hlast]

theorem parseGeneric_host?_eq_none_iff :
    (∃ u, parseGeneric scheme s = .ok u ∧ u.host? = none) ↔ isHostless s = true := by
  unfold parseGeneric
  split
  · next rest =>
    rw [isHostless_slashes, ← genericAuthority_hostless_iff]
    constructor
    · rintro ⟨u, h, hhost⟩
      obtain ⟨⟨a, cutOff⟩, hauthority, h⟩ := bind_eq_ok_iff.1 h
      rw [pure_eq_ok_iff] at h
      refine ⟨a, cutOff, hauthority, ?_⟩
      rw [← hhost, ← h]
      rfl
    · rintro ⟨a, cutOff, hauthority, hhost⟩
      dsimp only
      rw [hauthority]
      exact ⟨_, rfl, hhost⟩
  · next rest hslash =>
    rw [isHostless_of_ne fun after h => hslash after (List.cons.inj h).2]
    exact ⟨fun _ => rfl, fun _ => ⟨_, rfl, rfl⟩⟩
  · next hslashes _ =>
    rw [isHostless_of_ne hslashes]
    exact ⟨fun _ => rfl, fun _ => ⟨_, rfl, rfl⟩⟩

end ForwardProxy.Url
