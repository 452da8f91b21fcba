import ForwardProxy.Proofs.Url.Presence

/-!
This module contains which parts of a text decide about the scheme and the host of the URL that it
is. Main statement: `Parts.map_target_parse` says that nothing does but the scheme, the authority
and, for the sake of drives, the path.
-/

namespace ForwardProxy

namespace Url

structure Target where
  scheme : Text
  host : Option Host
  deriving DecidableEq, Repr

def target (u : Url) : Target :=
  ⟨u.scheme, u.host?⟩

def endsPath (c : Char) : Bool :=
  c = '?' || c = '#'

structure Parts where
  scheme : Text
  authority : Text
  path : Text
  tail : Text
  scheme_colon : ':' ∉ scheme
  authority_ne_nil : authority ≠ []
  authority_ne_at : authority ≠ ['@']
  authority_inside : ∀ c ∈ authority, c ∉ ['/', '\\', '?', '#']
  path_start : ∀ c ∈ path.head?, c = '/'
  path_inside : ∀ c ∈ path, endsPath c = false
  tail_start : ∀ c ∈ tail.head?, endsPath c = true

def Parts.afterScheme (p : Parts) : Text :=
  '/' :: '/' :: (p.authority ++ (p.path ++ p.tail))

def Parts.toText (p : Parts) : Text :=
  p.scheme ++ ':' :: p.afterScheme

/-- Where a URL leads to whose parts are given, the scheme in small letters and the path without
its first slash. -/
def readTarget (scheme authority path : Text) : Except ParseError Target :=
  match schemeKind scheme with
  | .server defaultPort => (serverAuthority defaultPort authority).map fun a => ⟨scheme, a.host⟩
  | .file =>
    if isDrive authority then .ok ⟨scheme, none⟩
    else (fileHost authority).map fun host =>
      ⟨scheme, if (fileSegments path).head?.any isDrive then none else host⟩
  | .generic => (genericAuthority authority false).map fun a => ⟨scheme, a.1.host⟩

theorem endsAuthority_of_endsPath {c : Char} (h : endsPath c = true) : endsAuthority c = true := by
  unfold endsPath at h
  unfold endsAuthority
  rw [Bool.or_assoc, h, Bool.or_true]

theorem isSlash_of_endsPath {c : Char} (h : endsPath c = true) : isSlash c = false := by
  simp only [endsPath, Bool.or_eq_true, decide_eq_true_eq] at h
  rcases h with rfl | rfl
  · rfl
  · rfl

theorem RawAuthority.isBare_cut {s : Text} (h : s ≠ ['@']) (isLast : Bool) :
    (cut s).isBare isLast = false := by
  rw [← Bool.not_eq_true]
  intro hbare
  simp only [isBare, Bool.and_eq_true, List.isEmpty_iff, decide_eq_true_eq] at hbare
  obtain ⟨⟨⟨hcredentials, hhost⟩, hport⟩, -⟩ := hbare
  have hempty : (cut s).IsEmpty := ⟨hhost, hport, by rw [hcredentials]; rfl⟩
  rcases isEmpty_cut_iff.1 hempty with rfl | rfl | rfl
  · contradiction
  · contradiction
  · contradiction

theorem genericAuthority_of_ne_at {s : Text} (h : s ≠ ['@']) (isLast : Bool) :
    genericAuthority s isLast = genericAuthority s false := by
  unfold genericAuthority
  dsimp only
  rw [RawAuthority.isBare_cut h, RawAuthority.isBare_cut h]

theorem Tail.cut_path (s : Text) : (Tail.cut s).path = s.takeWhile fun c => !endsPath c := by
  have hends : (fun c => !endsPath c) =
      fun c => decide ((c != '?') = true ∧ (c != '#') = true) := by
    funext c
    simp [endsPath]
  rw [hends, ← List.takeWhile_takeWhile]
  unfold cut
  cases hfragment : Text.cutFirst? '#' s with
  | none =>
    rw [Text.takeWhile_of_cutFirst?_eq_none hfragment]
    dsimp only
    cases hquery : Text.cutFirst? '?' s with
    | none => exact (Text.takeWhile_of_cutFirst?_eq_none hquery).symm
    | some cut => exact (Text.takeWhile_of_cutFirst?_eq_some hquery).symm
  | some cut =>
    rw [Text.takeWhile_of_cutFirst?_eq_some hfragment]
    dsimp only
    cases hquery : Text.cutFirst? '?' cut.1 with
    | none => exact (Text.takeWhile_of_cutFirst?_eq_none hquery).symm
    | some cut => exact (Text.takeWhile_of_cutFirst?_eq_some hquery).symm

namespace Parts

variable (p : Parts)

theorem rest_start : ∀ c ∈ (p.path ++ p.tail).head?, endsAuthority c = true := by
  intro c hc
  cases hpath : p.path with
  | nil =>
    rw [hpath, List.nil_append] at hc
    exact endsAuthority_of_endsPath (p.tail_start c hc)
  | cons d path =>
    rw [hpath, List.cons_append, List.head?_cons, Option.mem_some_iff] at hc
    have hslash := p.path_start d (by rw [hpath]; rfl)
    rw [← hc, hslash]
    rfl

theorem path_cut_dropSlash : (Tail.cut (dropSlash (p.path ++ p.tail))).path = p.path.tail := by
  rw [Tail.cut_path]
  cases hpath : p.path with
  | nil =>
    cases htail : p.tail with
    | nil => rfl
    | cons c tail =>
      have hends := p.tail_start c (by rw [htail]; rfl)
      have hdrop : dropSlash ([] ++ c :: tail) = c :: tail :=
        if_neg (ne_true_of_eq_false (isSlash_of_endsPath hends))
      rw [hdrop, List.takeWhile_cons_of_neg (by simp [hends])]
      rfl
  | cons c path =>
    have hslash := p.path_start c (by rw [hpath]; rfl)
    subst hslash
    apply Text.takeWhile_append_of_head?
    · intro c hc
      rw [p.path_inside c (by rw [hpath]; exact List.mem_cons_of_mem _ hc)]
      rfl
    · intro c hc
      rw [p.tail_start c hc]
      rfl

variable {isPart : Char → Bool}

theorem takeWhile_isPart (hinside : ∀ c ∉ ['/', '\\', '?', '#'], isPart c = true)
    (hends : ∀ c, endsAuthority c = true → isPart c = false) :
    (p.authority ++ (p.path ++ p.tail)).takeWhile isPart = p.authority := by
  apply Text.takeWhile_append_of_head?
  · intro c hc
    exact hinside c (p.authority_inside c hc)
  · intro c hc
    exact hends c (p.rest_start c hc)

theorem dropWhile_isPart (hinside : ∀ c ∉ ['/', '\\', '?', '#'], isPart c = true)
    (hends : ∀ c, endsAuthority c = true → isPart c = false) :
    (p.authority ++ (p.path ++ p.tail)).dropWhile isPart = p.path ++ p.tail := by
  apply Text.dropWhile_append_of_head?
  · intro c hc
    exact hinside c (p.authority_inside c hc)
  · intro c hc
    exact hends c (p.rest_start c hc)

theorem map_target_parseServer (scheme : Text) (defaultPort : UInt16) :
    (parseServer scheme defaultPort p.afterScheme).map target =
      (serverAuthority defaultPort p.authority).map fun a => ⟨scheme, a.host⟩ := by
  unfold parseServer afterScheme
  dsimp only
  rw [dropWhile_isSlash_append p.authority_ne_nil p.authority_inside]
  rw [takeWhile_isPart p (fun c hc => (isPart_of_not_mem hc).1) (fun c hc => by rw [hc]; rfl)]
  cases serverAuthority defaultPort p.authority with
  | error e => rfl
  | ok a => rfl

theorem target_assembleFile (host : Option Host) (s : Text) :
    (assembleFile host s).target =
      ⟨"file".toList,
        if (fileSegments (Tail.cut s).path).head?.any isDrive then none else host⟩ := rfl

theorem map_target_parseFile :
    (parseFile p.afterScheme).map target =
      if isDrive p.authority then .ok ⟨"file".toList, none⟩
      else (fileHost p.authority).map fun host =>
        ⟨"file".toList, if (fileSegments p.path.tail).head?.any isDrive then none else host⟩ := by
  have hslashes : (isSlash '/' && isSlash '/') = true := by decide
  unfold parseFile afterScheme
  dsimp only
  rw [if_pos hslashes]
  rw [takeWhile_isPart p (fun c hc => (isPart_of_not_mem hc).1) (fun c hc => by rw [hc]; rfl)]
  rw [dropWhile_isPart p (fun c hc => (isPart_of_not_mem hc).1) (fun c hc => by rw [hc]; rfl)]
  split
  · dsimp only [pure, Except.pure, Except.map]
    rw [target_assembleFile, ite_self]
  · cases fileHost p.authority with
    | error e => rfl
    | ok host =>
      dsimp only [bind, Except.bind, pure, Except.pure, Except.map]
      rw [target_assembleFile, path_cut_dropSlash]

theorem map_target_parseGeneric (scheme : Text) :
    (parseGeneric scheme p.afterScheme).map target =
      (genericAuthority p.authority false).map fun a => ⟨scheme, a.1.host⟩ := by
  have hinside : ∀ c ∉ ['/', '\\', '?', '#'], (!endsAuthority c) = true := by
    intro c hc
    have hpart := (isPart_of_not_mem hc).1
    rw [Bool.not_or, Bool.and_eq_true] at hpart
    exact hpart.1
  simp only [parseGeneric, afterScheme]
  rw [takeWhile_isPart p hinside (fun c hc => by rw [hc]; rfl)]
  rw [genericAuthority_of_ne_at p.authority_ne_at]
  cases genericAuthority p.authority false with
  | error e => rfl
  | ok a => rfl

theorem map_target_parse {s : Text} (h : clean s = p.toText) :
    (parse s).map target =
      if isScheme p.scheme then readTarget (p.scheme.map Char.toLower) p.authority p.path.tail
      else .error .missingBase := by
  have hcut : Text.cutFirst? ':' (clean s) = some (p.scheme, p.afterScheme) :=
    Text.cutFirst?_eq_some_iff.2 ⟨h, p.scheme_colon⟩
  unfold parse cutScheme?
  rw [hcut]
  dsimp only
  by_cases hscheme : isScheme p.scheme = true
  · rw [if_pos hscheme, if_pos hscheme]
    unfold readTarget
    dsimp only
    cases hkind : schemeKind (p.scheme.map Char.toLower) with
    | server defaultPort => exact p.map_target_parseServer _ defaultPort
    | file =>
      rw [eq_file_of_schemeKind hkind]
      exact p.map_target_parseFile
    | generic => exact p.map_target_parseGeneric _
  · rw [if_neg hscheme, if_neg hscheme]
    rfl

end Parts

end Url

end ForwardProxy
