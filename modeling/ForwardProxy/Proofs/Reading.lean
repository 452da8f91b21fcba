import ForwardProxy.Proofs.Url.Parse
import ForwardProxy.Resolution

/-!
This module contains the theory of configured proxies. Main statement: `parseProxy_decision_table`
says what becomes of a text, by what it is as it is written and what it is after `http://`.
-/

namespace ForwardProxy

theorem Intercept.ofUrl?_of_scheme_eq {u : Url} {v : Via} (h : v.scheme = u.scheme) :
    Intercept.ofUrl? u = some ⟨u, v, h⟩ := by
  unfold Intercept.ofUrl?
  split
  · next via hvia =>
    rw [← h, Via.ofScheme?_scheme, Option.some.injEq] at hvia
    subst hvia
    rfl
  · next hnone =>
    rw [← h, Via.ofScheme?_scheme] at hnone
    simp at hnone

theorem Intercept.ofUrl?_eq_none_iff {u : Url} :
    Intercept.ofUrl? u = none ↔ ∀ v : Via, v.scheme ≠ u.scheme := by
  constructor
  · intro hnone v h
    rw [Intercept.ofUrl?_of_scheme_eq h] at hnone
    simp at hnone
  · intro h
    cases hintercept : Intercept.ofUrl? u with
    | none => rfl
    | some intercept =>
      unfold Intercept.ofUrl? at hintercept
      split at hintercept
      · next via hvia => exact absurd (Via.ofScheme?_eq_some_iff.1 hvia) (h via)
      · simp at hintercept

theorem Intercept.proxy_of_ofUrl? {u : Url} {i : Intercept} (h : Intercept.ofUrl? u = some i) :
    i.proxy = u := by
  unfold Intercept.ofUrl? at h
  split at h
  · rw [Option.some.injEq] at h
    rw [← h]
  · contradiction

namespace Reading

variable {proxy : Text} {u : Url} {e : Url.ParseError}

theorem intercept?_of_ok (h : Url.parse proxy = .ok u) :
    intercept? proxy = Intercept.ofUrl? u := by
  unfold intercept?
  rw [h]

theorem intercept?_of_error (h : Url.parse proxy = .error e) : intercept? proxy = none := by
  unfold intercept?
  rw [h]

theorem intercept?_eq_none_iff :
    intercept? proxy = none ↔ ∀ u, Url.parse proxy = .ok u → ∀ v : Via, v.scheme ≠ u.scheme := by
  cases hparse : Url.parse proxy with
  | error e => simp [intercept?_of_error hparse]
  | ok u => simp [intercept?_of_ok hparse, Intercept.ofUrl?_eq_none_iff]

theorem intercept?_eq_some_iff {i : Intercept} :
    intercept? proxy = some i ↔ Url.parse proxy = .ok i.proxy := by
  constructor
  · intro h
    cases hparse : Url.parse proxy with
    | error e =>
      rw [intercept?_of_error hparse] at h
      contradiction
    | ok u =>
      rw [intercept?_of_ok hparse] at h
      rw [Intercept.proxy_of_ofUrl? h]
  · intro h
    rw [intercept?_of_ok h]
    exact Intercept.ofUrl?_of_scheme_eq i.scheme_eq

theorem intercept?_repaired (h : Url.parse ("http://".toList ++ proxy) = .ok u) :
    ∃ hscheme : Via.http.scheme = u.scheme,
      intercept? ("http://".toList ++ proxy) = some ⟨u, .http, hscheme⟩ := by
  have hscheme : Via.http.scheme = u.scheme := by
    have : u.scheme = "http".toList.map Char.toLower :=
      Url.parse_scheme_of_isScheme (s := "//".toList ++ proxy) (by decide) h
    rw [this]
    decide
  refine ⟨hscheme, ?_⟩
  rw [intercept?_of_ok h]
  apply Intercept.ofUrl?_of_scheme_eq

theorem ofText_of_intercept? {i : Intercept} (h : intercept? proxy = some i) :
    ofText proxy = .asWritten i := by
  unfold ofText
  rw [h]

theorem ofText_of_repaired {i : Intercept} (hwritten : intercept? proxy = none)
    (h : intercept? ("http://".toList ++ proxy) = some i) : ofText proxy = .repaired i := by
  unfold ofText
  rw [hwritten, h]

theorem ofText_of_unusable (hwritten : intercept? proxy = none)
    (h : intercept? ("http://".toList ++ proxy) = none) :
    ofText proxy = .unusable (failure proxy) := by
  unfold ofText
  rw [hwritten, h]

theorem failure_of_error (h : Url.parse proxy = .error e) :
    failure proxy = .invalidProxy proxy e := by
  unfold failure
  rw [h]

theorem failure_of_ok (h : Url.parse proxy = .ok u) :
    failure proxy = .unsupportedScheme proxy u.scheme := by
  unfold failure
  rw [h]

end Reading

theorem parseProxy_eq_resolved_iff {proxy : Text} {i : Intercept} :
    parseProxy proxy = .resolved i ↔ Url.parse proxy = .ok i.proxy ∨
      Reading.intercept? proxy = none ∧ Url.parse ("http://".toList ++ proxy) = .ok i.proxy := by
  rw [← Reading.intercept?_eq_some_iff, ← Reading.intercept?_eq_some_iff]
  unfold parseProxy Reading.ofText
  cases Reading.intercept? proxy with
  | some j => simp [Reading.decision]
  | none =>
    cases Reading.intercept? ("http://".toList ++ proxy) with
    | some j => simp [Reading.decision]
    | none => simp [Reading.decision]

theorem parseProxy_decision_table (proxy : Text) :
    (∀ (u : Url) (v : Via) (h : v.scheme = u.scheme), Url.parse proxy = .ok u →
      parseProxy proxy = .resolved ⟨u, v, h⟩) ∧
    ((∀ u, Url.parse proxy = .ok u → ∀ v : Via, v.scheme ≠ u.scheme) →
      (∀ u, Url.parse ("http://".toList ++ proxy) = .ok u → u.scheme = "http".toList ∧
        ∃ h : Via.http.scheme = u.scheme, parseProxy proxy = .resolved ⟨u, .http, h⟩) ∧
      (∀ e', Url.parse ("http://".toList ++ proxy) = .error e' →
        (∀ e, Url.parse proxy = .error e →
          parseProxy proxy = .invalid ⟨.invalidProxy, some (.parse e), some proxy⟩) ∧
        (∀ u, Url.parse proxy = .ok u →
          parseProxy proxy = .invalid ⟨.unsupportedScheme, some (.scheme u.scheme), some proxy⟩))) ∧
    (∀ i, parseProxy proxy = .resolved i → i.via.scheme = i.proxy.scheme) := by
  refine ⟨?_, ?_, ?_⟩
  · intro u v h hparse
    unfold parseProxy
    rw [Reading.ofText_of_intercept? (i := ⟨u, v, h⟩)]
    · rfl
    · rw [Reading.intercept?_of_ok hparse]
      apply Intercept.ofUrl?_of_scheme_eq
  · intro hwritten
    rw [← Reading.intercept?_eq_none_iff] at hwritten
    -- What is left depends on the second reading, of which only the failure is not reported.
    constructor
    · intro u hparse
      obtain ⟨hscheme, hrepaired⟩ := Reading.intercept?_repaired hparse
      refine ⟨hscheme.symm, hscheme, ?_⟩
      unfold parseProxy
      rw [Reading.ofText_of_repaired hwritten hrepaired]
      rfl
    · intro e' herror
      have hinvalid : parseProxy proxy = .invalid (Reading.failure proxy) := by
        unfold parseProxy
        rw [Reading.ofText_of_unusable hwritten (Reading.intercept?_of_error herror)]
        rfl
      constructor
      · intro e hparse
        rw [hinvalid, Reading.failure_of_error hparse]
        rfl
      · intro u hparse
        rw [hinvalid, Reading.failure_of_ok hparse]
        rfl
  · intro i _
    exact i.scheme_eq

theorem parseProxy_in_each_row :
    (∃ i, parseProxy "socks5://proxy".toList = .resolved i ∧ i.via = .socks5) ∧
    (∃ i, parseProxy "proxy:3128".toList = .resolved i ∧ i.via = .http) ∧
    parseProxy " ".toList = .invalid ⟨.invalidProxy, some (.parse .missingBase), some [' ']⟩ ∧
    parseProxy "mailto:proxy".toList =
      .invalid ⟨.unsupportedScheme, some (.scheme "mailto".toList), some "mailto:proxy".toList⟩ := by
  refine ⟨?_, ?_, ?_, ?_⟩
  · let u : Url := ⟨"socks5".toList, some ⟨[], [], some (.domain "proxy".toList), none⟩,
      .segments [], none, none⟩
    have hparse : Url.parse "socks5://proxy".toList = .ok u := by decide +kernel
    exact ⟨_, (parseProxy_decision_table _).1 u .socks5 rfl hparse, rfl⟩
  · let u : Url := ⟨"proxy".toList, none, .plain "3128".toList, none, none⟩
    let repaired : Url := ⟨"http".toList, some ⟨[], [], some (.domain "proxy".toList), some 3128⟩,
      .segments [[]], none, none⟩
    have hparse : Url.parse "proxy:3128".toList = .ok u := by decide +kernel
    have hrepaired : Url.parse ("http://".toList ++ "proxy:3128".toList) = .ok repaired := by
      decide +kernel
    have hscheme : ∀ u', Url.parse "proxy:3128".toList = .ok u' →
        ∀ v : Via, v.scheme ≠ u'.scheme := by
      intro u' h v
      rw [hparse, Except.ok.injEq] at h
      rw [← h]
      cases v <;> decide
    obtain ⟨-, h, hresolved⟩ := ((parseProxy_decision_table _).2.1 hscheme).1 repaired hrepaired
    exact ⟨_, hresolved, rfl⟩
  · have herror : Url.parse " ".toList = .error .missingBase := by decide +kernel
    have herror' : Url.parse ("http://".toList ++ " ".toList) = .error .emptyHost := by
      decide +kernel
    apply (((parseProxy_decision_table _).2.1 _).2 _ herror').1 _ herror
    intro u h
    rw [herror] at h
    contradiction
  · let u : Url := ⟨"mailto".toList, none, .plain "proxy".toList, none, none⟩
    have hparse : Url.parse "mailto:proxy".toList = .ok u := by decide +kernel
    have herror : Url.parse ("http://".toList ++ "mailto:proxy".toList) = .error .invalidPort := by
      decide +kernel
    apply (((parseProxy_decision_table _).2.1 _).2 _ herror).2 u hparse
    intro u' h v
    rw [hparse, Except.ok.injEq] at h
    rw [← h]
    cases v <;> decide

end ForwardProxy
