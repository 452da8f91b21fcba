import ForwardProxy.Proofs.Url.Name

/-!
This module contains the names of hosts under the schemes that are not those of servers. A URL
stores such a name encoded, and a request is looked up by the name that was encoded. Main statement:
`canonicalAddress_of_opaque` says that no character of the name is lost on the way, and what becomes
of texts that do not stand for a name.
-/

namespace ForwardProxy.Url

variable {s stored name : Text} {u : Url}

theorem ascii_of_keepsInPlain {c : Char} (h : keepsInPlain c = true) : c.toNat < 0x80 := by
  simp only [keepsInPlain, Bool.and_eq_true, decide_eq_true_eq] at h
  omega

theorem eq_encode_of_genericHost (h : genericHost s = .ok (.domain stored)) :
    stored = Percent.encode keepsInPlain s := by
  unfold genericHost at h
  split at h
  · exact absurd h bracketed_ne_domain
  · split at h
    · contradiction
    · rw [Except.ok.injEq, Host.domain.injEq] at h
      exact h.symm

theorem exists_name_of_parse (h : parse s = .ok u) (hkind : schemeKind u.scheme = .generic)
    (hhost : u.host? = some (.domain stored)) :
    ∃ name, stored = Percent.encode keepsInPlain name := by
  obtain ⟨rest, hcut⟩ := parse_scheme h
  rw [parse_of_generic hcut hkind] at h
  obtain ⟨name, -, hgeneric⟩ := exists_genericHost_of_parseGeneric h hhost
  exact ⟨name, eq_encode_of_genericHost hgeneric⟩

theorem isAscii_of_parse (h : parse s = .ok u) (hhost : u.host? = some (.domain stored)) :
    Text.isAscii stored = true := by
  rw [Text.isAscii_iff]
  intro c hc
  by_cases hkind : schemeKind u.scheme = .generic
  · obtain ⟨name, rfl⟩ := exists_name_of_parse h hkind hhost
    exact Percent.ascii_of_mem_encode (fun _ => ascii_of_keepsInPlain) hc
  · exact (plain_of_parse h hkind hhost c hc).1

theorem decode?_stored (h : '%' ∉ name) :
    Percent.decode? (Percent.encode keepsInPlain name) = some name := by
  apply Percent.decode?_encode
  rintro c hc - rfl
  exact h hc

theorem canonicalAddress_of_hostName (h : u.hostName = name) :
    u.canonicalAddress = Endpoint.toText ⟨(asciiName? name).getD name, u.endpoint.port⟩ := by
  subst h
  rfl

/-- The parts are about texts that stand for a name, about texts that stand for none, and about the
texts that are stored when a URL is read. -/
theorem canonicalAddress_of_opaque (u : Url) :
    (∀ name, '%' ∉ name → u.host? = some (.domain (Percent.encode keepsInPlain name)) →
      Percent.decode? (Percent.encode keepsInPlain name) = some name ∧ u.hostName = name ∧
        u.canonicalAddress = Endpoint.toText ⟨(asciiName? name).getD name, u.endpoint.port⟩ ∧
        (Text.isAscii name = false → Idna.toAscii? (fun _ => false) name = none →
          u.canonicalAddress = Endpoint.toText ⟨name, u.endpoint.port⟩)) ∧
    (∀ stored, u.host? = some (.domain stored) →
      ¬ (Percent.bytes stored).toByteArray.IsValidUTF8 →
      u.hostName = stored ∧ (Text.isAscii stored = true →
        u.canonicalAddress = Endpoint.toText ⟨stored, u.endpoint.port⟩)) ∧
    (∀ s stored, parse s = .ok u → u.host? = some (.domain stored) →
      Text.isAscii stored = true ∧ (schemeKind u.scheme = .generic →
        ∃ name, stored = Percent.encode keepsInPlain name)) := by
  refine ⟨?_, ?_, ?_⟩
  · intro name hpercent hhost
    have hdecode := decode?_stored hpercent
    have hname : u.hostName = name := by
      rw [hostName_of_stored hhost, hdecode, Option.getD_some]
    have haddress := canonicalAddress_of_hostName hname
    refine ⟨hdecode, hname, haddress, ?_⟩
    intro hascii hfails
    rw [haddress, asciiName?, hascii, hfails]
    rfl
  · intro stored hhost hinvalid
    have hname : u.hostName = stored := by
      rw [hostName_of_stored hhost, Percent.decode?_eq_none_iff.2 hinvalid, Option.getD_none]
    refine ⟨hname, ?_⟩
    intro hascii
    rw [canonicalAddress_of_hostName hname, asciiName?, hascii]
    rfl
  · intro s stored hparse hhost
    refine ⟨isAscii_of_parse hparse hhost, ?_⟩
    intro hkind
    exact exists_name_of_parse hparse hkind hhost

theorem canonicalAddress_of_opaque_names :
    let url (stored : Text) : Url :=
      ⟨"socks5".toList, some ⟨[], [], some (.domain stored), none⟩, .segments [], none, none⟩
    let encoded (name : Text) : Text := Percent.encode keepsInPlain name
    (parse "socks5://BÜCHER".toList = .ok (url (encoded "BÜCHER".toList)) ∧
      encoded "BÜCHER".toList = "B%C3%9CCHER".toList ∧ '%' ∉ "BÜCHER".toList ∧
      (url (encoded "BÜCHER".toList)).canonicalAddress = "xn--bcher-kva:1080".toList) ∧
    (parse "socks5://xn--é".toList = .ok (url (encoded "xn--é".toList)) ∧
      '%' ∉ "xn--é".toList ∧ Text.isAscii "xn--é".toList = false ∧
      Idna.toAscii? (fun _ => false) "xn--é".toList = none ∧
      (url (encoded "xn--é".toList)).canonicalAddress = "xn--é:1080".toList) ∧
    (parse "socks5://%FF".toList = .ok (url "%FF".toList) ∧
      ¬ (Percent.bytes "%FF".toList).toByteArray.IsValidUTF8 ∧
      (url "%FF".toList).canonicalAddress = "%FF:1080".toList) := by
  intro url encoded
  refine ⟨⟨by decide +kernel, by decide +kernel, by decide, ?_⟩, ?_, ?_⟩
  · obtain ⟨hnamed, -, -⟩ := canonicalAddress_of_opaque (url (encoded "BÜCHER".toList))
    obtain ⟨-, -, haddress, -⟩ := hnamed "BÜCHER".toList (by decide) rfl
    rw [haddress]
    decide +kernel
  · have hascii : Text.isAscii "xn--é".toList = false := by decide
    have hfails : Idna.toAscii? (fun _ => false) "xn--é".toList = none := by decide +kernel
    refine ⟨by decide +kernel, by decide, hascii, hfails, ?_⟩
    obtain ⟨hnamed, -, -⟩ := canonicalAddress_of_opaque (url (encoded "xn--é".toList))
    obtain ⟨-, -, -, hkept⟩ := hnamed "xn--é".toList (by decide) rfl
    rw [hkept hascii hfails]
    decide +kernel
  · have hparse : parse "socks5://%FF".toList = .ok (url "%FF".toList) := by decide +kernel
    have hinvalid : ¬ (Percent.bytes "%FF".toList).toByteArray.IsValidUTF8 := by decide +kernel
    refine ⟨hparse, hinvalid, ?_⟩
    obtain ⟨-, hmalformed, hstored⟩ := canonicalAddress_of_opaque (url "%FF".toList)
    rw [(hmalformed _ rfl hinvalid).2 (hstored _ _ hparse rfl).1]
    decide +kernel

end ForwardProxy.Url
