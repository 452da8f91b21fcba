import ForwardProxy.Proofs.Exclusions.List

/-!
This module contains the spellings of an entry: its letters in either case, with a port or without,
among any blanks. Main statement: `ofText?_spelling` says that all of them are read as one entry.
-/

namespace ForwardProxy.Exclusions

open Endpoint (hasPort)
open Text (trim trimStart lower isBlank isDecimal)

structure Spelling (entry : Text) where
  before : Text
  name : Text
  port : Option Text
  after : Text
  isBlank_before : ∀ c ∈ before, isBlank c = true
  map_name : name.map Char.toLower = entry.map Char.toLower
  isDecimal_port : ∀ digits ∈ port, ∀ c ∈ digits, isDecimal c = true
  isBlank_after : ∀ c ∈ after, isBlank c = true

def IsBare (entry : Text) : Prop :=
  trim entry = entry ∧ hasPort entry = false

instance (entry : Text) : Decidable (IsBare entry) :=
  inferInstanceAs (Decidable (_ ∧ _))

variable {entry s t : Text}

def Spelling.toText (w : Spelling entry) : Text :=
  w.before ++ (w.name ++ (w.port.map (':' :: ·)).getD []) ++ w.after

theorem comparable_map_toLower (s : Text) : comparable (s.map Char.toLower) = comparable s := by
  unfold comparable
  rw [Text.trim_map_toLower, Text.lower_map_toLower]

theorem lower_trimStart_congr (h : s.map Char.toLower = t.map Char.toLower) :
    lower (trimStart s) = lower (trimStart t) := by
  rw [← Text.lower_map_toLower, ← Text.trimStart_map_toLower, h]
  rw [Text.trimStart_map_toLower, Text.lower_map_toLower]

theorem IsBare.comparable_eq (h : IsBare entry) :
    comparable entry = lower (trimStart entry) := by
  have hstart : trimStart entry = entry := by
    rw [← h.1]
    exact Text.trimStart_trim entry
  unfold comparable
  rw [h.1, hstart]
  apply Endpoint.stripPort_of_not_hasPort
  rw [(Text.smallForm_lower entry).hasPort_eq]
  exact h.2

theorem Spelling.comparable_toText (h : IsBare entry) (w : Spelling entry) :
    comparable w.toText = comparable entry := by
  have htrim : comparable w.toText = comparable (w.name ++ (w.port.map (':' :: ·)).getD []) := by
    unfold comparable toText
    rw [Text.trim_append_append w.isBlank_before w.isBlank_after]
  rw [htrim]
  cases hport : w.port with
  | none =>
    rw [Option.map_none, Option.getD_none, List.append_nil]
    rw [← comparable_map_toLower, w.map_name, comparable_map_toLower]
  | some digits =>
    rw [Option.map_some, Option.getD_some]
    rw [comparable_append_decimal (w.isDecimal_port digits hport)]
    rw [h.comparable_eq, lower_trimStart_congr w.map_name]

theorem filterMap_ofText?_congr {xs ys : List Text}
    (h : List.Forall₂ (fun x y => Pattern.ofText? x = Pattern.ofText? y) xs ys) :
    xs.filterMap Pattern.ofText? = ys.filterMap Pattern.ofText? := by
  induction h with
  | nil => rfl
  | cons hread h ih => rw [List.filterMap_cons, List.filterMap_cons, hread, ih]

theorem ofText?_spelling :
    (∀ entry, IsBare entry → ∀ w : Spelling entry,
      Pattern.ofText? w.toText = Pattern.ofText? entry) ∧
    ∀ a b, a ≠ ['*'] → b ≠ ['*'] →
      List.Forall₂ (fun entry spelled => spelled = entry ∨
        IsBare entry ∧ ∃ w : Spelling entry, w.toText = spelled) (a.splitOn ',') (b.splitOn ',') →
      ∀ address, (ofText a).usesProxy address = (ofText b).usesProxy address := by
  have hread : ∀ entry, IsBare entry → ∀ w : Spelling entry,
      Pattern.ofText? w.toText = Pattern.ofText? entry := by
    intro entry hbare w
    exact Pattern.ofText?_congr (w.comparable_toText hbare)
  refine ⟨hread, ?_⟩
  intro a b ha hb hentries address
  have hpatterns : (a.splitOn ',').filterMap Pattern.ofText? =
      (b.splitOn ',').filterMap Pattern.ofText? := by
    apply filterMap_ofText?_congr
    apply hentries.imp
    rintro entry _ (rfl | ⟨hbare, w, rfl⟩)
    · rfl
    · exact (hread entry hbare w).symm
  rw [ofText_of_ne ha, ofText_of_ne hb, hpatterns]

theorem ofText?_spelling_foo :
    Pattern.ofText? " FOO.com:80 ".toList = Pattern.ofText? "foo.com".toList ∧
    (ofText " FOO.com:80 ,bar.ORG:".toList).usesProxy "foo.com:443".toList = false := by
  have hblank : ∀ c ∈ [' '], isBlank c = true := List.forall_mem_singleton.2 rfl
  have hport : ∀ digits ∈ some "80".toList, ∀ c ∈ digits, Text.isDecimal c = true := by
    rintro _ ⟨rfl⟩
    exact List.all_eq_true.1 (by decide)
  have hempty : ∀ digits ∈ some [], ∀ c ∈ digits, Text.isDecimal c = true := by
    rintro _ ⟨rfl⟩
    exact List.forall_mem_nil _
  let foo : Spelling "foo.com".toList :=
    ⟨[' '], "FOO.com".toList, some "80".toList, [' '], hblank, by decide, hport, hblank⟩
  let bar : Spelling "Bar.org".toList :=
    ⟨[], "bar.ORG".toList, some [], [], List.forall_mem_nil _, by decide, hempty,
      List.forall_mem_nil _⟩
  have hfoo : IsBare "foo.com".toList := by decide
  have hbar : IsBare "Bar.org".toList := by decide
  obtain ⟨hread, huses⟩ := ofText?_spelling
  refine ⟨hread _ hfoo foo, ?_⟩
  have hlist := huses "foo.com,Bar.org".toList " FOO.com:80 ,bar.ORG:".toList
    (by decide) (by decide)
    (.cons (.inr ⟨hfoo, foo, rfl⟩) (.cons (.inr ⟨hbar, bar, rfl⟩) .nil)) "foo.com:443".toList
  rw [← hlist]
  decide +kernel

end ForwardProxy.Exclusions
