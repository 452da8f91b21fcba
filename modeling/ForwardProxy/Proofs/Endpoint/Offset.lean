import ForwardProxy.Proofs.Endpoint.Grammar
import ForwardProxy.Proofs.Text.Offset

/-!
This module contains the reading of endpoints by places: signs are searched for first, and the text
is cut at the places that are found. Main statements: `Offset.ofText?_eq` and `Offset.stripPort_eq`
say that every such cut can be made, and that the reading comes to the same.
-/

namespace ForwardProxy.Endpoint

theorem ofText?_append_filter {before port : Text} (h : ':' ∉ port) :
    ofText? (before ++ ':' :: port) =
      ((host? before).filter fun host => !host.any isBracket).bind fun host =>
        if port.any isBracket then none else some ⟨host, port⟩ := by
  unfold ofText?
  rw [Text.cutLast?_eq_some_iff.2 ⟨rfl, h⟩]
  dsimp only
  cases host? before with
  | none => rfl
  | some host =>
    dsimp only
    rw [Option.filter_some]
    cases host.any isBracket with
    | true => rfl
    | false => rfl

namespace Offset

open Text (size slice BadSlice findFirst? findLast?)

def host? (s : Text) (colon : Nat) : Except BadSlice (Option Text) :=
  if s.head? = some '[' then
    match findFirst? ']' s with
    | none => return none
    | some close => if close + 1 = colon then return some (← slice s 1 close) else return none
  else do
    let host ← slice s 0 colon
    if ':' ∈ host then return none else return some host

def ofText? (s : Text) : Except BadSlice (Option Endpoint) :=
  match findLast? ':' s with
  | none => return none
  | some colon => do
    match ← host? s colon with
    | none => return none
    | some host =>
      let port ← slice s (colon + 1) (size s)
      if host.any isBracket || port.any isBracket then return none else return some ⟨host, port⟩

def hasPort (s : Text) : Bool :=
  match findLast? ':' s, findLast? ']' s with
  | some colon, some bracket => bracket < colon
  | some _, none => true
  | none, _ => false

def stripPort (s : Text) : Except BadSlice Text :=
  match findLast? ':' s with
  | some colon => if hasPort s then slice s 0 colon else return s
  | none => return s

theorem hasPort_eq (s : Text) : hasPort s = Endpoint.hasPort s := by
  unfold hasPort Endpoint.hasPort findLast?
  cases hcolon : Text.cutLast? ':' s with
  | none => rfl
  | some cut =>
    obtain ⟨before, after⟩ := cut
    have hs := (Text.cutLast?_eq_some_iff.1 hcolon).1
    cases hbracket : Text.cutLast? ']' s with
    | none =>
      have hnot := Text.cutLast?_eq_none_iff.1 hbracket
      rw [hs, List.mem_append, List.mem_cons, not_or, not_or] at hnot
      simp [hnot.2.2]
    | some cut =>
      obtain ⟨a, b⟩ := cut
      obtain ⟨hsplit, hlast⟩ := Text.cutLast?_eq_some_iff.1 hbracket
      simp [Text.size_lt_size_iff (by decide) (hsplit.symm.trans hs) hlast]

theorem stripPort_eq (s : Text) : stripPort s = .ok (Endpoint.stripPort s) := by
  unfold stripPort
  cases hcolon : Text.cutLast? ':' s with
  | none => simp [findLast?, Endpoint.stripPort, hcolon, pure, Except.pure]
  | some cut =>
    obtain ⟨before, after⟩ := cut
    obtain ⟨rfl, -⟩ := Text.cutLast?_eq_some_iff.1 hcolon
    simp only [findLast?, hcolon, Option.map_some, hasPort_eq, Endpoint.hasPort,
      Endpoint.stripPort]
    by_cases hbracket : ']' ∈ after
    · simp [hbracket, pure, Except.pure]
    · simp [hbracket, Text.slice_start]

variable {s before port host : Text}

theorem host?_of_open (hhost : host.any isBracket = false) (hopen : s.head? = some '[') :
    Endpoint.host? s = some host ↔ s = '[' :: (host ++ [']']) := by
  rw [host?_eq_some_iff hhost, or_iff_right]
  rintro ⟨rfl, -⟩
  exact (any_isBracket_eq_false_iff.1 hhost).1 (List.mem_of_head? hopen)

theorem findFirst?_of_bracketed (h : ']' ∉ host) :
    findFirst? ']' ('[' :: (host ++ [']']) ++ ':' :: port) = some (size ('[' :: host)) := by
  rw [Text.findFirst?_eq_some_iff]
  refine ⟨'[' :: host, ':' :: port, by simp, ?_, rfl⟩
  rw [List.mem_cons, not_or]
  exact ⟨by decide, h⟩

theorem slice_bracketed (host port : Text) :
    slice ('[' :: host ++ [']'] ++ ':' :: port) 1 (size ('[' :: host)) = .ok host := by
  have hone : '['.utf8Size = 1 := rfl
  simpa [hone] using Text.slice_append ['['] host (']' :: ':' :: port)

theorem slice_port (before port : Text) :
    slice (before ++ ':' :: port) (size before + 1) (size (before ++ ':' :: port)) = .ok port := by
  have hone : ':'.utf8Size = 1 := rfl
  simpa [hone] using Text.slice_end (before ++ [':']) port

theorem exists_host_of_findFirst? {close : Nat} (hopen : before.head? = some '[')
    (hfind : findFirst? ']' (before ++ ':' :: port) = some close) (hclose : close + 1 = size before) :
    ∃ host, ']' ∉ host ∧ before = '[' :: (host ++ [']']) := by
  obtain ⟨a, b, hs, ha, rfl⟩ := Text.findFirst?_eq_some_iff.1 hfind
  have hsize : size (a ++ [']']) = size before := by
    rw [← hclose, Text.size_append]
    rfl
  have hbefore := (Text.append_inj_of_size (by simpa using hs.symm) hsize).1
  subst hbefore
  cases a with
  | nil => contradiction
  | cons c host =>
    obtain rfl : c = '[' := by simpa using hopen
    rw [List.mem_cons, not_or] at ha
    exact ⟨host, ha.2, rfl⟩

theorem exists_host?_of_open (hopen : before.head? = some '[') (port : Text) :
    ∃ r, host? (before ++ ':' :: port) (size before) = .ok r ∧
      ∀ host, host.any isBracket = false → (r = some host ↔ Endpoint.host? before = some host) := by
  unfold host?
  rw [if_pos (head?_append_colon.2 hopen)]
  by_cases hbrackets : ∃ host, ']' ∉ host ∧ before = '[' :: (host ++ [']'])
  · obtain ⟨host, hhost, rfl⟩ := hbrackets
    have hplace : size ('[' :: host) + 1 = size ('[' :: (host ++ [']'])) := by
      rw [← List.cons_append, Text.size_append]
      rfl
    refine ⟨some host, ?_, ?_⟩
    · rw [findFirst?_of_bracketed hhost]
      dsimp only
      rw [if_pos hplace, ← List.cons_append, slice_bracketed]
      rfl
    · intro host' _
      rw [host?_of_bracketed]
  · refine ⟨none, ?_, ?_⟩
    · split
      · rfl
      · next close hfind =>
        rw [if_neg fun heq => hbrackets (exists_host_of_findFirst? hopen hfind heq)]
        rfl
    · intro host hhost
      rw [host?_of_open hhost hopen]
      simp only [reduceCtorEq, false_iff]
      intro heq
      exact hbrackets ⟨host, (any_isBracket_eq_false_iff.1 hhost).2, heq⟩

theorem exists_host? (before port : Text) :
    ∃ r, host? (before ++ ':' :: port) (size before) = .ok r ∧
      ∀ host, host.any isBracket = false → (r = some host ↔ Endpoint.host? before = some host) := by
  by_cases hopen : before.head? = some '['
  · exact exists_host?_of_open hopen port
  · unfold host? Endpoint.host?
    rw [if_neg (mt head?_append_colon.1 hopen), if_neg hopen, Text.slice_start]
    by_cases hcolon : ':' ∈ before
    · exact ⟨none, if_pos hcolon, fun host _ => by rw [if_pos hcolon]⟩
    · exact ⟨some before, if_neg hcolon, fun host _ => by rw [if_neg hcolon]⟩

theorem ofText?_eq (s : Text) : ofText? s = .ok (Endpoint.ofText? s) := by
  cases hcut : Text.cutLast? ':' s with
  | none =>
    unfold ofText? Endpoint.ofText?
    simp only [findLast?, hcut]
    rfl
  | some cut =>
    obtain ⟨before, port⟩ := cut
    obtain ⟨hs, hcolon⟩ := Text.cutLast?_eq_some_iff.1 hcut
    obtain ⟨r, hread, hsame⟩ := exists_host? before port
    have hfilter : r.filter (fun host => !host.any isBracket) =
        (Endpoint.host? before).filter fun host => !host.any isBracket := by
      ext host
      simp only [Option.filter_eq_some_iff, Bool.not_eq_true', and_comm (b := _ = false)]
      exact and_congr_right (hsame host)
    rw [hs, ofText?_append_filter hcolon, ← hfilter]
    unfold ofText?
    rw [← hs]
    simp only [findLast?, hcut, Option.map_some]
    rw [hs, hread]
    cases r with
    | none => rfl
    | some host =>
      dsimp only [bind, Except.bind]
      rw [slice_port, Option.filter_some]
      dsimp only
      cases host.any isBracket with
      | true => rfl
      | false => cases port.any isBracket <;> rfl

end Offset

end ForwardProxy.Endpoint
