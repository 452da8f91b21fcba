import ForwardProxy.Text.Digits

/-!
This module contains string literals of JSON: how a text is written as one, and how one is read. The
readers start after the opening quote, and give what follows the closing one.
-/

namespace ForwardProxy.Json

def escape (c : Char) : Text :=
  if c = '"' then "\\\"".toList
  else if c = '\\' then "\\\\".toList
  else if c = '\x08' then "\\b".toList
  else if c = '\x0c' then "\\f".toList
  else if c = '\n' then "\\n".toList
  else if c = '\r' then "\\r".toList
  else if c = '\t' then "\\t".toList
  else if c.toNat < 0x20 then
    "\\u00".toList ++ [Nat.digitChar (c.toNat / 16), Nat.digitChar (c.toNat % 16)]
  else [c]

def quote (s : Text) : Text :=
  '"' :: s.flatMap escape ++ ['"']

def unit? : Text → Option (Nat × Text)
  | a :: b :: c :: d :: rest => (Text.number? 16 [a, b, c, d]).map (·, rest)
  | _ => none

def isLeading (n : Nat) : Bool :=
  0xD800 ≤ n && n < 0xDC00

def isTrailing (n : Nat) : Bool :=
  0xDC00 ≤ n && n < 0xE000

def shortEscape? (c : Char) : Option Char :=
  match c with
  | '"' => some '"'
  | '\\' => some '\\'
  | '/' => some '/'
  | 'b' => some '\x08'
  | 'f' => some '\x0c'
  | 'n' => some '\n'
  | 'r' => some '\r'
  | 't' => some '\t'
  | _ => none

def readEscape? : Text → Option (Char × Text)
  | 'u' :: rest =>
    match unit? rest with
    | none => none
    | some (n, rest) =>
      if isTrailing n then none
      else if isLeading n then
        match rest with
        | '\\' :: 'u' :: rest =>
          match unit? rest with
          | none => none
          | some (m, rest) =>
            if isTrailing m then
              some (Char.ofNat (0x10000 + (n - 0xD800) * 0x400 + (m - 0xDC00)), rest)
            else none
        | _ => none
      else some (Char.ofNat n, rest)
  | c :: rest => (shortEscape? c).map (·, rest)
  | [] => none

theorem unit?_length {s rest : Text} {n : Nat} (h : unit? s = some (n, rest)) :
    rest.length < s.length := by
  unfold unit? at h
  split at h
  · obtain ⟨_, -, h⟩ := Option.map_eq_some_iff.1 h
    obtain ⟨-, rfl⟩ := Prod.mk.inj h
    simp only [List.length_cons]
    omega
  · simp at h

theorem readEscape?_length {s rest : Text} {c : Char} (h : readEscape? s = some (c, rest)) :
    rest.length < s.length := by
  unfold readEscape? at h
  split at h
  · split at h
    · simp at h
    · rename_i hu
      have := unit?_length hu
      split at h
      · simp at h
      · split at h
        · split at h
          · split at h
            · simp at h
            · rename_i hu
              have := unit?_length hu
              split at h
              · simp only [Option.some.injEq, Prod.mk.injEq] at h
                simp only [List.length_cons, ← h.2] at *
                omega
              · simp at h
          · simp at h
        · simp only [Option.some.injEq, Prod.mk.injEq] at h
          simp only [List.length_cons, ← h.2]
          omega
  · obtain ⟨_, -, h⟩ := Option.map_eq_some_iff.1 h
    simp [← (Prod.mk.inj h).2]
  · simp at h

def readString? (s : Text) : Option (Text × Text) :=
  match s with
  | [] => none
  | '"' :: rest => some ([], rest)
  | '\\' :: rest =>
    match h : readEscape? rest with
    | none => none
    | some (c, after) =>
      have := readEscape?_length h
      (readString? after).map fun (text, rest) => (c :: text, rest)
  | c :: rest =>
    if c.toNat < 0x20 then none
    else (readString? rest).map fun (text, rest) => (c :: text, rest)
termination_by s.length

/-- Skips a string. Unlike in one that is read, code units need not be paired. -/
def skipString? : Text → Option Text
  | [] => none
  | '"' :: rest => some rest
  | '\\' :: 'u' :: a :: b :: c :: d :: rest =>
    if (unit? [a, b, c, d]).isSome then skipString? rest else none
  | '\\' :: c :: rest => if (shortEscape? c).isSome then skipString? rest else none
  | c :: rest => if c.toNat < 0x20 || c = '\\' then none else skipString? rest

theorem readString?_length {s text rest : Text} (h : readString? s = some (text, rest)) :
    rest.length < s.length := by
  fun_induction readString? s generalizing text rest with
  | case1 => simp at h
  | case2 => simp_all
  | case3 => simp at h
  | case4 rest' c after he _ ih =>
    obtain ⟨⟨t, r⟩, ht, h⟩ := Option.map_eq_some_iff.1 h
    have := readEscape?_length he
    have := ih ht
    simp only [Prod.mk.injEq] at h
    simp only [List.length_cons, ← h.2]
    omega
  | case5 => simp at h
  | case6 c rest' _ _ _ ih =>
    obtain ⟨⟨t, r⟩, ht, h⟩ := Option.map_eq_some_iff.1 h
    have := ih ht
    simp only [Prod.mk.injEq] at h
    simp only [List.length_cons, ← h.2]
    omega

theorem skipString?_length {s rest : Text} (h : skipString? s = some rest) :
    rest.length < s.length := by
  fun_induction skipString? s with
  | case1 => simp at h
  | case2 => simp_all
  | case3 a b c d rest' _ ih =>
    have := ih h
    simp only [List.length_cons]
    omega
  | case4 => simp at h
  | case5 c rest' _ _ ih =>
    have := ih h
    simp only [List.length_cons]
    omega
  | case6 => simp at h
  | case7 => simp at h
  | case8 c rest' _ _ _ _ ih =>
    have := ih h
    simp only [List.length_cons]
    omega

end ForwardProxy.Json
