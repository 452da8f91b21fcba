import ForwardProxy.Json.Number
import ForwardProxy.Proofs.Text.Digits
import Mathlib.Data.List.Basic

/-!
This module contains the grammar of numbers. Main statement: `readNumeral?_append` says that a
number is read to its end, if no character follows that could be part of it.
-/

namespace ForwardProxy.Json

open Text (isDecimal)

def IsDigits (s : Text) : Prop :=
  s ≠ [] ∧ ∀ c ∈ s, isDecimal c = true

def IsWhole (s : Text) : Prop :=
  IsDigits s ∧ (s.head? = some '0' → s = ['0'])

def IsFraction (s : Text) : Prop :=
  s = [] ∨ ∃ digits, IsDigits digits ∧ s = '.' :: digits

def IsExponent (s : Text) : Prop :=
  s = [] ∨ ∃ e sign digits, (e = 'e' ∨ e = 'E') ∧ (sign = [] ∨ sign = ['+'] ∨ sign = ['-']) ∧
    IsDigits digits ∧ s = e :: (sign ++ digits)

def IsNumber (s : Text) : Prop :=
  ∃ sign whole fraction exponent, (sign = [] ∨ sign = ['-']) ∧ IsWhole whole ∧
    IsFraction fraction ∧ IsExponent exponent ∧ s = sign ++ (whole ++ (fraction ++ exponent))

def continuesNumber (c : Char) : Bool :=
  isDecimal c || c = '.' || c = 'e' || c = 'E'

def EndsNumber (rest : Text) : Prop :=
  ∀ c ∈ rest.head?, continuesNumber c = false

theorem continuesNumber_eq_false_iff {c : Char} :
    continuesNumber c = false ↔ isDecimal c = false ∧ c ≠ '.' ∧ c ≠ 'e' ∧ c ≠ 'E' := by
  simp [continuesNumber, and_assoc]

theorem IsDigits.exists_cons {s : Text} (h : IsDigits s) :
    ∃ c t, s = c :: t ∧ isDecimal c = true := by
  obtain ⟨c, t, rfl⟩ := List.exists_cons_of_ne_nil h.1
  exact ⟨c, t, rfl, h.2 c List.mem_cons_self⟩

theorem ne_of_isDecimal {c : Char} (h : isDecimal c = true) : c ≠ '-' ∧ c ≠ '+' := by
  constructor
  · rintro rfl
    exact absurd h (by decide)
  · rintro rfl
    exact absurd h (by decide)

theorem head?_exponent_append {exponent rest : Text} (h : IsExponent exponent)
    (hrest : EndsNumber rest) :
    ∀ c ∈ (exponent ++ rest).head?, isDecimal c = false ∧ c ≠ '.' := by
  intro c hc
  obtain rfl | ⟨e, sign, digits, he, -, -, rfl⟩ := h
  · have := continuesNumber_eq_false_iff.1 (hrest c hc)
    exact ⟨this.1, this.2.1⟩
  · obtain rfl := Option.some.inj hc
    obtain rfl | rfl := he
    · decide
    · decide

theorem head?_fraction_append {fraction rest : Text} (h : IsFraction fraction)
    (hrest : ∀ c ∈ rest.head?, isDecimal c = false) :
    ∀ c ∈ (fraction ++ rest).head?, isDecimal c = false := by
  intro c hc
  obtain rfl | ⟨digits, -, rfl⟩ := h
  · exact hrest c hc
  · obtain rfl := Option.some.inj hc
    decide

theorem readDigits?_append {digits rest : Text} (h : IsDigits digits)
    (hrest : ∀ c ∈ rest.head?, isDecimal c = false) :
    readDigits? (digits ++ rest) = some (digits, rest) := by
  have htake : (digits ++ rest).takeWhile isDecimal = digits := by
    rw [List.takeWhile_append_of_pos h.2]
    cases rest with
    | nil => simp
    | cons c rest => simp [hrest c rfl]
  unfold readDigits?
  simp only [htake, List.isEmpty_eq_false_iff.2 h.1, Bool.false_eq_true, if_false,
    List.drop_left]

theorem readWhole?_append {whole rest : Text} (h : IsWhole whole)
    (hrest : ∀ c ∈ rest.head?, isDecimal c = false) :
    readWhole? (whole ++ rest) = some (whole, rest) := by
  unfold readWhole?
  rw [readDigits?_append h.1 hrest]
  split
  · next hzero =>
    obtain ⟨rfl, -⟩ := Prod.mk.inj (Option.some.inj hzero)
    exact absurd (h.2 rfl) (by simp)
  · rfl

theorem readFraction?_append {fraction rest : Text} (h : IsFraction fraction)
    (hrest : ∀ c ∈ rest.head?, isDecimal c = false ∧ c ≠ '.') :
    ∃ digits, readFraction? (fraction ++ rest) = some (digits, rest) := by
  obtain rfl | ⟨digits, hdigits, rfl⟩ := h
  · refine ⟨none, ?_⟩
    unfold readFraction?
    split
    · next hdot => exact absurd rfl (hrest '.' (by rw [← List.nil_append rest, hdot]; rfl)).2
    · rfl
  · refine ⟨some digits, ?_⟩
    rw [List.cons_append, readFraction?, readDigits?_append hdigits fun c hc => (hrest c hc).1]
    rfl

theorem readSign_append {sign digits : Text} (hsign : sign = [] ∨ sign = ['+'] ∨ sign = ['-'])
    (hdigits : IsDigits digits) (rest : Text) :
    (readSign (sign ++ (digits ++ rest))).2 = digits ++ rest := by
  obtain rfl | rfl | rfl := hsign
  · obtain ⟨c, t, rfl, hc⟩ := hdigits.exists_cons
    rw [List.nil_append, List.cons_append, readSign]
    · exact fun _ h => (ne_of_isDecimal hc).1 (List.cons.inj h).1
    · exact fun _ h => (ne_of_isDecimal hc).2 (List.cons.inj h).1
  · rfl
  · rfl

theorem readExponent?_append {exponent rest : Text} (h : IsExponent exponent)
    (hrest : EndsNumber rest) :
    ∃ digits, readExponent? (exponent ++ rest) = some (digits, rest) := by
  obtain rfl | ⟨e, sign, digits, he, hsign, hdigits, rfl⟩ := h
  · refine ⟨none, ?_⟩
    cases rest with
    | nil => rfl
    | cons c rest =>
      have hc := continuesNumber_eq_false_iff.1 (hrest c rfl)
      exact if_neg (not_or.2 hc.2.2)
  · have hend : ∀ c ∈ rest.head?, isDecimal c = false :=
      fun c hc => (continuesNumber_eq_false_iff.1 (hrest c hc)).1
    refine ⟨some ((readSign (sign ++ (digits ++ rest))).1, digits), ?_⟩
    rw [List.cons_append, List.append_assoc, readExponent?, if_pos he]
    simp only
    rw [readSign_append hsign hdigits, readDigits?_append hdigits hend]
    rfl

theorem cutMinus_append {sign whole : Text} (hsign : sign = [] ∨ sign = ['-'])
    (hwhole : IsWhole whole) (rest : Text) :
    ∃ isNegative, (if (sign ++ (whole ++ rest)).head? = some '-' then
        (true, (sign ++ (whole ++ rest)).tail) else (false, sign ++ (whole ++ rest))) =
      (isNegative, whole ++ rest) := by
  obtain rfl | rfl := hsign
  · obtain ⟨c, t, rfl, hc⟩ := hwhole.1.exists_cons
    refine ⟨false, if_neg ?_⟩
    exact fun h => (ne_of_isDecimal hc).1 (Option.some.inj h)
  · exact ⟨true, rfl⟩

theorem readNumeral?_append {s rest : Text} (h : IsNumber s) (hrest : EndsNumber rest) :
    ∃ x, readNumeral? (s ++ rest) = some (x, rest) := by
  obtain ⟨sign, whole, fraction, exponent, hsign, hwhole, hfraction, hexponent, rfl⟩ := h
  have hafter := head?_exponent_append hexponent hrest
  have hbefore := head?_fraction_append hfraction fun c hc => (hafter c hc).1
  obtain ⟨isNegative, hminus⟩ :=
    cutMinus_append hsign hwhole (fraction ++ (exponent ++ rest))
  obtain ⟨digits, hreadFraction⟩ := readFraction?_append hfraction hafter
  obtain ⟨power, hreadExponent⟩ := readExponent?_append hexponent hrest
  refine ⟨⟨isNegative, whole, digits, power⟩, ?_⟩
  simp only [List.append_assoc] at *
  simp only [readNumeral?, hminus, readWhole?_append hwhole hbefore, hreadFraction, hreadExponent,
    Option.bind_eq_bind, Option.bind_some, Option.pure_def]

theorem IsNumber.exists_cons {s : Text} (h : IsNumber s) :
    ∃ c t, s = c :: t ∧ (isDecimal c = true ∨ c = '-') := by
  obtain ⟨sign, whole, fraction, exponent, hsign, hwhole, -, -, rfl⟩ := h
  obtain rfl | rfl := hsign
  · obtain ⟨c, t, rfl, hc⟩ := hwhole.1.exists_cons
    exact ⟨c, _, rfl, .inl hc⟩
  · exact ⟨'-', _, rfl, .inr rfl⟩

end ForwardProxy.Json
