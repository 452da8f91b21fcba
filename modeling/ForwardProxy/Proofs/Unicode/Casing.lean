import ForwardProxy.Text.LowerCase

/-!
This module contains what the table of small letters says as a whole. Main statements:
`image?_image` says that a small letter has no small letter of its own, and `Run.avoids_image?` that
a range which no run touches holds neither capital nor small letters of the table.
-/

namespace ForwardProxy.Unicode

namespace Run

variable {run : Run} {runs : List Run} {n m : Nat}

theorem exists_of_image? (h : image? runs n = some m) :
    ∃ run ∈ runs, ∃ i, run.first + i ≤ run.last ∧ i % run.step = 0 ∧
      n = run.first + i ∧ m = run.image + i := by
  induction runs with
  | nil => contradiction
  | cons run rest ih =>
    unfold image? at h
    split at h
    · contradiction
    · split at h
      · next hstart hrun =>
        rw [Option.some.injEq] at h
        exact ⟨run, List.mem_cons_self, n - run.first, by omega, hrun.2, by omega, h.symm⟩
      · obtain ⟨found, hmem, hfound⟩ := ih h
        exact ⟨found, List.mem_cons_of_mem _ hmem, hfound⟩

def avoids (span : Nat × Nat) (run : Run) : Bool :=
  (span.2 < run.first || run.last < span.1) &&
    (span.2 < run.image || run.image + (run.last - run.first) < span.1)

theorem avoids_image? {span : Nat × Nat} (hruns : runs.all (avoids span) = true)
    (h : image? runs n = some m) :
    ¬ (span.1 ≤ n ∧ n ≤ span.2) ∧ ¬ (span.1 ≤ m ∧ m ≤ span.2) := by
  obtain ⟨run, hmem, i, hi, -, rfl, rfl⟩ := exists_of_image? h
  have hrun := List.all_eq_true.1 hruns run hmem
  unfold avoids at hrun
  simp only [Bool.and_eq_true, Bool.or_eq_true, decide_eq_true_eq] at hrun
  omega

/-- No image of a run is sent elsewhere by others: the images lie outside of them, or on the code
points that a run in steps of two leaves out. -/
def isFinal (run : Run) : List Run → Bool
  | [] => true
  | other :: rest =>
    run.image + (run.last - run.first) < other.first ||
      (other.last < run.image ||
        ((run.step == 2 || run.first == run.last) && other.step == 2 &&
          (run.image + other.first) % 2 == 1)) && isFinal run rest

theorem image?_of_isFinal {i : Nat} (hfinal : run.isFinal runs = true)
    (hi : run.first + i ≤ run.last) (hstep : i % run.step = 0) :
    image? runs (run.image + i) = none := by
  induction runs with
  | nil => rfl
  | cons other rest ih =>
    unfold isFinal at hfinal
    simp only [Bool.or_eq_true, Bool.and_eq_true, decide_eq_true_eq, beq_iff_eq] at hfinal
    unfold image?
    split
    · rfl
    · next hstart =>
      rcases hfinal with hbefore | ⟨hother, hrest⟩
      · omega
      · rw [if_neg]
        · exact ih hrest
        · rintro ⟨hlast, hmod⟩
          rcases hother with hafter | ⟨⟨heven, htwo⟩, hodd⟩
          · omega
          · have hi' : i % 2 = 0 := by
              cases heven with
              | inl h => rwa [h] at hstep
              | inr h => omega
            rw [htwo] at hmod
            omega

end Run

theorem isFinal_lowerCase : (lowerCase.all fun run => run.isFinal lowerCase) = true := by
  decide +kernel

theorem image?_image {n m : Nat} (h : Run.image? lowerCase n = some m) :
    Run.image? lowerCase m = none := by
  obtain ⟨run, hmem, i, hi, hstep, -, rfl⟩ := Run.exists_of_image? h
  exact Run.image?_of_isFinal (List.all_eq_true.1 isFinal_lowerCase run hmem) hi hstep

theorem isValidChar_image {n m : Nat} (h : Run.image? lowerCase n = some m) : m.isValidChar := by
  have hsurrogate : lowerCase.all (Run.avoids (0xD800, 0xDFFF)) = true := by decide +kernel
  have hlast : (lowerCase.all fun run => run.image + (run.last - run.first) < 0x110000) = true := by
    decide +kernel
  have hm := (Run.avoids_image? hsurrogate h).2
  obtain ⟨run, hmem, i, hi, -, -, rfl⟩ := Run.exists_of_image? h
  have hrun := List.all_eq_true.1 hlast run hmem
  rw [decide_eq_true_eq] at hrun
  dsimp only at hm
  unfold Nat.isValidChar
  omega

end ForwardProxy.Unicode
