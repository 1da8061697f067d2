import DryRun.Text.Case

/-!
# Case forms of a text put together

Lowercase looks at the neighbours of a capital sigma. A character that is no part of a word is a
barrier to it: no sigma looks across it, so the two sides of a barrier have their lowercase apart
from each other (`IsBarrier.lower_append`).

Uppercase is decided character by character (`upperChar_eq` lists the forms). No character that it
gives has another uppercase form, so a text is in capitals after the first time (`upper_upper`).
What is no word character does not turn into a letter from A to Z (`isWordChar_of_upperChar`).
-/

set_option autoImplicit false

namespace DryRun.Text

/-- A character at which a search for a cased neighbour ends without having found one. -/
structure IsBarrier (c : Char) : Prop where
  stops : inRanges caseIgnorableRanges c.toNat = false
  uncased : inRanges casedRanges c.toNat = false

namespace IsBarrier

variable {c : Char} (barrier : IsBarrier c)

include barrier

/-- What is behind a barrier is not met. -/
theorem meetsCased_append (s t : Text) : meetsCased (s ++ c :: t) = meetsCased s := by
  unfold meetsCased
  rw [List.find?_append]
  cases s.find? fun c => !inRanges caseIgnorableRanges c.toNat with
  | some d => rfl
  | none => simp [barrier.stops, barrier.uncased]

/-- What stands before a barrier does not matter to what comes after it. -/
theorem lowerFrom_behind (near far s : Text) :
    lowerFrom (near ++ c :: far) s = lowerFrom near s := by
  induction s generalizing near with
  | nil => rfl
  | cons d s ih =>
    have rest := ih (d :: near)
    rw [List.cons_append] at rest
    rw [lowerFrom, lowerFrom, barrier.meetsCased_append, rest]

/-- What comes after a barrier does not matter to what stands before it. -/
theorem lowerFrom_append (before s t : Text) :
    lowerFrom before (s ++ c :: t) =
      lowerFrom before s ++ lowerFrom (s.reverse ++ before) (c :: t) := by
  induction s generalizing before with
  | nil => rfl
  | cons d s ih =>
    have regrouped : (d :: s).reverse ++ before = s.reverse ++ d :: before := by simp
    rw [List.cons_append, lowerFrom, lowerFrom, barrier.meetsCased_append, ih, regrouped,
      List.append_assoc]

/-- A text with a barrier in it is lowered on either side. -/
theorem lower_append (s t : Text) : lower (s ++ c :: t) = lower s ++ lowerChar c ++ lower t := by
  have noSigma : c ≠ 'Σ' := by
    rintro rfl
    exact absurd barrier.uncased (by decide +kernel)
  have behind := barrier.lowerFrom_behind [] s.reverse t
  rw [List.nil_append] at behind
  unfold lower
  rw [barrier.lowerFrom_append, List.append_nil, lowerFrom, if_neg (by simpa using noSigma), behind,
    List.append_assoc]

end IsBarrier

/-- The double quote mark is a barrier. -/
theorem isBarrier_quote : IsBarrier '\x22' := ⟨by decide +kernel, by decide +kernel⟩

/-! ## Capitals -/

/-- The code points of a run. -/
def CaseRun.points (run : CaseRun) : List Nat :=
  (List.range ((run.last - run.first) / run.stride + 1)).map fun k => run.first + k * run.stride

/-- The code points of a run are those that its step leads to. -/
theorem CaseRun.mem_points {run : CaseRun} {n : Nat} (first : run.first ≤ n) (last : n ≤ run.last)
    (step : (n - run.first) % run.stride = 0) : n ∈ run.points := by
  have steps := Nat.div_add_mod (n - run.first) run.stride
  rw [step, Nat.add_zero, Nat.mul_comm] at steps
  have bound : (n - run.first) / run.stride ≤ (run.last - run.first) / run.stride :=
    Nat.div_le_div_right (by omega)
  refine List.mem_map.mpr ⟨(n - run.first) / run.stride, List.mem_range.mpr ?_, ?_⟩
  · omega
  · omega

/-- The number whose binary digits mark the members of a list. -/
def marks : List Nat → Nat
  | [] => 0
  | n :: rest => marks rest ||| 1 <<< n

/-- The bits that are set are those of the listed numbers. -/
theorem testBit_marks {n : Nat} {l : List Nat} : (marks l).testBit n = true ↔ n ∈ l := by
  induction l with
  | nil => simp [marks]
  | cons m l ih =>
    rw [marks, Nat.testBit_or, Nat.one_shiftLeft, Nat.testBit_two_pow, Bool.or_eq_true, ih,
      decide_eq_true_eq, List.mem_cons, or_comm, eq_comm]

/-- The code points that have another code point, or several, in upper case. -/
def smallPoints : List Nat :=
  (List.range 26).map (97 + ·) ++
    (upperExpansions.map Prod.fst ++ upperRuns.flatMap CaseRun.points)

/-- The code points that these have in upper case. -/
def capitalPoints : List Nat :=
  (List.range 26).map (65 + ·) ++
    (upperExpansions.flatMap Prod.snd ++
      upperRuns.flatMap fun run => run.points.map fun (n : Nat) => (n + run.shift).toNat)

/-- No capital has another form in upper case, and none is a quote mark. The small letters are
looked up in one number. -/
theorem capitalPoints_settled :
    (capitalPoints.all fun n =>
      (Char.ofNat n).toNat == n && !(marks smallPoints).testBit n && n != 0x27) = true := by
  decide +kernel

/-- A capital form is the code of a character, and neither a small letter nor an apostrophe. -/
theorem capitalPoints_spec {n : Nat} (known : n ∈ capitalPoints) :
    (Char.ofNat n).toNat = n ∧ n ∉ smallPoints ∧ n ≠ 0x27 := by
  have settled := List.all_eq_true.mp capitalPoints_settled n known
  simp only [Bool.and_eq_true, beq_iff_eq, Bool.not_eq_true', ← Bool.not_eq_true, testBit_marks,
    bne_iff_ne] at settled
  exact ⟨settled.1.1, settled.1.2, settled.2⟩

/-- The letters that have another form in upper case, each with the code points of that form. -/
def capitalForms : List (Nat × List Nat) :=
  (List.range 26).map (fun k => (97 + k, [65 + k])) ++
    (upperExpansions ++
      upperRuns.flatMap fun run => run.points.map fun (n : Nat) => (n, [(n + run.shift).toNat]))

/-- The code points of the small letters are those of the table. -/
theorem smallPoints_eq : smallPoints = capitalForms.map Prod.fst := by
  simp [smallPoints, capitalForms, List.map_flatMap, Function.comp_def]

/-- The code points of the capital forms are those of the table. -/
theorem capitalPoints_eq : capitalPoints = capitalForms.flatMap Prod.snd := by
  simp [capitalPoints, capitalForms, List.flatMap_append, List.flatMap_assoc, List.map_eq_flatMap]

/-- Among the first 128 characters the small letters are the ones that change. -/
theorem ascii_upper :
    ∀ n < 128, (Char.ofNat n).toUpper = Char.ofNat n ∨
      ∃ k ∈ List.range 26, n = 97 + k ∧ (Char.ofNat n).toUpper = Char.ofNat (65 + k) := by
  decide +kernel

/-- A character is its own upper case, or it is listed with its form there. -/
theorem upperChar_eq (c : Char) :
    upperChar c = [c] ∨
      ∃ form ∈ capitalForms, form.1 = c.toNat ∧ upperChar c = form.2.map Char.ofNat := by
  unfold upperChar
  split
  next ascii =>
    have all := ascii_upper c.toNat ascii
    rw [Char.ofNat_toNat] at all
    rcases all with same | ⟨k, known, code, capital⟩
    · exact .inl (by rw [same])
    · refine .inr ⟨(97 + k, [65 + k]), List.mem_append_left _ ?_, code.symm, by rw [capital]; rfl⟩
      exact List.mem_map.mpr ⟨k, known, rfl⟩
  next =>
    unfold caseForm
    cases expanded : upperExpansions.lookup c.toNat with
    | some codes =>
      obtain ⟨front, back, entries, -⟩ := List.lookup_eq_some_iff.mp expanded
      have entry : (c.toNat, codes) ∈ upperExpansions := by simp [entries]
      exact .inr ⟨_, List.mem_append_right _ (List.mem_append_left _ entry), rfl, rfl⟩
    | none =>
      show [Char.ofNat (shiftCase upperRuns c.toNat)] = [c] ∨ _
      unfold shiftCase
      split
      next run found =>
        have known := List.mem_of_find?_eq_some found
        have inside := List.find?_some found
        simp only [Bool.and_eq_true, decide_eq_true_eq, beq_iff_eq] at inside
        have point := CaseRun.mem_points inside.1.1 inside.1.2 inside.2
        refine .inr ⟨(c.toNat, [(c.toNat + run.shift).toNat]), ?_, rfl, ?_⟩
        · exact List.mem_append_right _ (List.mem_append_right _
            (List.mem_flatMap.mpr ⟨run, known, List.mem_map.mpr ⟨_, point, rfl⟩⟩))
        · rw [List.map_cons, List.map_nil]
      next => exact .inl (by rw [Char.ofNat_toNat])

/-- A character is its own upper case, or it is small and has capitals there. -/
theorem upperChar_cases (c : Char) :
    upperChar c = [c] ∨
      c.toNat ∈ smallPoints ∧ ∀ d ∈ upperChar c, ∃ n ∈ capitalPoints, d = Char.ofNat n := by
  refine (upperChar_eq c).imp_right ?_
  rintro ⟨form, known, code, capitals⟩
  rw [smallPoints_eq, capitalPoints_eq, capitals, ← code]
  refine ⟨List.mem_map_of_mem known, fun d member => ?_⟩
  obtain ⟨n, inside, rfl⟩ := List.mem_map.mp member
  exact ⟨n, List.mem_flatMap.mpr ⟨form, known, inside⟩, rfl⟩

/-- What stands in upper case is its own upper case. -/
theorem upperChar_of_mem {c d : Char} (member : d ∈ upperChar c) : upperChar d = [d] := by
  rcases upperChar_cases c with same | ⟨-, capitals⟩
  · rw [same] at member
    rw [List.mem_singleton.mp member, same]
  · obtain ⟨n, known, rfl⟩ := capitals d member
    obtain ⟨code, settled, -⟩ := capitalPoints_spec known
    exact (upperChar_cases _).resolve_right fun small => settled (code ▸ small.1)

/-- Capitals of capitals are the same capitals. -/
theorem upper_upper (s : Text) : upper (upper s) = upper s := by
  have fixed (t : Text) (settled : ∀ d ∈ t, upperChar d = [d]) : upper t = t := by
    induction t with
    | nil => rfl
    | cons d t ih =>
      obtain ⟨first, others⟩ := List.forall_mem_cons.mp settled
      rw [upper, List.flatMap_cons, first, ← upper, ih others]
      rfl
  refine fixed _ fun d member => ?_
  obtain ⟨c, -, form⟩ := List.mem_flatMap.mp member
  exact upperChar_of_mem form

/-- What is not the capital of another character is not in upper case if it was not there before. -/
theorem not_mem_upper {d : Char} {s : Text} (other : d.toNat ∉ capitalPoints) (bare : d ∉ s) :
    d ∉ upper s := by
  intro member
  obtain ⟨c, inside, form⟩ := List.mem_flatMap.mp member
  rcases upperChar_cases c with same | ⟨-, capitals⟩
  · rw [same] at form
    exact bare (List.mem_singleton.mp form ▸ inside)
  · obtain ⟨n, known, same⟩ := capitals _ form
    rw [same, (capitalPoints_spec known).1] at other
    exact other known

/-- No other character turns into a quote mark in upper case. -/
theorem not_mem_upper_quote {s : Text} (bare : '\x27' ∉ s) : '\x27' ∉ upper s :=
  not_mem_upper (fun known => (capitalPoints_spec known).2.2 rfl) bare

/-- No other character turns into a space in upper case. -/
theorem not_mem_upper_space {s : Text} (solid : ' ' ∉ s) : ' ' ∉ upper s :=
  not_mem_upper (by decide +kernel) solid

/-- No other character turns into a line feed in upper case. -/
theorem not_mem_upper_feed {s : Text} (whole : '\n' ∉ s) : '\n' ∉ upper s :=
  not_mem_upper (by decide +kernel) whole

/-- No form in upper case is empty, and none begins with a letter from A to Z that is not the form
of a word character. -/
theorem capitalForms_settled :
    (capitalForms.all fun form =>
      !form.2.isEmpty &&
        (!(form.2.head?.any fun n => isAsciiLetter (Char.ofNat n)) ||
          isWordChar (Char.ofNat form.1))) = true := by
  decide +kernel

/-- Every character has a capital form. -/
theorem upperChar_ne_nil (c : Char) : upperChar c ≠ [] := by
  rcases upperChar_eq c with same | ⟨form, known, -, capitals⟩
  · simp [same]
  · have settled := List.all_eq_true.mp capitalForms_settled form known
    simp only [Bool.and_eq_true, Bool.not_eq_true', List.isEmpty_eq_false_iff] at settled
    rw [capitals]
    exact mt List.map_eq_nil_iff.mp settled.1

/-- Only word characters have an upper case that begins with a letter from A to Z. -/
theorem isWordChar_of_upperChar {c d : Char} (first : (upperChar c).head? = some d)
    (letter : isAsciiLetter d = true) : isWordChar c = true := by
  rcases upperChar_eq c with same | ⟨form, known, code, capitals⟩
  · obtain rfl : c = d := by simpa [same] using first
    have ascii : c.toNat < 128 := by
      simp only [isAsciiLetter, Bool.or_eq_true, Bool.and_eq_true, decide_eq_true_eq, Char.le_def,
        UInt32.le_iff_toNat_le] at letter
      change (97 ≤ c.toNat ∧ c.toNat ≤ 122) ∨ (65 ≤ c.toNat ∧ c.toNat ≤ 90) at letter
      omega
    rw [isWordChar, if_pos ascii, letter]
    rfl
  · have settled := List.all_eq_true.mp capitalForms_settled form known
    simp only [Bool.and_eq_true, Bool.or_eq_true, Bool.not_eq_true'] at settled
    rw [← Char.ofNat_toNat c, ← code]
    refine settled.2.resolve_left fun other => ?_
    rw [capitals, List.head?_map, Option.map_eq_some_iff] at first
    obtain ⟨n, first, rfl⟩ := first
    rw [first, Option.any_some, letter] at other
    cases other

end DryRun.Text
