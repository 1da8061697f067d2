import DryRun.Grade
import DryRun.Proofs.Query.Search
import DryRun.Proofs.Text.Context

/-!
# Noise around a prediction

A prediction passes if one of a few texts stands in it, so what is put around it should not matter.
It does not, as far as the prediction stays what it is: it keeps its lowercase unless it is exposed
(`Text.lower_strip_infix_iff`). A prediction that is exposed can fail next to noise, even if what is
expected is that prediction itself. Only texts with a sigma can be lost that way (`grade_noise`).
-/

set_option autoImplicit false

namespace DryRun.Verdict

open Text

/-- A prediction passes if it has the expected text in it, or a marker. -/
theorem grade_eq_success_iff {predicted expected : Option Text} {markers : List Text} :
    grade predicted expected markers = .success ↔
      normalize expected <:+: normalize predicted ∨
        ∃ marker ∈ markers, normalize (some marker) ≠ [] ∧
          normalize (some marker) <:+: normalize predicted := by
  have wanted : ((normalize expected).isEmpty ||
      occursIn (normalize expected) (normalize predicted)) = true ↔
        normalize expected <:+: normalize predicted := by
    rw [Bool.or_eq_true, occursIn_iff, List.isEmpty_iff]
    exact or_iff_right_of_imp fun blank => blank ▸ List.nil_infix
  have marked : (markers.any fun marker => !(normalize (some marker)).isEmpty &&
      occursIn (normalize (some marker)) (normalize predicted)) = true ↔
        ∃ marker ∈ markers, normalize (some marker) ≠ [] ∧
          normalize (some marker) <:+: normalize predicted := by
    simp only [List.any_eq_true, Bool.and_eq_true, occursIn_iff, Bool.not_eq_true',
      List.isEmpty_eq_false_iff]
  have accepted (met met' : Bool) :
      (if met then success else if met' then success else fail) = success ↔
        met = true ∨ met' = true := by
    cases met <;> cases met' <;> decide
  rw [← wanted, ← marked]
  exact accepted _ _

/-- The text is one of those that a prediction is searched for. -/
def Wanted (expected : Option Text) (markers : List Text) (word : Text) : Prop :=
  word = normalize expected ∨ ∃ marker ∈ markers, word = normalize (some marker)

/-- What passes because of some texts passes wherever these texts stand. -/
theorem grade_mono {predicted noisy expected : Option Text} {markers : List Text}
    (kept : ∀ word, Wanted expected markers word →
      word <:+: normalize predicted → word <:+: normalize noisy)
    (passes : grade predicted expected markers = .success) :
    grade noisy expected markers = .success := by
  rw [grade_eq_success_iff] at passes ⊢
  rcases passes with inside | ⟨marker, member, nonempty, inside⟩
  · exact .inl (kept _ (.inl rfl) inside)
  · exact .inr ⟨marker, member, nonempty, kept _ (.inr ⟨marker, member, rfl⟩) inside⟩

/-- **Noise.** A prediction that is not exposed passes with noise on either side if it passes
without, and noise can make an exposed one fail. The same holds where the prediction itself is
expected. Where no small sigma is looked for, noise makes nothing fail. -/
theorem grade_noise (p : Text) :
    ((∀ a b expected markers, grade (some p) expected markers = .success →
        grade (some (a ++ p ++ b)) expected markers = .success) ↔ ¬Exposed p) ∧
      ((∀ a b markers, grade (some (a ++ p ++ b)) (some p) markers = .success) ↔ ¬Exposed p) ∧
      ∀ a b expected markers,
        (∀ word, Wanted expected markers word → 'σ' ∉ word ∧ 'ς' ∉ word) →
        grade (some p) expected markers = .success →
        grade (some (a ++ p ++ b)) expected markers = .success := by
  have itself (markers : List Text) : grade (some p) (some p) markers = .success :=
    grade_eq_success_iff.mpr (.inl (List.infix_refl _))
  have steady (calm : ¬Exposed p) (a b : Text) (expected : Option Text) (markers : List Text)
      (passes : grade (some p) expected markers = .success) :
      grade (some (a ++ p ++ b)) expected markers = .success :=
    have context : normalize (some p) <:+: normalize (some (a ++ p ++ b)) :=
      (lower_strip_infix_iff p).mpr calm a b
    grade_mono (fun _ _ inside => inside.trans context) passes
  have lost (all : ∀ a b, grade (some (a ++ p ++ b)) (some p) [] = .success) : ¬Exposed p := by
    refine (lower_strip_infix_iff p).mp fun a b => ?_
    rcases grade_eq_success_iff.mp (all a b) with inside | ⟨marker, member, -⟩
    · exact inside
    · cases member
  refine ⟨⟨fun all => lost fun a b => all a b _ _ (itself []), steady⟩, ⟨fun all => ?_, ?_⟩, ?_⟩
  · exact lost fun a b => all a b []
  · exact fun calm a b markers => steady calm a b _ _ (itself markers)
  · intro a b expected markers plain passes
    refine grade_mono (fun word wanted inside => ?_) passes
    exact @infix_lower_strip word (plain word wanted) p inside a b

/-- A sigma at the end does not lose the number before it. -/
theorem grade_noise_number :
    Exposed "42 ΑΣ".toList ∧ grade (some "42 ΑΣ".toList) (some "42".toList) [] = .success ∧
      grade (some ("x".toList ++ "42 ΑΣ".toList ++ "y".toList)) (some "42".toList) [] =
        .success := by
  have passes : grade (some "42 ΑΣ".toList) (some "42".toList) [] = .success := by decide +kernel
  have plain : 'σ' ∉ normalize (some "42".toList) ∧ 'ς' ∉ normalize (some "42".toList) := by
    decide +kernel
  refine ⟨by decide +kernel, passes, (grade_noise _).2.2 _ _ _ _ ?_ passes⟩
  rintro word (rfl | ⟨marker, member, -⟩)
  · exact plain
  · cases member

/-- The last letter of a word that goes on has another form. -/
theorem grade_sigma :
    grade (some "ΑΣ".toList) (some "ΑΣ".toList) [] = .success ∧
      grade (some ([] ++ "ΑΣ".toList ++ "Α".toList)) (some "ΑΣ".toList) [] = .fail := by
  decide +kernel

end DryRun.Verdict
