import DryRun.Language.Tag
import DryRun.Proofs.Reading.Zero

/-!
# The languages that a tag can name

Every tag names a language of the catalogue (`ofTag_listed`). What holds of the languages that are
listed there therefore holds of the language of every attempt; that their runs take some time is a
case of it.
-/

set_option autoImplicit false

namespace DryRun.Language

/-- A language is listed in the catalogue. -/
def IsListed (language : Language) : Prop := ∃ listing ∈ catalogue, listing.language = language

/-- The fallback is listed. -/
theorem fallback_listed : fallback.IsListed :=
  ⟨⟨javascript, ["script", "node"], ["js"]⟩, by simp [catalogue], rfl⟩

/-- A normalized tag names a language that is listed. -/
theorem ofNormalizedTag_listed (tag : Text) : (ofNormalizedTag tag).IsListed := by
  unfold ofNormalizedTag
  split
  · exact fallback_listed
  · split
    case h_1 listing found => exact ⟨listing, List.mem_of_find?_eq_some found, rfl⟩
    case h_2 =>
      split
      case h_1 listing found => exact ⟨listing, List.mem_of_find?_eq_some found, rfl⟩
      case h_2 => exact fallback_listed

/-- Every tag names a language that is listed. -/
theorem ofTag_listed (tag : Option Text) : (ofTag tag).IsListed := by
  unfold ofTag
  split <;> exact ofNormalizedTag_listed _

/-- A run takes no less than no time. -/
theorem IsListed.delay {language : Language} (listed : language.IsListed) :
    Reading.IsDelay language.compileDelay := by
  obtain ⟨listing, member, rfl⟩ := listed
  have delays : ∀ listing ∈ catalogue, listing.language.compileDelay.isNaN = false ∧
      ¬ listing.language.compileDelay < 0 := by decide
  exact delays listing member

/-- A run takes some time, and not forever. -/
theorem IsListed.span {language : Language} (listed : language.IsListed) :
    Reading.IsSpan language.compileDelay := by
  obtain ⟨listing, member, rfl⟩ := listed
  have spans : ∀ listing ∈ catalogue, 0 < listing.language.compileDelay ∧
      listing.language.compileDelay < 1 / 0 := by decide
  exact spans listing member

end DryRun.Language
