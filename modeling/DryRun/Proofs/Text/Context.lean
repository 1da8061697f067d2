import DryRun.Proofs.Source.Sides
import DryRun.Proofs.Text.Case
import Mathlib.Data.List.Forall2

/-!
# Lowercase in context

What is put around a text changes its lowercase at the capital sigmas only, and there only where the
search for a cased neighbour leaves the text (`lowerBetween_eq_iff`). The search stops at the first
character that is not passed over, so this can happen to two sigmas of the text at most, one at
either edge (`edgeSigma`), and to none behind or before a blank (`lowerBetween_eq_lower`).

A text that is put between others and stripped with them still has its own lowercase in theirs,
unless one of its edges is a sigma that they decide (`lower_strip_infix_iff`). In that case one
letter next to it makes the difference.
-/

set_option autoImplicit false

namespace DryRun.Text

variable {s t before after : Text}

/-! ## Cased neighbours -/

/-- A character that is passed over when a cased neighbour is looked for. -/
def isIgnorable (c : Char) : Bool := inRanges caseIgnorableRanges c.toNat

/-- The first character that is not ignored decides. -/
theorem meetsCased_append (s t : Text) :
    meetsCased (s ++ t) = if s.all isIgnorable then meetsCased t else meetsCased s := by
  induction s with
  | nil => rfl
  | cons c s ih =>
    cases passed : isIgnorable c with
    | true =>
      have skip (u : Text) : meetsCased (c :: u) = meetsCased u := by
        rw [isIgnorable] at passed
        rw [meetsCased, List.find?_cons_of_neg (by simp [passed]), ← meetsCased]
      rw [List.cons_append, skip, skip, ih, List.all_cons, passed, Bool.true_and]
    | false =>
      have stops (u : Text) : meetsCased (c :: u) = inRanges casedRanges c.toNat := by
        rw [isIgnorable] at passed
        rw [meetsCased, List.find?_cons_of_pos (by simp [passed])]
      rw [List.cons_append, stops, stops, List.all_cons, passed, Bool.false_and, if_neg (by simp)]

/-- Where all is ignored no cased letter is met. -/
theorem meetsCased_of_ignorable (passed : s.all isIgnorable = true) : meetsCased s = false := by
  have whole := meetsCased_append s []
  rwa [List.append_nil, if_pos passed] at whole

/-- A blank is a barrier. -/
theorem isBarrier_of_isBlank {c : Char} (blank : isBlank c = true) : IsBarrier c := by
  have apart := of_isBlank (p := fun c => inRanges caseIgnorableRanges c.toNat = false ∧
    inRanges casedRanges c.toNat = false) (by decide +kernel) blank
  exact ⟨apart.1, apart.2⟩

/-- Beyond a blank no cased letter is met. -/
theorem meetsCased_blank_cons {c : Char} (blank : isBlank c = true) (s : Text) :
    meetsCased (c :: s) = false :=
  (isBarrier_of_isBlank blank).meetsCased_append [] s

/-- Behind a blank that may be stripped off with what follows, there is no cased neighbour. -/
theorem meetsCased_stripRight {c : Char} (blank : isBlank c = true) (s : Text) :
    meetsCased (stripRight (c :: s)) = false := by
  obtain ⟨right, -, whole⟩ := exists_append_blanks (c :: s)
  cases kept : stripRight (c :: s) with
  | nil => rfl
  | cons d kept' =>
    rw [kept, List.cons_append] at whole
    rw [(List.cons.inj whole).1]
    exact meetsCased_blank_cons blank kept'

/-! ## Lowercase between other texts -/

/-- The lowercase of a character; that of a capital sigma, given whether it ends a word. -/
def lowerForm (ends : Bool) (c : Char) : Text :=
  if c == 'Σ' then [if ends then 'ς' else 'σ'] else lowerChar c

/-- Both forms of a letter in small letters are as long as each other. -/
theorem length_lowerForm (b b' : Bool) (c : Char) :
    (lowerForm b c).length = (lowerForm b' c).length := by
  unfold lowerForm
  split <;> rfl

/-- The forms of a letter in small letters are the same, unless it is a sigma. -/
theorem lowerForm_eq_iff {b b' : Bool} {c : Char} :
    lowerForm b c = lowerForm b' c ↔ (c = 'Σ' → b = b') := by
  by_cases sigma : c = 'Σ'
  · cases b <;> cases b' <;> simp [lowerForm, sigma]
  · simp [lowerForm, sigma]

/-- Lowercase of a text between others, of which the one before is given nearest first. -/
def lowerBetween (before after : Text) : Text → Text
  | [] => []
  | c :: rest =>
    lowerForm (meetsCased before && !meetsCased (rest ++ after)) c ++
      lowerBetween (c :: before) after rest

/-- A front is lowered with what follows it in view, and the rest with the front in view. -/
theorem lowerFrom_append_between (before s t : Text) :
    lowerFrom before (s ++ t) =
      lowerBetween before t s ++ lowerFrom (s.reverse ++ before) t := by
  induction s generalizing before with
  | nil => rfl
  | cons c s ih =>
    have regrouped : (c :: s).reverse ++ before = s.reverse ++ c :: before := by simp
    rw [List.cons_append, lowerFrom, lowerBetween, lowerForm, ih, regrouped, List.append_assoc]

/-- A text is lowered between nothing and nothing. -/
theorem lower_eq_between (s : Text) : lower s = lowerBetween [] [] s := by
  have whole := lowerFrom_append_between [] s []
  rwa [List.append_nil, lowerFrom, List.append_nil] at whole

/-- A text in three parts is lowered part by part, each between the others. -/
theorem lower_append_append (a s b : Text) :
    lower (a ++ s ++ b) = lowerBetween [] (s ++ b) a ++ lowerBetween a.reverse b s ++
      lowerFrom (s.reverse ++ a.reverse) b := by
  rw [List.append_assoc, lower, lowerFrom_append_between, lowerFrom_append_between,
    List.append_nil, List.append_assoc]

/-- Two surroundings make the same of a text exactly if they make the same of every sigma in it. -/
theorem lowerBetween_eq_iff {before' after' : Text} :
    lowerBetween before after s = lowerBetween before' after' s ↔
      ∀ front rest, s = front ++ 'Σ' :: rest →
        (meetsCased (front.reverse ++ before) && !meetsCased (rest ++ after)) =
          (meetsCased (front.reverse ++ before') && !meetsCased (rest ++ after')) := by
  induction s generalizing before before' with
  | nil => simp [lowerBetween]
  | cons c s ih =>
    have parts (b b' : Bool) (t t' : Text) :
        lowerForm b c ++ t = lowerForm b' c ++ t' ↔ (c = 'Σ' → b = b') ∧ t = t' := by
      rw [← lowerForm_eq_iff]
      exact ⟨fun whole => List.append_inj whole (length_lowerForm b b' c),
        fun ⟨first, others⟩ => by rw [first, others]⟩
    rw [lowerBetween, lowerBetween, parts, ih]
    constructor
    · rintro ⟨first, others⟩ front rest split
      cases front with
      | nil =>
        obtain ⟨rfl, rfl⟩ := List.cons.inj split
        exact first rfl
      | cons d front =>
        obtain ⟨rfl, behind⟩ := List.cons.inj split
        simpa using others front rest behind
    · intro all
      refine ⟨fun sigma => ?_, fun front rest split => ?_⟩
      · exact all [] s (by rw [sigma]; rfl)
      · simpa using all (c :: front) rest (by rw [split]; rfl)

/-- Characters that are the same but for the form of a small sigma. -/
def Alike (c d : Char) : Prop := c = d ∨ (c = 'σ' ∨ c = 'ς') ∧ (d = 'σ' ∨ d = 'ς')

/-- What a text is put between changes nothing but the form of its sigmas. -/
theorem lowerBetween_alike (before after before' after' s : Text) :
    List.Forall₂ Alike (lowerBetween before after s) (lowerBetween before' after' s) := by
  induction s generalizing before before' with
  | nil => exact .nil
  | cons c s ih =>
    refine List.rel_append ?_ (ih (c :: before) (c :: before'))
    unfold lowerForm
    split
    · refine .cons (.inr ⟨?_, ?_⟩) .nil
      · split <;> simp
      · split <;> simp
    · exact List.forall₂_same.mpr fun _ _ => .inl rfl

/-- What is like a text without small sigmas is that text. -/
theorem eq_of_alike {word : Text} (plain : 'σ' ∉ word ∧ 'ς' ∉ word)
    (alike : List.Forall₂ Alike t word) : t = word := by
  induction alike with
  | nil => rfl
  | cons first _ ih =>
    simp only [List.mem_cons, not_or] at plain
    obtain ⟨⟨small, noSmall⟩, final, noFinal⟩ := plain
    have same := first.resolve_right fun ⟨_, sigma⟩ => sigma.elim (small ·.symm) (final ·.symm)
    rw [same, ih ⟨noSmall, noFinal⟩]

/-- A word without small sigmas is in a text if it is in one that is like it. -/
theorem infix_of_alike {word : Text} (plain : 'σ' ∉ word ∧ 'ς' ∉ word)
    (alike : List.Forall₂ Alike t s) (inside : word <:+: s) : word <:+: t := by
  obtain ⟨front, back, rfl⟩ := inside
  rw [List.append_assoc] at alike
  have behind := List.forall₂_take_append _ word back (List.forall₂_drop_append t front _ alike)
  rw [← eq_of_alike plain behind]
  exact (List.take_prefix _ _).isInfix.trans (List.drop_suffix _ _).isInfix

/-! ## Sigmas at the edges -/

/-- If the first character of a text that is not passed over is a capital sigma: whether a cased
character is met behind it. -/
def edgeSigma (s : Text) : Option Bool :=
  match s.dropWhile isIgnorable with
  | [] => none
  | c :: rest => if c = 'Σ' then some (meetsCased rest) else none

/-- A text has a sigma at an edge whose form hangs on what stands around the text: there is no cased
character behind it, which would make it small in any case, or there is one before it, which leaves
the choice to what follows. -/
def Exposed (s : Text) : Prop := edgeSigma s = some false ∨ edgeSigma s.reverse = some true

instance (s : Text) : Decidable (Exposed s) := inferInstanceAs (Decidable (_ ∨ _))

/-- Behind what is ignored a sigma is at the edge. -/
theorem edgeSigma_append_cons {front : Text} (passed : front.all isIgnorable = true)
    (rest : Text) : edgeSigma (front ++ 'Σ' :: rest) = some (meetsCased rest) := by
  have stops : isIgnorable 'Σ' = false := by decide +kernel
  rw [edgeSigma, List.dropWhile_append_of_pos (List.all_eq_true.mp passed),
    List.dropWhile_cons_of_neg (by simp [stops])]
  exact if_pos rfl

/-- A sigma at the edge has nothing before it but what is ignored. -/
theorem exists_of_edgeSigma {b : Bool} (edge : edgeSigma s = some b) :
    ∃ front rest, s = front ++ 'Σ' :: rest ∧ front.all isIgnorable = true ∧
      meetsCased rest = b := by
  have whole : s.takeWhile isIgnorable ++ s.dropWhile isIgnorable = s :=
    List.takeWhile_append_dropWhile
  unfold edgeSigma at edge
  split at edge
  · cases edge
  next c rest kept =>
    split at edge
    next sigma =>
      refine ⟨s.takeWhile isIgnorable, rest, ?_, List.all_takeWhile, Option.some.inj edge⟩
      rw [← sigma, ← kept, whole]
    next => cases edge

/-- Behind a blank there is no sigma at the edge. -/
theorem edgeSigma_blank_cons {c : Char} (blank : isBlank c = true) (s : Text) :
    edgeSigma (c :: s) = none := by
  have stops : isIgnorable c = false := (isBarrier_of_isBlank blank).stops
  have other : c ≠ 'Σ' := by
    rintro rfl
    exact absurd blank (by decide)
  rw [edgeSigma, List.dropWhile_cons_of_neg (by simp [stops])]
  exact if_neg other

/-- Blanks at the other end of a text do not matter to the sigma at its edge. -/
theorem edgeSigma_append_blanks (s : Text) {right : Text}
    (blanks : ∀ c ∈ right, isBlank c = true) : edgeSigma (s ++ right) = edgeSigma s := by
  cases right with
  | nil => rw [List.append_nil]
  | cons d right =>
    have blank : isBlank d = true := blanks d List.mem_cons_self
    unfold edgeSigma
    rw [List.dropWhile_append]
    cases kept : s.dropWhile isIgnorable with
    | nil => exact edgeSigma_blank_cons blank right
    | cons c rest =>
      simp only [List.isEmpty_cons, Bool.false_eq_true, if_false, List.cons_append]
      rw [(isBarrier_of_isBlank blank).meetsCased_append]

/-- Around a text, only cased characters that its edges see make a difference to its lowercase. -/
theorem lowerBetween_eq_lower
    (left : edgeSigma s = some false → meetsCased before = false)
    (right : edgeSigma s.reverse = some true → meetsCased after = false) :
    lowerBetween before after s = lower s := by
  rw [lower_eq_between, lowerBetween_eq_iff]
  rintro front rest rfl
  have reversed : (front ++ 'Σ' :: rest).reverse = rest.reverse ++ 'Σ' :: front.reverse := by simp
  rw [reversed] at right
  rw [meetsCased_append, meetsCased_append, List.append_nil, List.append_nil, List.all_reverse]
  cases first : front.all isIgnorable with
  | true =>
    have unmet : meetsCased front.reverse = false :=
      meetsCased_of_ignorable (by rw [List.all_reverse, first])
    rw [edgeSigma_append_cons first] at left
    cases met : meetsCased rest with
    | true =>
      have stops : rest.all isIgnorable = false := by
        rw [Bool.eq_false_iff]
        intro passed
        rw [meetsCased_of_ignorable passed] at met
        cases met
      simp [stops, unmet]
    | false => simp [left (by rw [met]), unmet]
  | false =>
    cases last : rest.all isIgnorable with
    | true =>
      rw [edgeSigma_append_cons (by rw [List.all_reverse, last])] at right
      have unmet : meetsCased rest = false := meetsCased_of_ignorable last
      cases met : meetsCased front.reverse with
      | true => simp [right (by rw [met]), unmet]
      | false => simp
    | false => simp

/-- A cased neighbour changes the form of a sigma that stands at the front of a text without a
letter behind it. -/
theorem lowerBetween_ne_of_front (edge : edgeSigma s = some false)
    (cased : meetsCased before = true) : lowerBetween before [] s ≠ lower s := by
  obtain ⟨front, rest, rfl, passed, unmet⟩ := exists_of_edgeSigma edge
  rw [lower_eq_between, Ne, lowerBetween_eq_iff]
  intro all
  have unmet' : meetsCased front.reverse = false :=
    meetsCased_of_ignorable (by rw [List.all_reverse, passed])
  have form := all front rest rfl
  rw [meetsCased_append, List.all_reverse, if_pos passed] at form
  simp [cased, unmet, unmet'] at form

/-- A last sigma is lowered otherwise when a cased letter follows. -/
theorem lowerBetween_ne_of_back (edge : edgeSigma s.reverse = some true)
    (cased : meetsCased after = true) : lowerBetween [] after s ≠ lower s := by
  obtain ⟨back, before, reversed, passed, met⟩ := exists_of_edgeSigma edge
  have split : s = before.reverse ++ 'Σ' :: back.reverse := by
    rw [← List.reverse_reverse s, reversed]
    simp
  have passed' : back.reverse.all isIgnorable = true := by rw [List.all_reverse, passed]
  rw [lower_eq_between, Ne, lowerBetween_eq_iff]
  intro all
  have form := all before.reverse back.reverse split
  rw [meetsCased_append back.reverse, if_pos passed'] at form
  simp [cased, met, meetsCased_of_ignorable passed'] at form

/-! ## Stripped texts -/

/-- Stripping the front is stripping the end of the reversed text. -/
theorem reverse_stripLeft (s : Text) : (stripLeft s).reverse = stripRight s.reverse := by
  rw [stripRight, dropWhileEnd, List.reverse_reverse, stripLeft]

/-- A letter that a text does not begin with. -/
theorem exists_letter (s : Text) :
    ∃ c, s.head? ≠ some c ∧ isBlank c = false ∧ meetsCased [c] = true ∧
      ∀ ends, lowerForm ends c = [c] := by
  by_cases first : s.head? = some 'a'
  · exact ⟨'b', by simp [first], by decide, by decide +kernel, by decide⟩
  · exact ⟨'a', first, by decide, by decide +kernel, by decide⟩

/-- A text that stands in one that is a character longer, and begins otherwise, is its rest. -/
theorem eq_of_infix_cons {c : Char} (inside : s <:+: c :: t) (same : t.length = s.length)
    (other : s.head? ≠ some c) : s = t := by
  obtain ⟨front, back, whole⟩ := inside
  cases front with
  | nil =>
    cases s with
    | nil => exact (List.length_eq_zero_iff.mp same).symm
    | cons d s => exact absurd (by rw [(List.cons.inj whole).1]; rfl) other
  | cons d front =>
    have behind : front ++ s ++ back = t := (List.cons.inj whole).2
    have lengths := congrArg List.length behind
    rw [List.length_append, List.length_append, same] at lengths
    obtain rfl : front = [] := List.length_eq_zero_iff.mp (by omega)
    obtain rfl : back = [] := List.length_eq_zero_iff.mp (by omega)
    simpa using behind

/-- What stands around a text does not matter to its length in small letters. -/
theorem length_lowerBetween (before after s : Text) :
    (lowerBetween before after s).length = (lower s).length := by
  rw [lower_eq_between]
  exact (lowerBetween_alike before after [] [] s).length_eq

/-- A letter in front that is lowered to itself stays, and the rest is lowered behind it. -/
theorem lower_cons_letter {c : Char} (letter : ∀ ends, lowerForm ends c = [c]) (s : Text) :
    lower (c :: s) = c :: lowerBetween [c] [] s := by
  have whole := lower_append_append [c] s []
  rw [List.append_nil, List.append_nil, lowerBetween, letter] at whole
  simpa [lowerBetween, lowerFrom] using whole

/-- A letter at the end that is lowered to itself stays, and the rest is lowered before it. -/
theorem lower_concat_letter {c : Char} (letter : ∀ ends, lowerForm ends c = [c]) (s : Text) :
    lower (s ++ [c]) = lowerBetween [] [c] s ++ [c] := by
  have whole := lower_append_append s [c] []
  rw [List.append_nil, List.append_nil, lowerBetween, letter] at whole
  simpa [lowerBetween, lowerFrom] using whole

section

/-! Below, `p` is a stripped text with blanks on its left and right. -/

variable {p left right : Text} (stripped : IsStripped p)
  (blanks : ∀ c ∈ left, isBlank c = true) (blanks' : ∀ c ∈ right, isBlank c = true)

include stripped

/-- A part of a text is in the lowered text as it is lowered between what is around it. -/
theorem infix_of_between (a b : Text) :
    lowerBetween (stripLeft (a ++ left)).reverse (stripRight (right ++ b)) p <:+:
      lower (strip (a ++ (left ++ p ++ right) ++ b)) := by
  rcases eq_or_ne p [] with rfl | nonempty
  · exact List.nil_infix
  · have regrouped : a ++ (left ++ p ++ right) ++ b = (a ++ left) ++ p ++ (right ++ b) := by simp
    rw [regrouped, stripped.strip_append_append nonempty, lower_append_append]
    exact ⟨_, _, rfl⟩

include blanks blanks'

/-- Without an exposed sigma, lowering a part of a text gives a part of the lowered text, whatever
noise is around. -/
theorem lower_infix_of_not_exposed (calm : ¬Exposed (left ++ p ++ right)) (a b : Text) :
    lower p <:+: lower (strip (a ++ (left ++ p ++ right) ++ b)) := by
  have front : edgeSigma p = some false → meetsCased (stripLeft (a ++ left)).reverse = false := by
    intro edge
    rcases List.eq_nil_or_concat left with rfl | ⟨init, d, rfl⟩
    · refine absurd (.inl ?_) calm
      rw [List.nil_append, edgeSigma_append_blanks p blanks', edge]
    · have blank : isBlank d = true := blanks d (by simp)
      rw [reverse_stripLeft]
      simpa using meetsCased_stripRight blank (init.reverse ++ a.reverse)
  have back : edgeSigma p.reverse = some true → meetsCased (stripRight (right ++ b)) = false := by
    intro edge
    cases right with
    | nil =>
      have reversed : ∀ c ∈ left.reverse, isBlank c = true := by simpa using blanks
      refine absurd (.inr ?_) calm
      rw [List.append_nil, List.reverse_append, edgeSigma_append_blanks _ reversed, edge]
    | cons d right => exact meetsCased_stripRight (blanks' d List.mem_cons_self) (right ++ b)
  rw [← lowerBetween_eq_lower front back]
  exact infix_of_between stripped a b

/-- A letter that the lowercase does not begin with changes the form of a sigma at the front. -/
theorem exists_noise_of_front (edge : edgeSigma (left ++ p ++ right) = some false) :
    ∃ a, ¬lower p <:+: lower (strip (a ++ (left ++ p ++ right))) := by
  cases left with
  | cons d left =>
    rw [List.cons_append, List.cons_append,
      edgeSigma_blank_cons (blanks d List.mem_cons_self)] at edge
    cases edge
  | nil =>
    rw [List.nil_append, edgeSigma_append_blanks p blanks'] at edge
    have nonempty : p ≠ [] := by
      rintro rfl
      cases edge
    obtain ⟨c, other, solid, cased, letter⟩ := exists_letter (lower p)
    have kept : stripLeft [c] = [c] := by simp [stripLeft, solid]
    refine ⟨[c], fun inside => ?_⟩
    rw [List.nil_append, ← List.append_assoc, stripped.strip_append_append nonempty, kept,
      stripRight_of_blanks blanks', List.append_nil, List.singleton_append,
      lower_cons_letter letter] at inside
    have same := eq_of_infix_cons inside (length_lowerBetween _ _ _) other
    exact lowerBetween_ne_of_front edge cased same.symm

/-- A letter that the lowercase does not end with changes the form of a sigma at the end. -/
theorem exists_noise_of_back (edge : edgeSigma (left ++ p ++ right).reverse = some true) :
    ∃ b, ¬lower p <:+: lower (strip (left ++ p ++ right ++ b)) := by
  rcases List.eq_nil_or_concat right with rfl | ⟨init, d, rfl⟩
  · have reversed : ∀ c ∈ left.reverse, isBlank c = true := by simpa using blanks
    rw [List.append_nil, List.reverse_append, edgeSigma_append_blanks _ reversed] at edge
    have nonempty : p ≠ [] := by
      rintro rfl
      cases edge
    obtain ⟨c, other, solid, cased, letter⟩ := exists_letter (lower p).reverse
    have kept : stripRight [c] = [c] := stripRight_eq_self (by simpa using solid)
    have nothing : stripLeft left = [] := List.dropWhile_eq_nil_iff.mpr blanks
    refine ⟨[c], fun inside => ?_⟩
    rw [List.append_nil, stripped.strip_append_append nonempty, kept, nothing, List.nil_append,
      lower_concat_letter letter, ← List.reverse_infix, List.reverse_concat] at inside
    have same := eq_of_infix_cons inside (by simp [length_lowerBetween]) other
    exact lowerBetween_ne_of_back edge cased (List.reverse_injective same).symm
  · have blank : isBlank d = true := blanks' d (by simp)
    have reversed : (left ++ p ++ (init ++ [d])).reverse =
        d :: (left ++ p ++ init).reverse := by simp
    rw [List.concat_eq_append, reversed, edgeSigma_blank_cons blank] at edge
    cases edge

end

/-- **Context.** The lowercase of a text stands in that of every text around it, both stripped of
blanks, exactly if the text is not exposed. -/
theorem lower_strip_infix_iff (p : Text) :
    (∀ a b, lower (strip p) <:+: lower (strip (a ++ p ++ b))) ↔ ¬Exposed p := by
  obtain ⟨left, right, whole, blanks, blanks'⟩ := exists_strip p
  have stripped := isStripped_strip p
  generalize strip p = q at whole stripped ⊢
  subst whole
  constructor
  · rintro all (front | back)
    · obtain ⟨a, missing⟩ := exists_noise_of_front stripped blanks blanks' front
      exact missing (by simpa using all a [])
    · obtain ⟨b, missing⟩ := exists_noise_of_back stripped blanks blanks' back
      exact missing (by simpa using all [] b)
  · exact fun calm a b => lower_infix_of_not_exposed stripped blanks blanks' calm a b

/-- What stands in the lowercase of a text and has no small sigma stands in that of every text
around it. -/
theorem infix_lower_strip {word : Text} (plain : 'σ' ∉ word ∧ 'ς' ∉ word) {p : Text}
    (inside : word <:+: lower (strip p)) (a b : Text) :
    word <:+: lower (strip (a ++ p ++ b)) := by
  obtain ⟨left, right, whole, blanks, blanks'⟩ := exists_strip p
  have stripped := isStripped_strip p
  generalize strip p = q at whole stripped inside
  subst whole
  rw [lower_eq_between] at inside
  exact (infix_of_alike plain (lowerBetween_alike _ _ [] [] q) inside).trans
    (infix_of_between stripped a b)

end DryRun.Text
