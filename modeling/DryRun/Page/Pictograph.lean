import DryRun.Page.PictographTable
import DryRun.Text.Case
import DryRun.Text.Word

/-!
# Pictographs

A pictograph may be written as its name between colons, `:sunny:`, in letters of either case. After
the name `-text` or `-emoji` may ask for one of its two presentations. A code without a known name
stays as it is, and its second colon opens no other code. No blank may stand in a code. This is a
part of the console of the outer layer.
-/

set_option autoImplicit false

namespace DryRun.Page

def codePoint (digits : Text) : Nat :=
  digits.foldl (fun n c => 16 * n + (Text.hexValue? c).getD 0) 0

/-- A pictograph's name and the pictograph, from an entry of the table. -/
def pictographOfEntry (entry : Text) : Text × Text :=
  let codes := (entry.dropWhile (· != '=')).drop 1
  (entry.takeWhile (· != '='),
    (Text.pieces (· == '+') codes).map fun digits => Char.ofNat (codePoint digits))

def pictographs : List (Text × Text) :=
  (Text.words pictographEntries.toList).map pictographOfEntry

/-- The presentations that a code can ask for, and the characters that select them. -/
def presentations : List (String × Char) := [("-text", '\ufe0e'), ("-emoji", '\ufe0f')]

/-- What stands between the colons of a code, cut into a name and the selector of a
presentation. -/
def splitPresentation (body : Text) : Text × Text :=
  match presentations.find? fun (ending, _) => ending.toList.isSuffixOf body with
  | some (ending, selector) => (body.take (body.length - ending.length), [selector])
  | none => (body, [])

/-- The pictograph that stands for what is between the colons of a code. -/
def pictograph? (body : Text) : Option Text :=
  let (name, selector) := splitPresentation body
  (pictographs.lookup (Text.lower name)).map (· ++ selector)

/-- Whether a character may stand between the colons of a code. -/
def isCodeChar (c : Char) : Bool := c != ':' && !Text.isBlank c

/-- What stands between the colons of a code at the front of a text, and what follows the code. -/
def codeHere? (s : Text) : Option (Text × Text) :=
  match s with
  | ':' :: rest =>
    match rest.dropWhile isCodeChar with
    | ':' :: after => some (rest.takeWhile isCodeChar, after)
    | _ => none
  | _ => none

/-- What follows a code is shorter than what it is in. -/
theorem length_lt_of_codeHere? {s body after : Text} (h : codeHere? s = some (body, after)) :
    after.length < s.length := by
  unfold codeHere? at h
  split at h
  · rename_i rest
    have hsuffix := (List.dropWhile_suffix (l := rest) isCodeChar).length_le
    split at h
    · rename_i tail hd
      simp only [Option.some.injEq, Prod.mk.injEq] at h
      obtain ⟨-, rfl⟩ := h
      rw [hd] at hsuffix
      simp only [List.length_cons] at hsuffix ⊢
      omega
    · simp at h
  · simp at h

/-- The text with pictographs in place of their codes. -/
def drawPictographs (s : Text) : Text :=
  match s with
  | [] => []
  | c :: rest =>
    match _found : codeHere? (c :: rest) with
    | some (body, after) =>
      (pictograph? body).getD (':' :: body ++ [':']) ++ drawPictographs after
    | none => c :: drawPictographs rest
  termination_by s.length
  decreasing_by
    · exact length_lt_of_codeHere? _found
    · simp

end DryRun.Page
