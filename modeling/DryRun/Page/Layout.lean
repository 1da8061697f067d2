import DryRun.Page.Pictograph

/-!
# The layout of a page

What a terminal shows of the lines that are printed on it: long lines are wrapped, tags and codes of
pictographs are drawn, and texts are framed or listed in a table.

This belongs to the outer layer: it stands in for a console, which the program takes as a parameter
(`Toolkit.draw`), and no result about the program rests on it. It is made for the plain texts of the
program: in wrapping every character is taken to be one column wide, and the page is 80 columns
wide.
-/

set_option autoImplicit false

/-!
## Wrapping lines

A line is cut into words, each with the blanks that follow it; blanks at the front belong to the
first word. A word goes on the current line while it fits without its blanks, else on a new one; a
word that fits on no line is folded at the width and the line goes on after its last piece. Blanks
that stick out beyond the width are cut at the end.
-/

namespace DryRun.Page

/-- The text without the control characters that a terminal would act on. -/
def dropControls (s : Text) : Text :=
  s.filter fun c => !(c.toNat == 7 || c.toNat == 8 || (11 ≤ c.toNat && c.toNat ≤ 13))

def tabWidth : Nat := 8

/-- The text with spaces up to the next tab stop in place of tabs, from a column on. -/
def expandTabs (column : Nat) : Text → Text
  | [] => []
  | c :: rest =>
    if c == '\t' then
      let gap := tabWidth - column % tabWidth
      List.replicate gap ' ' ++ expandTabs (column + gap) rest
    else c :: expandTabs (column + 1) rest

/-- The words of a line that does not begin with a blank, each with the blanks after it. -/
def gappedWords (s : Text) : List Text :=
  match s with
  | [] => []
  | c :: rest =>
    let word := rest.takeWhile fun c => !Text.isBlank c
    let afterWord := rest.dropWhile fun c => !Text.isBlank c
    (c :: word ++ afterWord.takeWhile Text.isBlank) ::
      gappedWords (afterWord.dropWhile Text.isBlank)
  termination_by s.length
  decreasing_by
    simp only [List.length_cons]
    have h₁ := (List.dropWhile_suffix (l := rest.dropWhile fun c => !Text.isBlank c)
      Text.isBlank).length_le
    have h₂ := (List.dropWhile_suffix (l := rest) fun c => !Text.isBlank c).length_le
    omega

/-- The words of a line with the blanks around them; a line of blanks has none. -/
def lineWords (s : Text) : List Text :=
  match gappedWords (s.dropWhile Text.isBlank) with
  | [] => []
  | word :: words => (s.takeWhile Text.isBlank ++ word) :: words

/-- Pieces of the given width, the last one perhaps shorter. -/
def fold (width : Nat) (s : Text) : List Text :=
  if _h : 0 < width ∧ width < s.length then s.take width :: fold width (s.drop width) else [s]
  termination_by s.length
  decreasing_by simp only [List.length_drop]; omega

/-- Lines that are full, and the line that is being filled. -/
structure Filling where
  full : List Text
  line : Text

/-- Begin a new line unless the current one is empty. -/
def Filling.closed (f : Filling) : List Text :=
  if f.line.isEmpty then f.full else f.full ++ [f.line]

/-- Put a word on the current line or on a new one. -/
def Filling.place (width : Nat) (f : Filling) (word : Text) : Filling :=
  let size := (Text.stripRight word).length
  if f.line.length + size ≤ width then { f with line := f.line ++ word }
  else if width < size then
    let pieces := fold width word
    ⟨f.closed ++ pieces.dropLast, pieces.getLast?.getD []⟩
  else ⟨f.closed, word⟩

/-- The line without the blanks at its end that stick out beyond the width. -/
def cutEnd (width : Nat) (line : Text) : Text :=
  let trailing := line.length - (Text.stripRight line).length
  line.take (max (line.length - trailing) (min line.length width))

/-- One line as lines of at most the given width. -/
def wrapLine (width : Nat) (line : Text) : List Text :=
  let lines := match lineWords line with
    | [] => [line]
    | words =>
      let filling := words.foldl (Filling.place width) ⟨[], []⟩
      filling.full ++ [filling.line]
  lines.map fun line => (cutEnd width line).take width

/-- A text as lines of at most the given width. -/
def wrap (width : Nat) (s : Text) : List Text :=
  (Text.pieces (· == '\n') (dropControls s)).flatMap fun line =>
    wrapLine width (expandTabs 0 line)

end DryRun.Page

/-!
## Markup

Markup is a text with tags in brackets that style what stands between them. A backslash before a tag
makes it plain text, and backslashes before a tag are written twice. Codes of pictographs are drawn,
as long as no tag interrupts them. `escape` makes markup of any text without a code; `plain` is the
text that markup shows.
-/

namespace DryRun.Page

/-- A piece of markup. -/
inductive MarkupToken where
  /-- A character that is not part of a tag. -/
  | char (c : Char)
  /-- A tag in brackets with the number of backslashes before it. -/
  | tag (backslashes : Nat) (body : Text)
  deriving DecidableEq, Repr

/-- Whether a tag can begin with a character. -/
def isTagStart (c : Char) : Bool := ('a' ≤ c && c ≤ 'z') || c == '#' || c == '/' || c == '@'

/-- The tag at the front of a text, and what follows it. -/
def tagHere? (s : Text) : Option (Text × Text) :=
  match s with
  | '[' :: c :: rest =>
    if isTagStart c then
      let body := rest.takeWhile fun c => c != ']' && c != '['
      match rest.dropWhile fun c => c != ']' && c != '[' with
      | ']' :: after => some (c :: body, after)
      | _ => none
    else none
  | _ => none

/-- What follows a tag is shorter than what it is in. -/
theorem length_lt_of_tagHere? {s body after : Text} (h : tagHere? s = some (body, after)) :
    after.length < s.length := by
  unfold tagHere? at h
  split at h
  · rename_i c rest
    split at h
    · have hsuffix := (List.dropWhile_suffix (l := rest) fun c => c != ']' && c != '[').length_le
      split at h
      · rename_i tail hd
        simp only [Option.some.injEq, Prod.mk.injEq] at h
        obtain ⟨-, rfl⟩ := h
        rw [hd] at hsuffix
        simp only [List.length_cons] at hsuffix ⊢
        omega
      · simp at h
    · simp at h
  · simp at h

def markupTokens (s : Text) : List MarkupToken :=
  match s with
  | [] => []
  | c :: rest =>
    let run := (c :: rest).takeWhile (· == '\\')
    match _found : tagHere? ((c :: rest).drop run.length) with
    | some (body, after) => .tag run.length body :: markupTokens after
    | none => .char c :: markupTokens rest
  termination_by s.length
  decreasing_by
    · have := length_lt_of_tagHere? _found
      simp only [List.length_drop] at this
      omega
    · simp

/-- The markup that shows a text as it is. A single backslash at the end is doubled, so that a tag
may follow. -/
def escape (s : Text) : Text :=
  let escaped := (markupTokens s).flatMap fun
    | .char c => [c]
    | .tag n body => List.replicate (2 * n + 1) '\\' ++ '[' :: body ++ [']']
  -- An odd backslash at the end would escape the bracket of what follows.
  let trailing := escaped.reverse.takeWhile (· == '\\')
  if trailing.length = 1 then escaped ++ ['\\'] else escaped

/-- A text with a backslash taken away from before each bracket. -/
def unescapeBrackets : Text → Text
  | [] => []
  | '\\' :: '[' :: rest => '[' :: unescapeBrackets rest
  | c :: rest => c :: unescapeBrackets rest

/-- The text that a chunk of markup without tags shows. -/
def showChunk (chunk : Text) : Text := drawPictographs (unescapeBrackets chunk)

/-- The text that pieces of markup show, after the characters of a chunk that began before, the last
one first. -/
def showTokens (chunk : Text) : List MarkupToken → Text
  | [] => showChunk chunk.reverse
  | .char c :: rest => showTokens (c :: chunk) rest
  | .tag n body :: rest =>
    showChunk chunk.reverse ++ List.replicate (n / 2) '\\' ++
      (if n % 2 = 1 then showChunk ('[' :: body ++ [']']) else []) ++ showTokens [] rest

def plain (markup : Text) : Text := showTokens [] (markupTokens markup)

def pageWidth : Nat := 80

/-- The lines of a page that some markup fills. -/
def printed (markup : Text) : List Text := wrap pageWidth (plain markup)

end DryRun.Page

/-!
## Frames and listings

A panel is a frame as wide as the page around some text, with a title in its top border. A listing
is a table with a heavy head, as wide as its columns need, under a centred title.
-/

namespace DryRun.Page

/-- The text between as many marks on either side as fill the width; one left over goes right. -/
def centered (mark : Char) (width size : Nat) (s : Text) : Text :=
  let excess := width - size
  List.replicate (excess / 2) mark ++ s ++ List.replicate (excess - excess / 2) mark

def panel (title body : Text) : List Text :=
  let inner := pageWidth - 4
  let heading := ' ' :: title ++ [' ']
  let top := "╭─".toList ++ centered '─' inner heading.length heading ++ "─╮".toList
  let bottom := '╰' :: List.replicate (pageWidth - 2) '─' ++ ['╯']
  let line := fun (s : Text) => "│ ".toList ++ Text.padRight ' ' inner s ++ " │".toList
  [top] ++ (wrap inner body).map line ++ [bottom]

/-- The columns that a character takes: pictographs take two. -/
def cells (c : Char) : Nat := if 0x1f300 ≤ c.toNat && c.toNat ≤ 0x1faff then 2 else 1

def cellCount (s : Text) : Nat := s.foldl (fun columns c => columns + cells c) 0

/-- The characters that draw one line of a table: left end, filler, junction and right end. -/
structure Rule where
  left : Char
  fill : Char
  middle : Char
  right : Char

/-- A line of a table that has no text. -/
def Rule.line (r : Rule) (widths : List Nat) : Text :=
  r.left :: Text.join [r.middle] (widths.map fun w => List.replicate (w + 2) r.fill) ++ [r.right]

/-- A line of a table with the given bar between its cells. -/
def tableLine (bar : Char) (widths : List Nat) (entries : List Text) : Text :=
  bar :: Text.join [bar]
    ((entries.zip widths).map fun (s, w) => ' ' :: Text.padRight ' ' w s ++ [' ']) ++ [bar]

/-- A listing with its title, which takes the lines above it. -/
def listing (title : List Text) (head : List Text) (rows : List (List Text)) : List Text :=
  let widths := (List.range head.length).map fun i =>
    ((head :: rows).map fun entries => (entries.getD i []).length).foldl max 0
  let total := widths.foldl (fun columns width => columns + width + 3) 1
  title.map (fun s => centered ' ' total (cellCount s) s) ++
    [(Rule.mk '┏' '━' '┳' '┓').line widths, tableLine '┃' widths head,
     (Rule.mk '┡' '━' '╇' '┩').line widths] ++
    rows.map (tableLine '│' widths) ++
    [(Rule.mk '└' '─' '┴' '┘').line widths]

end DryRun.Page
