import DryRun.Proofs.Source.Heads

/-!
# The patterns of an assignment

A line makes an assignment if one of two regular expressions matches it from its beginning: that of
a declaration with a type of one word, or else that of any other declaration or assignment
(`patterns`, `matchLine?`). Each consists of a head, which ends with its sign, and of a right-hand
side. A search goes back in both until the whole line fits.

The pieces of a head may share out its words, marks and blanks in more than one way. But none of
them takes an equals sign, so that the sign is the first one of the line, and whichever way it is,
it leaves the same name (`ReadsHead`). A word has its colons in pairs, which tells the colon of a
type from those in the words. In the right-hand side only the end of the value is open. The shortest
value is the one without the final semicolon and the blanks around it (`first?_side`).

So the search comes to nothing else than the two readings of the line that know nothing of each
other (`ofLine?_eq_matchLine?`), and the two sides of the sign are independent (`sides_apart`).
-/

set_option autoImplicit false

namespace DryRun

open Text (isBlank)
open Regex (row Spells)

namespace RightHandSide

/-- What is left without a final semicolon begins the text. -/
theorem prefix_dropSemicolon (s : Text) : dropSemicolon s <+: s := by
  unfold dropSemicolon
  split
  · obtain ⟨right, -, whole⟩ := Text.exists_append_blanks s.dropLast
    have front : Text.stripRight s.dropLast <+: s.dropLast := ⟨right, whole⟩
    exact front.trans (List.dropLast_prefix s)
  · exact List.prefix_rfl

end RightHandSide

namespace Assignment

/-! ## The patterns -/

/-- `\s*` -/
def blanks : Regex := .many true (.one isBlank)

/-- `\s+` -/
def someBlanks : Regex := .some true (.one isBlank)

/-- `[A-Za-z_]\w*` -/
def identifier : Regex :=
  row [.one fun c => Text.isAsciiLetter c || c == '_', .many true (.one Text.isWordChar)]

/-- The head of a declaration with a type of one word,
`(?:var|const)\s+(?P<name>[A-Za-z_]\w*)\s+[\w\[\]*.]+\s*=`. -/
def typedHead : Regex :=
  row [row [.either (.text "var") (.text "const"), someBlanks],
    .named "name" identifier,
    row [someBlanks, .some true (.one Head.isPlainTypeChar), blanks, .text "="]]

/-- Words before a name, `(?:(?:[\w<>\[\],.&*$?]|::)+\s+)*`. -/
def leads : Regex :=
  .many true (row [.some true (.either (.one Head.isLeadChar) (.text "::")), someBlanks])

/-- The head of any other declaration or assignment,
`(?:(?:[\w<>\[\],.&*$?]|::)+\s+)*[&*]*(?P<name>\$?[A-Za-z_]\w*)\s*(?::\s*[\w<>\[\]?,.&* ]+?)?\s*(?::=|=)`. -/
def declaredHead : Regex :=
  row [row [leads, .many true (.one Head.isMark)],
    .named "name" (row [.optional (.text "$"), identifier]),
    row [blanks, .optional (row [.text ":", blanks, .some false (.one Head.isTypeChar)]), blanks,
      .either (.text ":=") (.text "=")]]

/-- What may follow the value, `\s*;?\s*$`. -/
def closing : Regex := row [row [blanks, .optional (.text ";"), blanks], .finish]

/-- The value and what may follow it, `(?P<value>.*?)\s*;?\s*$`. -/
def valuePart : Regex := .seq (.named "value" (.many false (.one (· != '\n')))) closing

/-- The right-hand side, `(?!=)\s*(?P<value>.*?)\s*;?\s*$`. -/
def side : Regex := .seq (.unless '=') (.seq blanks valuePart)

/-- The patterns of an assignment, in the order in which they are tried. -/
def patterns : List Regex := [.seq typedHead side, .seq declaredHead side]

/-- What a match binds: the name, and the value without its blanks, another final semicolon and its
pair of quote marks. -/
def ofWay (way : Way) : Assignment :=
  ⟨(way.group? "name").getD [], Text.stripQuotes
    (RightHandSide.dropSemicolon (Text.strip ((way.group? "value").getD [])))⟩

/-- The assignment that the first pattern that matches a line finds on it, blanks around the line
apart. Comments are not looked at. -/
def matchLine? (line : Text) : Option Assignment :=
  let stripped := Text.strip line
  if stripped.isEmpty || isComment stripped then none
  else (patterns.findSome? fun pattern => pattern.first? stripped).map ofWay

/-! ## What the pieces of a pattern spell -/

/-- Any blanks are spelt, none among them. -/
theorem spells_blanks : blanks.Spells fun t => ∀ c ∈ t, isBlank c = true := .run true _

/-- Blanks are spelt, one at least. -/
theorem spells_someBlanks : someBlanks.Spells fun t => t ≠ [] ∧ ∀ c ∈ t, isBlank c = true :=
  .someRun true _

/-- The pattern of an identifier spells the identifiers. -/
theorem spells_identifier : identifier.Spells (Head.isIdentifier · = true) := by
  refine ((Spells.one _).seq (.run true _)).congr fun t => ⟨?_, fun known => ?_⟩
  · rintro ⟨_, rest, rfl, ⟨c, first, rfl⟩, all⟩
    rw [List.singleton_append, Head.isIdentifier, first, List.all_eq_true.mpr all]
    rfl
  · cases t with
    | nil => cases known
    | cons c rest =>
      rw [Head.isIdentifier, Bool.and_eq_true] at known
      exact ⟨[c], rest, rfl, ⟨c, known.1, rfl⟩, List.all_eq_true.mp known.2⟩

/-- A name with or without a dollar sign in front. -/
theorem spells_name : (row [.optional (.text "$"), identifier]).Spells (Head.isName · = true) := by
  refine ((Spells.optional (.text "$")).seq spells_identifier).congr fun t => ⟨?_, fun named => ?_⟩
  · rintro ⟨_, x, rfl, rfl | rfl, identifier⟩
    · exact identifier
    · exact Head.isName_of_isIdentifier identifier
  · unfold Head.isName at named
    split at named
    case h_1 rest => exact ⟨['$'], rest, rfl, .inl rfl, named⟩
    case h_2 => exact ⟨[], t, rfl, .inr rfl, named⟩

/-- The pattern of the words before the name spells them. -/
theorem spells_leads : leads.Spells Head.IsLeads := by
  have word : (Regex.some true (.either (.one Head.isLeadChar) (.text "::"))).Spells
      fun t => t ≠ [] ∧ Head.isLead t = true := by
    refine (Spells.some ((Spells.one _).either (.text "::")) ?_ true).congr fun t => ?_
    · rintro t (⟨c, -, rfl⟩ | rfl) <;> simp
    · rw [Head.isLead_iff]
  refine (word.seq spells_someBlanks).many ?_ true
  rintro _ ⟨word, gap, rfl, ⟨some, -⟩, -⟩
  simp [some]

/-! ## The heads -/

/-- An expression takes the front of a line up to the first equals sign, in one or more ways if that
has a name and in none otherwise, and remembers the name. -/
def ReadsHead (r : Regex) (name? : Text → Option Text) : Prop :=
  ∀ s, (∀ c ∈ s.head?, isBlank c = false) → ∀ w, w ∈ r.ways s ↔
    ∃ head x, '=' ∉ head ∧ name? head = some x ∧ s = head ++ '=' :: w.rest ∧
      w = ⟨head ++ ['='], w.rest, [("name", x)]⟩

/-- The head of a declaration with a type of one word. -/
theorem readsHead_typedHead : ReadsHead typedHead Head.typedName? := by
  intro s first w
  refine (Regex.mem_seq_named (((Spells.text "var").either (.text "const")).seq spells_someBlanks)
    spells_identifier (spells_someBlanks.seq
      ((Spells.someRun true Head.isPlainTypeChar).seq (spells_blanks.seq (.text "="))))).trans ?_
  constructor
  · rintro ⟨_, x, _, rfl, ⟨keyword, gap, rfl, known, wide⟩, identifier,
      ⟨gap', _, rfl, wide', type, _, rfl, typed, end', _, rfl, blanks, rfl⟩, way⟩
    have whole (rest : Text) : keyword ++ gap ++ x ++ (gap' ++ (type ++ (end' ++ "=".toList))) ++
        rest = keyword ++ (gap ++ (x ++ (gap' ++ (type ++ end')))) ++ '=' :: rest := by simp
    rw [whole] at first ⊢
    refine ⟨_, x, ?_, (Head.typedName?_eq_some_iff (Text.first_of_append first)).mpr ⟨keyword, gap,
      gap', type, end', rfl, known, wide, identifier, wide', typed, blanks⟩, rfl,
      way.trans (by simp)⟩
    have bare : '=' ∉ keyword := by rcases known with rfl | rfl <;> decide
    simp only [List.mem_append, not_or]
    exact ⟨bare, Text.not_mem_of_kind wide.2 (by decide),
      Head.not_mem_of_isName (Head.isName_of_isIdentifier identifier) (by decide) (by decide),
      Text.not_mem_of_kind wide'.2 (by decide), Text.not_mem_of_kind typed.2 (by decide),
      Text.not_mem_of_kind blanks (by decide)⟩
  · rintro ⟨head, x, -, named, whole, way⟩
    rw [whole] at first
    obtain ⟨keyword, gap, gap', type, end', rfl, known, wide, identifier, wide', typed, blanks⟩ :=
      (Head.typedName?_eq_some_iff (Text.first_of_append first)).mp named
    exact ⟨_, x, _, whole.trans (by simp), ⟨keyword, gap, rfl, known, wide⟩, identifier,
      ⟨gap', _, rfl, wide', type, _, rfl, typed, end', _, rfl, blanks, rfl⟩, way.trans (by simp)⟩

/-- What is left of a head without a colon right before its sign. -/
theorem dropFinalColon_eq_iff {head body : Text} (solid : body.getLast? ≠ some ':') :
    Head.dropFinalColon head = body ↔ head = body ∨ head = body ++ [':'] := by
  unfold Head.dropFinalColon
  constructor
  · rintro rfl
    split
    case isTrue colon =>
      obtain ⟨front, rfl⟩ := List.getLast?_eq_some_iff.mp (beq_iff_eq.mp colon)
      exact .inr (by rw [List.dropLast_concat])
    case isFalse => exact .inl rfl
  · rintro (rfl | rfl)
    · exact if_neg (by simpa using solid)
    · simp

/-- The head of any other declaration or assignment. -/
theorem readsHead_declaredHead :
    ReadsHead declaredHead fun head => Head.declaredName? (Head.dropFinalColon head) := by
  intro s first w
  refine (Regex.mem_seq_named (spells_leads.seq (.run true Head.isMark)) spells_name
    (spells_blanks.seq ((Spells.optional ((Spells.text ":").seq
      (spells_blanks.seq (.someRun false Head.isTypeChar)))).seq
        (spells_blanks.seq ((Spells.text ":=").either (.text "=")))))).trans ?_
  constructor
  · rintro ⟨_, x, _, rfl, ⟨leads, marks, rfl, known⟩, named,
      ⟨gap, _, rfl, blanks, type, _, rfl, typed, end', sign, rfl, blanks', signed⟩, way⟩
    generalize body_eq : leads ++ (marks ++ (x ++ (gap ++ (type ++ end')))) = body
    have declares : Head.Declares body x := Head.declares_iff.mpr
      ⟨leads, marks, gap, type, end', body_eq.symm, known, named, blanks, typed, blanks'⟩
    have taken : leads ++ marks ++ x ++ (gap ++ (type ++ (end' ++ sign))) = body ++ sign := by
      simp [← body_eq]
    rw [taken, List.append_assoc] at first
    rw [taken] at way ⊢
    have read (head : Text) (cut : head = body ∨ head = body ++ [':']) :
        Head.declaredName? (Head.dropFinalColon head) = some x := by
      rw [(dropFinalColon_eq_iff declares.getLast?_ne).mpr cut]
      exact (Head.declaredName?_eq_some_iff (Text.first_of_append first)).mpr declares
    -- The colon before the sign is part of the sign for the pattern, and of the head for the
    -- reading.
    rcases signed with rfl | rfl
    · exact ⟨body ++ [':'], x, by simpa using declares.bare, read _ (.inr rfl), by simp,
        way.trans (by simp)⟩
    · exact ⟨body, x, declares.bare, read _ (.inl rfl), by simp, way⟩
  · rintro ⟨head, x, -, read, rfl, way⟩
    obtain ⟨tail, whole⟩ := Head.prefix_dropFinalColon head
    have front : ∀ c ∈ (Head.dropFinalColon head).head?, isBlank c = false := by
      rw [← whole, List.append_assoc] at first
      exact Text.first_of_append first
    have declares := (Head.declaredName?_eq_some_iff front).mp read
    have cut := (dropFinalColon_eq_iff declares.getLast?_ne).mp rfl
    generalize Head.dropFinalColon head = body at declares cut
    obtain ⟨leads, marks, gap, type, end', rfl, known, named, blanks, typed, blanks'⟩ :=
      Head.declares_iff.mp declares
    -- The colon that the reading drops goes back to the sign.
    obtain ⟨sign, signed, taken⟩ : ∃ sign, (sign = ":=".toList ∨ sign = "=".toList) ∧
        head ++ ['='] = leads ++ marks ++ x ++ (gap ++ (type ++ (end' ++ sign))) := by
      rcases cut with rfl | rfl
      · exact ⟨"=".toList, .inr rfl, by simp⟩
      · exact ⟨":=".toList, .inl rfl, by simp⟩
    refine ⟨_, x, _, ?_, ⟨leads, marks, rfl, known⟩, named, ⟨gap, _, rfl, blanks, type, _, rfl,
      typed, end', sign, rfl, blanks', signed⟩, way.trans (by rw [taken])⟩
    rw [← taken]
    simp

/-! ## The right-hand side -/

variable {s : Text} {w : Way}

/-- What is left without a final semicolon has no blanks around it. -/
theorem strip_dropSemicolon_strip (s : Text) :
    Text.strip (RightHandSide.dropSemicolon (Text.strip s)) =
      RightHandSide.dropSemicolon (Text.strip s) := by
  have stripped := Text.isStripped_strip s
  unfold RightHandSide.dropSemicolon
  split
  case isTrue semicolon =>
    obtain ⟨front, cut⟩ := List.getLast?_eq_some_iff.mp (beq_iff_eq.mp semicolon)
    have first := stripped.first
    rw [cut] at first ⊢
    rw [List.dropLast_concat, Text.strip_stripRight, Text.strip,
      Text.stripLeft_eq_self (Text.first_of_append first)]
  case isFalse => exact Text.strip_eq_self stripped.first stripped.last

/-- What may follow the value: blanks with or without a semicolon among them. -/
def Closes (s : Text) : Prop :=
  ∃ gap semicolon end', s = gap ++ (semicolon ++ end') ∧ (∀ c ∈ gap, isBlank c = true) ∧
    (semicolon = ";".toList ∨ semicolon = []) ∧ ∀ c ∈ end', isBlank c = true

/-- The end of a pattern matches what may follow the value, all of it, and remembers nothing. -/
theorem closes_of_mem_closing (member : w ∈ closing.ways s) : Closes s ∧ w.groups = [] := by
  have spells := spells_blanks.seq ((Spells.optional (.text ";")).seq spells_blanks)
  obtain ⟨u, first, v, finished, rfl⟩ := Regex.mem_seq.mp member
  obtain ⟨rfl, ⟨gap, _, taken, blanks, semicolon, end', rfl, known, blanks'⟩, nothing⟩ :=
    (spells s u).mp first
  obtain ⟨ending, rfl⟩ := Regex.mem_finish.mp finished
  refine ⟨⟨gap, semicolon, end' ++ u.rest, by simp [taken], blanks, known, ?_⟩, ?_⟩
  · refine List.forall_mem_append.mpr ⟨blanks', ?_⟩
    rcases ending with none | feed
    · simp [none]
    · rw [feed]
      decide
  · rw [Way.followedBy, nothing]
    rfl

/-- What may stand behind the value is matched, and no group is taken from it. -/
theorem first?_closing (closes : Closes s) :
    ∃ w, closing.first? s = some w ∧ w.groups = [] := by
  have spells := spells_blanks.seq ((Spells.optional (.text ";")).seq spells_blanks)
  obtain ⟨gap, semicolon, end', rfl, blanks, known, blanks'⟩ := closes
  generalize whole : gap ++ (semicolon ++ end') = s
  have member : (⟨s, [], []⟩ : Way).followedBy (.start []) ∈ closing.ways s :=
    Regex.mem_seq.mpr ⟨_, (spells s _).mpr ⟨by simp, ⟨gap, _, whole.symm, blanks, semicolon, end',
      rfl, known, blanks'⟩, rfl⟩, _, Regex.mem_finish.mpr ⟨.inl rfl, rfl⟩, rfl⟩
  obtain ⟨w, found⟩ := Option.isSome_iff_exists.mp
    (List.isSome_head?.mpr (List.ne_nil_of_mem member))
  exact ⟨w, found, (closes_of_mem_closing (Regex.mem_of_first? found)).2⟩

/-- Where a value is followed by what may follow it, the text without blanks and without a final
semicolon goes no further than the value. -/
theorem dropSemicolon_prefix {gap value rest : Text} (blanks : ∀ c ∈ gap, isBlank c = true)
    (closes : Closes rest) :
    RightHandSide.dropSemicolon (Text.strip (gap ++ (value ++ rest))) <+: Text.strip value := by
  obtain ⟨gap', _, end', rfl, blanks', rfl | rfl, blanks''⟩ := closes
  · have right : Text.stripRight end' = [] := Text.stripRight_of_blanks blanks''
    have cut : Text.strip (gap ++ (value ++ (gap' ++ (";".toList ++ end')))) =
        Text.stripLeft (gap ++ (value ++ gap')) ++ [';'] := by
      have apart := Text.strip_append_cons (c := ';') (by decide) (gap ++ (value ++ gap')) end'
      rw [right] at apart
      simpa using apart
    rw [cut, RightHandSide.dropSemicolon_concat]
    have same : Text.stripRight (Text.stripLeft (gap ++ (value ++ gap'))) = Text.strip value := by
      rw [← Text.strip, Text.strip_blanks_append blanks, Text.strip_append_blanks blanks']
    exact same ▸ List.prefix_rfl
  · rw [Text.strip_blanks_append blanks, List.nil_append,
      Text.strip_append_blanks (List.forall_mem_append.mpr ⟨blanks', blanks''⟩)]
    exact RightHandSide.prefix_dropSemicolon _

/-- The text without a final semicolon is followed by what may follow a value. -/
theorem exists_closes (s : Text) : ∃ rest, Closes rest ∧
    Text.stripLeft s = RightHandSide.dropSemicolon (Text.strip s) ++ rest := by
  obtain ⟨right, blanks, whole⟩ := Text.exists_append_blanks (Text.stripLeft s)
  rw [← Text.strip] at whole
  unfold RightHandSide.dropSemicolon
  split
  case isTrue semicolon =>
    obtain ⟨front, cut⟩ := List.getLast?_eq_some_iff.mp (beq_iff_eq.mp semicolon)
    obtain ⟨gap, blanks', parts⟩ := Text.exists_append_blanks front
    refine ⟨gap ++ (";".toList ++ right), ⟨gap, _, right, rfl, blanks', .inl rfl, blanks⟩, ?_⟩
    rw [cut, List.dropLast_concat, ← whole, cut, ← List.append_assoc, parts]
    simp
  case isFalse =>
    exact ⟨right, ⟨[], [], right, rfl, by simp, .inr rfl, blanks⟩, whole.symm⟩

/-- The search for a right-hand side finds the shortest value there can be. -/
theorem first?_side (single : s.head? ≠ some '=')
    (whole : '\n' ∉ RightHandSide.dropSemicolon (Text.strip s)) :
    ∃ w, side.first? s = some w ∧
      w.groups = [("value", RightHandSide.dropSemicolon (Text.strip s))] := by
  obtain ⟨rest, closes, cut⟩ := exists_closes s
  generalize found_eq : RightHandSide.dropSemicolon (Text.strip s) = found at whole cut ⊢
  obtain ⟨end', finished, nothing⟩ := first?_closing closes
  -- Any value that something may follow is at least as long.
  have shortest (u t : Text) (same : u ++ t = found ++ rest) (shorter : u.length < found.length) :
      closing.first? t = none := by
    cases match? : closing.first? t with
    | none => rfl
    | some way =>
      have closes := (closes_of_mem_closing (Regex.mem_of_first? match?)).1
      have inside : RightHandSide.dropSemicolon (Text.strip ([] ++ (u ++ t))) <+: Text.strip u :=
        dropSemicolon_prefix (by simp) closes
      rw [List.nil_append, same, ← cut, Text.strip_stripLeft, found_eq] at inside
      exact absurd (inside.length_le.trans (Text.length_strip_le u)) (Nat.not_le.mpr shorter)
  have oneLine : ∀ c ∈ found, (c != '\n') = true := fun c member =>
    bne_iff_ne.mpr (ne_of_mem_of_not_mem member whole)
  have valued : valuePart.first? (found ++ rest) =
      some ((Way.called "value" ⟨found, rest, []⟩).followedBy end') := by
    rw [valuePart, Regex.first?_seq, Regex.ways, List.findSome?_map]
    refine Regex.findSome?_lazy oneLine (fun u t same shorter => ?_) ?_
    · simp [Way.called, shortest u t same shorter]
    · simp [Way.called, finished]
  have opened : (Regex.seq blanks valuePart).first? s = some (Way.followedBy
      ⟨s.takeWhile isBlank, found ++ rest, []⟩
      ((Way.called "value" ⟨found, rest, []⟩).followedBy end')) := by
    rw [Regex.first?_seq]
    refine Regex.findSome?_greedy ?_
    rw [← Text.stripLeft, cut, valued]
    rfl
  have once := Regex.first?_seq_of_unique (b := .seq blanks valuePart) (w := .start s)
    (fun _ member => (Regex.mem_unless.mp member).2) (Regex.mem_unless.mpr ⟨single, rfl⟩)
  refine ⟨_, once.trans (congrArg _ opened), ?_⟩
  simp [Way.followedBy, Way.called, Way.start, nothing]

/-- There is no right-hand side behind a doubled sign or with a line feed in the value. -/
theorem ways_side_eq_nil
    (none : s.head? = some '=' ∨ '\n' ∈ RightHandSide.dropSemicolon (Text.strip s)) :
    side.ways s = [] := by
  refine List.eq_nil_iff_forall_not_mem.mpr fun w member => ?_
  obtain ⟨_, once, _, opened, rfl⟩ := Regex.mem_seq.mp member
  obtain ⟨single, rfl⟩ := Regex.mem_unless.mp once
  obtain ⟨gap, skipped, _, valued, rfl⟩ := Regex.mem_seq.mp opened
  obtain ⟨whole, blanks, -⟩ := (spells_blanks _ gap).mp skipped
  obtain ⟨_, named, last, closed, rfl⟩ := Regex.mem_seq.mp valued
  obtain ⟨value, taken, rfl⟩ := List.mem_map.mp named
  obtain ⟨parts, oneLine, -⟩ := (Spells.run false _ _ value).mp taken
  have closes := (closes_of_mem_closing closed).1
  have cut : gap.taken ++ (value.taken ++ (Way.called "value" value).rest) = s :=
    (congrArg (gap.taken ++ ·) parts).trans whole
  have inside : RightHandSide.dropSemicolon (Text.strip s) <+: Text.strip value.taken := by
    rw [← cut]
    exact dropSemicolon_prefix blanks closes
  rcases none with doubled | feed
  · exact single doubled
  · have known := oneLine _ (Text.strip_subset _ (inside.subset feed))
    simp at known

/-! ## The whole line -/

namespace ReadsHead

variable {r : Regex} {name? : Text → Option Text} (reads : ReadsHead r name?) {head rest : Text}
  (first : ∀ c ∈ (head ++ '=' :: rest).head?, isBlank c = false) (bare : '=' ∉ head)

include reads

/-- A pattern matches no line without an equals sign. -/
theorem first?_of_no_sign (starts : ∀ c ∈ s.head?, isBlank c = false) (none : '=' ∉ s) :
    (Regex.seq r side).first? s = .none := by
  have ways : r.ways s = [] := List.eq_nil_iff_forall_not_mem.mpr fun w member => by
    obtain ⟨head, x, -, -, rfl, -⟩ := (reads s starts w).mp member
    exact none (by simp)
  rw [Regex.first?_seq, ways]
  rfl

include first bare

/-- The way of a head is known from the line. -/
theorem mem_ways_iff {w : Way} : w ∈ r.ways (head ++ '=' :: rest) ↔
    ∃ x, name? head = some x ∧ w = ⟨head ++ ['='], rest, [("name", x)]⟩ := by
  rw [reads _ first]
  constructor
  · rintro ⟨head', x, bare', named, whole, way⟩
    obtain ⟨rfl, same⟩ := Text.append_cons_inj bare bare' whole
    exact ⟨x, named, by rw [way, same]⟩
  · rintro ⟨x, named, rfl⟩
    exact ⟨head, x, bare, named, rfl, rfl⟩

/-- Behind a head without a name nothing is looked for. -/
theorem first?_of_no_name (none : name? head = .none) :
    (Regex.seq r side).first? (head ++ '=' :: rest) = .none := by
  have ways : r.ways (head ++ '=' :: rest) = [] :=
    List.eq_nil_iff_forall_not_mem.mpr fun w member => by
      obtain ⟨x, named, -⟩ := (reads.mem_ways_iff first bare).mp member
      rw [none] at named
      cases named
  rw [Regex.first?_seq, ways]
  rfl

/-- No other way of the head helps where there is no right-hand side. -/
theorem first?_of_no_side
    (none : rest.head? = some '=' ∨ '\n' ∈ RightHandSide.dropSemicolon (Text.strip rest)) :
    (Regex.seq r side).first? (head ++ '=' :: rest) = .none := by
  rw [Regex.first?_seq, List.findSome?_eq_none_iff]
  intro w member
  obtain ⟨x, -, rfl⟩ := (reads.mem_ways_iff first bare).mp member
  rw [Regex.first?, ways_side_eq_nil none]
  rfl

/-- A name and a right-hand side are found together, whichever way of the head comes first. -/
theorem first?_of_name {x : Text} (named : name? head = some x) (single : rest.head? ≠ some '=')
    (whole : '\n' ∉ RightHandSide.dropSemicolon (Text.strip rest)) :
    ((Regex.seq r side).first? (head ++ '=' :: rest)).map ofWay = some ⟨x, Text.stripQuotes
      (RightHandSide.dropSemicolon (RightHandSide.dropSemicolon (Text.strip rest)))⟩ := by
  obtain ⟨w, found, groups⟩ := first?_side single whole
  have once := Regex.first?_seq_of_unique (b := side)
    (fun w member => by
      obtain ⟨y, known, rfl⟩ := (reads.mem_ways_iff first bare).mp member
      rw [named] at known
      rw [← Option.some.inj known])
    ((reads.mem_ways_iff first bare).mpr ⟨x, named, rfl⟩)
  rw [once, found]
  simp [ofWay, Way.group?, Way.followedBy, groups, List.lookup_cons, strip_dropSemicolon_strip]

/-- What a pattern finds on a line: the name of the head and the value of the right-hand side. -/
theorem first?_eq : ((Regex.seq r side).first? (head ++ '=' :: rest)).map ofWay =
    if rest.head? = some '=' then none
    else (name? head).bind fun x => (RightHandSide.value? rest).map fun value => ⟨x, value⟩ := by
  by_cases single : rest.head? = some '='
  · rw [if_pos single, reads.first?_of_no_side first bare (.inl single)]
    rfl
  rw [if_neg single]
  cases named : name? head with
  | none =>
    rw [reads.first?_of_no_name first bare named]
    rfl
  | some x =>
    rw [Option.bind_some, RightHandSide.value?]
    split
    case isTrue feed =>
      rw [reads.first?_of_no_side first bare (.inr (by simpa using feed))]
      rfl
    case isFalse whole =>
      exact reads.first?_of_name first bare named single (by simpa using whole)

end ReadsHead

/-- The two readings of a line find what the first pattern that matches it finds. -/
theorem ofLine?_eq_matchLine? (line : Text) : ofLine? line = matchLine? line := by
  have first := (Text.isStripped_strip line).first
  unfold ofLine? matchLine?
  generalize Text.strip line = stripped at first
  dsimp only
  by_cases sign : '=' ∈ stripped
  · obtain ⟨head, rest, rfl, bare⟩ := List.eq_append_cons_of_mem sign
    have found : (patterns.findSome? fun pattern => pattern.first? (head ++ '=' :: rest)).map ofWay =
        if rest.head? = some '=' then none
        else (Head.name? head).bind fun x =>
          (RightHandSide.value? rest).map fun value => ⟨x, value⟩ := by
      have either (p q : Regex) (s : Text) : ([p, q].findSome? fun r => r.first? s) =
          (p.first? s).or (q.first? s) := by
        rw [List.findSome?_cons, List.findSome?_singleton]
        cases p.first? s <;> rfl
      rw [patterns, either, Option.map_or, readsHead_typedHead.first?_eq first bare,
        readsHead_declaredHead.first?_eq first bare]
      split
      · rfl
      · rw [Head.name?]
        cases RightHandSide.value? rest <;> cases Head.typedName? head <;> simp
    have some : (head ++ '=' :: rest).isEmpty = false := by simp
    rw [some, Bool.false_or, found]
    by_cases single : rest.head? = .some '='
    · obtain ⟨rest, rfl⟩ := List.head?_eq_some_iff.mp single
      rw [ofStripped?_append_doubled bare, if_pos single, ite_self]
    · rw [ofStripped?_append_sign bare single, if_neg single]
  · rw [ofStripped?_of_no_sign sign]
    split
    · rfl
    · simp [patterns, readsHead_typedHead.first?_of_no_sign first sign,
        readsHead_declaredHead.first?_of_no_sign first sign]

/-- **The two sides of an assignment.** What the patterns find on a line is what its two readings
say, and the two sides of the first equals sign are independent. The head alone decides whether
something is bound and which name, a part of the head, it is. The value is the side without its
blanks, up to two semicolons, each with the blanks before it, and its quote marks. A doubled sign
binds nothing. -/
theorem sides_apart :
    (∀ line : Text, ofLine? line = matchLine? line) ∧
    ∀ head : Text, '=' ∉ head →
      (∃ bound? : Option Text, (∀ name ∈ bound?, name <:+: head) ∧
        ∀ side : Text, '\n' ∉ side → side.head? ≠ some '=' →
          matchLine? (head ++ '=' :: side) = bound?.map fun name =>
            ⟨name, Text.stripQuotes
              (RightHandSide.dropSemicolon (RightHandSide.dropSemicolon (Text.strip side)))⟩) ∧
      ∀ rest : Text, matchLine? (head ++ '=' :: '=' :: rest) = none := by
  refine ⟨ofLine?_eq_matchLine?, fun head bare => ⟨⟨boundName? head, ?_, ?_⟩, ?_⟩⟩
  · intro name bound
    exact infix_of_boundName? bound
  · intro side whole single
    rw [← ofLine?_eq_matchLine?]
    exact ofLine?_append_sign bare single whole
  · intro rest
    rw [← ofLine?_eq_matchLine?]
    exact ofLine?_append_doubled bare rest

/-- One line with a head tells what every other line with this head binds. -/
theorem sides_apart_of_typed_head :
    '=' ∉ "  let mut x: &str ".toList ∧
      matchLine? "  let mut x: &str = 1".toList = some ⟨"x".toList, "1".toList⟩ ∧
      "x".toList <:+: "  let mut x: &str ".toList ∧
      matchLine? "  let mut x: &str = \x22a = b; \x22 ; ; ".toList =
        some ⟨"x".toList, "a = b; ".toList⟩ ∧
      matchLine? "  let mut x: &str == 1".toList = none := by
  have bare : '=' ∉ "  let mut x: &str ".toList := by decide
  obtain ⟨same, apart⟩ := sides_apart
  obtain ⟨⟨bound?, inside, read⟩, doubled⟩ := apart _ bare
  have first : matchLine? "  let mut x: &str = 1".toList = some ⟨"x".toList, "1".toList⟩ := by
    rw [← same]
    decide +kernel
  have bound : bound? = some "x".toList := by
    have agrees := (read " 1".toList (by decide) (by decide)).symm.trans first
    obtain ⟨name, isBound, same⟩ := Option.map_eq_some_iff.1 agrees
    rw [isBound]
    exact congrArg (some ∘ Assignment.name) same
  refine ⟨bare, first, inside _ bound, ?_, doubled " 1".toList⟩
  refine (read " \x22a = b; \x22 ; ; ".toList (by decide) (by decide)).trans ?_
  rw [bound, Option.map_some]
  decide +kernel

end Assignment

end DryRun
