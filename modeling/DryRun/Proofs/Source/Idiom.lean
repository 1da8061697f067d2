import DryRun.Language.Catalogue
import DryRun.Proofs.Source.Bindings
import DryRun.Grade

/-!
# Idioms

Every heuristic language has a usual way of binding a name to a quoted text and a usual statement
that prints a name. `idioms` lists them. The heads of their assignments differ in the words before
the name and in what follows it, the *binder*; there is one lemma for each binder that reads the
name back from the words of the head (`names_plain`, `names_walrus`, `names_typed`,
`names_annotated`).
-/

set_option autoImplicit false

namespace DryRun

/-- What stands between a name and the equals sign after it. -/
inductive Binder where
  /-- Nothing, as in `x = 1`. -/
  | plain
  /-- A colon of the sign, as in `x := 1`. -/
  | walrus
  /-- A type, as in `x string = 1`. -/
  | typed (type : String)
  /-- A colon and a type, as in `x: &str = 1`. -/
  | annotated (type : String)
  deriving DecidableEq

/-- What a binder leaves in front of the equals sign. -/
def Binder.text : Binder → Text
  | .plain => [' ']
  | .walrus => [' ', ':']
  | .typed type => ' ' :: type.toList ++ [' ']
  | .annotated type => ':' :: ' ' :: type.toList ++ [' ']

/-- A way of binding a name to a quoted text and of printing it. -/
structure Idiom where
  language : Language
  /-- The words before the name. -/
  leads : List String := []
  /-- Whether a pointer mark stands before the name. -/
  isPointer : Bool := false
  /-- Whether names begin with a dollar sign. -/
  hasSigil : Bool := false
  binder : Binder := .plain
  /-- The form of the output statement. -/
  form : OutputForm
  /-- Whether a semicolon ends a statement. -/
  hasSemicolon : Bool := true

namespace Idiom

/-- The name as the language writes it. -/
def name (idiom : Idiom) (x : Text) : Text := if idiom.hasSigil then '$' :: x else x

/-- The last word before the binder. -/
def target (idiom : Idiom) (x : Text) : Text :=
  if idiom.isPointer then '*' :: idiom.name x else idiom.name x

/-- Words, each with a space after it. -/
def leadText (leads : List String) : Text := leads.flatMap fun lead => lead.toList ++ [' ']

/-- What stands before the equals sign. -/
def head (idiom : Idiom) (x : Text) : Text :=
  leadText idiom.leads ++ idiom.target x ++ idiom.binder.text

def closing (idiom : Idiom) : Text := if idiom.hasSemicolon then [';'] else []

/-- The statement that binds `x` to `v`. -/
def assignment (idiom : Idiom) (x : Text) (quote : Char) (v : Text) : Text :=
  idiom.head x ++ '=' :: ' ' :: (quote :: v ++ [quote] ++ idiom.closing)

/-- The statement that prints `x`. -/
def output (idiom : Idiom) (x : Text) : Text :=
  idiom.form.keyword.toList ++
    match idiom.form.shape with
    | .call => '(' :: idiom.name x ++ ')' :: idiom.closing
    | .stream => " << ".toList ++ idiom.name x ++ " << endl".toList ++ idiom.closing
    | .statement => ' ' :: idiom.name x ++ idiom.closing

end Idiom

open DryRun.Language in
/-- The usual ways of binding a name to a quoted text and of printing it. -/
def idioms : List Idiom :=
  [{ language := python, form := ⟨.call, "print", .lineStart⟩, hasSemicolon := false },
   { language := javascript, leads := ["let"], form := ⟨.call, "console.log", .lineStart⟩ },
   { language := typescript, leads := ["let"], form := ⟨.call, "console.log", .lineStart⟩ },
   { language := java, leads := ["String"], form := ⟨.call, "System.out.println", .anywhere⟩ },
   { language := kotlin, leads := ["val"], form := ⟨.call, "println", .lineStart⟩,
     hasSemicolon := false },
   { language := scala, leads := ["val"], form := ⟨.call, "println", .lineStart⟩,
     hasSemicolon := false },
   { language := csharp, leads := ["string"], form := ⟨.call, "Console.WriteLine", .anywhere⟩ },
   { language := cpp, leads := ["string"], form := ⟨.stream, "cout", .wordStart⟩ },
   { language := c, leads := ["char"], isPointer := true, form := ⟨.call, "printf", .wordStart⟩ },
   { language := go, binder := .walrus, form := ⟨.call, "fmt.Println", .anywhere⟩,
     hasSemicolon := false },
   { language := go, leads := ["var"], binder := .typed "string",
     form := ⟨.call, "fmt.Println", .anywhere⟩, hasSemicolon := false },
   { language := rust, leads := ["let", "mut"], binder := .annotated "&str",
     form := ⟨.call, "println!", .wordStart⟩ },
   { language := swift, leads := ["let"], form := ⟨.call, "print", .lineStart⟩,
     hasSemicolon := false },
   { language := ruby, form := ⟨.statement, "puts", .lineStart⟩, hasSemicolon := false },
   { language := php, hasSigil := true, form := ⟨.statement, "echo", .lineStart⟩ },
   { language := dart, leads := ["var"], form := ⟨.call, "print", .lineStart⟩ }]

example : idioms.map (fun idiom => String.ofList (idiom.assignment ['x'] '\x22' ['v'])) =
    ["x = \x22v\x22", "let x = \x22v\x22;", "let x = \x22v\x22;", "String x = \x22v\x22;",
     "val x = \x22v\x22", "val x = \x22v\x22", "string x = \x22v\x22;", "string x = \x22v\x22;",
     "char *x = \x22v\x22;", "x := \x22v\x22", "var x string = \x22v\x22",
     "let mut x: &str = \x22v\x22;", "let x = \x22v\x22", "x = \x22v\x22", "$x = \x22v\x22;",
     "var x = \x22v\x22;"] := by decide

example : idioms.map (fun idiom => String.ofList (idiom.output ['x'])) =
    ["print(x)", "console.log(x);", "console.log(x);", "System.out.println(x);", "println(x)",
     "println(x)", "Console.WriteLine(x);", "cout << x << endl;", "printf(x);", "fmt.Println(x)",
     "fmt.Println(x)", "println!(x);", "print(x)", "puts x", "echo $x;", "print(x);"] := by decide

namespace Head

/-- An identifier consists of word characters. -/
theorem isWordChar_of_isIdentifier {x : Text} (identifier : isIdentifier x = true) {c : Char}
    (member : c ∈ x) : Text.isWordChar c = true := by
  cases x with
  | nil => simp at member
  | cons first rest =>
    simp only [isIdentifier, Bool.and_eq_true, Bool.or_eq_true, beq_iff_eq,
      List.all_eq_true] at identifier
    rcases List.mem_cons.1 member with rfl | inside
    · rcases identifier.1 with letter | rfl
      · have ascii : c.toNat < 128 := by
          simp only [Text.isAsciiLetter, Bool.or_eq_true, Bool.and_eq_true, decide_eq_true_eq,
            Char.le_def, UInt32.le_iff_toNat_le] at letter
          rcases letter with ⟨-, last⟩ | ⟨-, last⟩
          · exact Nat.lt_of_le_of_lt last (by decide)
          · exact Nat.lt_of_le_of_lt last (by decide)
        simp [Text.isWordChar, ascii, letter]
      · decide
    · exact identifier.2 c inside

/-- A name has word characters only, but for the dollar sign in front. -/
theorem mem_of_isName {x : Text} (named : isName x = true) {c : Char} (member : c ∈ x) :
    c = '$' ∨ Text.isWordChar c = true := by
  unfold isName at named
  split at named
  · rcases List.mem_cons.1 member with rfl | inside
    · exact .inl rfl
    · exact .inr (isWordChar_of_isIdentifier named inside)
  · exact .inr (isWordChar_of_isIdentifier named member)

section Name

variable {x : Text} (named : isName x = true)

include named

/-- A name is not empty. -/
theorem ne_nil_of_isName : x ≠ [] := by
  rintro rfl
  simp [isName, isIdentifier] at named

/-- A name has no blanks in it. -/
theorem solid_of_isName : ∀ c ∈ x, Text.isBlank c = false := by
  intro c member
  by_contra blank
  rw [Bool.not_eq_false] at blank
  rcases mem_of_isName named member with rfl | word
  · simp [Text.isBlank] at blank
  · simp [Text.isWordChar_of_isBlank blank] at word

/-- A name has no characters but word characters and dollar signs. -/
theorem not_mem_of_isName {c : Char} (sigil : c ≠ '$') (apart : Text.isWordChar c = false) :
    c ∉ x := fun member => by
  rcases mem_of_isName named member with same | word
  · exact sigil same
  · simp [apart] at word

/-- A name without pointer marks is its own name. -/
theorem markedName?_of_isName : markedName? x = some x := by
  have bare : x.dropWhile (fun c => c == '&' || c == '*') = x := by
    cases x with
    | nil => rfl
    | cons c rest =>
      have ampersand : c ≠ '&' := ne_of_mem_of_not_mem List.mem_cons_self
        (not_mem_of_isName named (by decide) (by decide))
      have star : c ≠ '*' := ne_of_mem_of_not_mem List.mem_cons_self
        (not_mem_of_isName named (by decide) (by decide))
      simp [ampersand, star]
  rw [markedName?, bare, if_pos named]

end Name

/-- Words that may stand before a name and then a name declare it. -/
theorem declaredName?_of_words {s word name : Text} {leads : List Text}
    (cut : Text.words s = leads ++ [word]) (led : leads.all isLead = true)
    (marked : markedName? word = some name) : declaredName? s = some name := by
  simp [declaredName?, lastName?, cut, led, marked]

/-- A declaration with a type of one word has three words. -/
theorem typedName?_of_length_ne {s : Text} (length : (Text.words s).length ≠ 3) :
    typedName? s = none := by
  unfold typedName?
  split
  case h_1 cut => simp [cut] at length
  case h_2 => rfl

/-- A word that ends in a colon may not stand before a name. -/
theorem isLead_colon {s : Text} (once : ':' ∉ s) : isLead (s ++ [':']) = false := by
  induction s with
  | nil => decide
  | cons c s ih =>
    have apart : c ≠ ':' := fun same => once (same ▸ List.mem_cons_self)
    have rest := ih fun member => once (List.mem_cons_of_mem c member)
    simp [isLead, apart, rest]

end Head

namespace Idiom

section Name

/-! ### Names -/

variable (idiom : Idiom) {x : Text} (identifier : Head.isIdentifier x = true)

include identifier

/-- A name as the language writes it is a name. -/
theorem isName_name : Head.isName (idiom.name x) = true := by
  unfold name
  split
  · exact identifier
  · exact Head.isName_of_isIdentifier identifier

/-- The characters of a name as the language writes it are word characters and dollar signs. -/
theorem mem_name {c : Char} (member : c ∈ idiom.name x) :
    c = '$' ∨ Text.isWordChar c = true :=
  Head.mem_of_isName (isName_name idiom identifier) member

/-- A name as the language writes it has no blanks in it. -/
theorem name_solid : ∀ c ∈ idiom.name x, Text.isBlank c = false :=
  Head.solid_of_isName (isName_name idiom identifier)

/-- Nothing but word characters and dollar signs is in a name as the language writes it. -/
theorem not_mem_name {c : Char} (sigil : c ≠ '$') (apart : Text.isWordChar c = false) :
    c ∉ idiom.name x :=
  Head.not_mem_of_isName (isName_name idiom identifier) sigil apart

/-- A name as the language writes it is not empty. -/
theorem name_ne_nil : idiom.name x ≠ [] := Head.ne_nil_of_isName (isName_name idiom identifier)

/-- The last word before the binder has the name in it. -/
theorem markedName?_target : Head.markedName? (idiom.target x) = some (idiom.name x) := by
  have bare := Head.markedName?_of_isName (isName_name idiom identifier)
  unfold target
  split
  · exact bare
  · exact bare

/-- There are no blanks in the last word before the binder. -/
theorem target_solid : ∀ c ∈ idiom.target x, Text.isBlank c = false := by
  unfold target
  split
  · intro c member
    rcases List.mem_cons.1 member with rfl | inside
    · decide
    · exact name_solid idiom identifier c inside
  · exact name_solid idiom identifier

/-- The last word before the binder is one word. -/
theorem words_target : Text.words (idiom.target x) = [idiom.target x] := by
  refine Text.words_of_solid ?_ (target_solid idiom identifier)
  unfold target
  split
  · simp
  · exact name_ne_nil idiom identifier

end Name

/-! ### The head of the assignment -/

/-- Words that may stand before a name. -/
def Leading (leads : List String) : Prop :=
  ∀ lead ∈ leads, Text.words lead.toList = [lead.toList] ∧ Head.isLead lead.toList = true

instance (leads : List String) : Decidable (Leading leads) :=
  inferInstanceAs (Decidable (∀ lead ∈ leads, _))

/-- The words that lead are the first words of the text. -/
theorem words_leadText {leads : List String} (leading : Leading leads) (s : Text) :
    Text.words (leadText leads ++ s) = leads.map String.toList ++ Text.words s := by
  induction leads with
  | nil => rfl
  | cons lead leads ih =>
    have others := ih fun other member => leading other (List.mem_cons_of_mem lead member)
    have first := (leading lead List.mem_cons_self).1
    have cut : leadText (lead :: leads) ++ s = lead.toList ++ ' ' :: (leadText leads ++ s) := by
      simp [leadText]
    rw [cut, Text.words_append_blank (by decide), first, others]
    rfl

/-- A word before a space is one, and the words after it follow. -/
theorem words_before_space {word : Text} (solid : Text.words word = [word]) (rest : Text) :
    Text.words (word ++ ' ' :: rest) = word :: Text.words rest := by
  rw [Text.words_append_blank (by decide), solid]
  rfl

/-- The words that lead may stand before a name. -/
theorem all_isLead {leads : List String} (leading : Leading leads) :
    (leads.map String.toList).all Head.isLead = true := by
  simpa [List.all_eq_true] using fun lead member => (leading lead member).2

/-- The head of the idiom's assignment binds the name. -/
def Names (idiom : Idiom) : Prop :=
  ∀ x, Head.isIdentifier x = true → Head.name? (idiom.head x) = some (idiom.name x)

variable {idiom : Idiom}

/-- A bare assignment, with one word before the name at most, binds the name. -/
theorem names_plain (leading : Leading idiom.leads) (few : idiom.leads.length < 2)
    (plain : idiom.binder = .plain) : idiom.Names := by
  intro x identifier
  have head : idiom.head x = leadText idiom.leads ++ (idiom.target x ++ [' ']) := by
    simp [Idiom.head, plain, Binder.text]
  have cut : Text.words (idiom.head x) = idiom.leads.map String.toList ++ [idiom.target x] := by
    rw [head, words_leadText leading, words_before_space (words_target idiom identifier)]
    rfl
  have undropped : Head.dropFinalColon (idiom.head x) = idiom.head x := by
    simp [Head.dropFinalColon, head]
  have untyped : Head.typedName? (idiom.head x) = none :=
    Head.typedName?_of_length_ne (by simp [cut]; omega)
  rw [Head.name?, untyped, undropped, Option.none_or]
  exact Head.declaredName?_of_words cut (all_isLead leading) (markedName?_target idiom identifier)

/-- An assignment with a colon in its sign binds the name. -/
theorem names_walrus (first : idiom.leads = []) (walrus : idiom.binder = .walrus) :
    idiom.Names := by
  intro x identifier
  have head : idiom.head x = idiom.target x ++ [' '] ++ [':'] := by
    simp [Idiom.head, walrus, first, leadText, Binder.text]
  have cut := words_before_space (words_target idiom identifier)
  have dropped : Head.dropFinalColon (idiom.head x) = idiom.target x ++ [' '] := by
    simp [Head.dropFinalColon, head]
  have untyped : Head.typedName? (idiom.head x) = none := by
    refine Head.typedName?_of_length_ne ?_
    rw [head, List.append_assoc, List.singleton_append, cut,
      Text.words_of_solid (by simp) (Text.forall_mem_of_all (by decide))]
    simp
  rw [Head.name?, untyped, dropped, Option.none_or]
  have alone : Text.words (idiom.target x ++ [' ']) = [] ++ [idiom.target x] := cut []
  exact Head.declaredName?_of_words alone rfl (markedName?_target idiom identifier)

/-- A declaration with a type of one word binds the name. -/
theorem names_typed {type : String} (opening : idiom.leads = ["var"])
    (unmarked : idiom.isPointer = false ∧ idiom.hasSigil = false)
    (typed : idiom.binder = .typed type) (word : Text.words type.toList = [type.toList])
    (plain : Head.isPlainType type.toList = true) : idiom.Names := by
  intro x identifier
  have name : idiom.name x = x := by simp [Idiom.name, unmarked]
  have target : idiom.target x = x := by simp [Idiom.target, name, unmarked]
  have solid : Text.words x = [x] := by
    simpa [target] using words_target idiom identifier
  have head : idiom.head x = leadText ["var"] ++ (x ++ ' ' :: (type.toList ++ ' ' :: [])) := by
    simp [Idiom.head, opening, target, typed, Binder.text]
  have cut : Text.words (idiom.head x) = ["var".toList, x, type.toList] := by
    rw [head, words_leadText (by decide), words_before_space solid, words_before_space word]
    rfl
  rw [Head.name?, Head.typedName?, cut]
  simp [identifier, plain, name]

/-- A declaration with a type after a colon binds the name. -/
theorem names_annotated {type : String} (leading : Leading idiom.leads)
    (count : idiom.leads.length ≠ 1) (annotated : idiom.binder = .annotated type)
    (word : Text.words type.toList = [type.toList])
    (typing : Head.isAnnotation (' ' :: (type.toList ++ [' '])) = true)
    (once : ':' ∉ type.toList) : idiom.Names := by
  intro x identifier
  have noColon : ':' ∉ idiom.target x := by
    have inside : ':' ∉ idiom.name x := not_mem_name idiom identifier (by decide) (by decide)
    unfold target
    split
    · simpa using inside
    · exact inside
  have head : idiom.head x = leadText idiom.leads ++ idiom.target x ++
      ':' :: ' ' :: (type.toList ++ [' ']) := by
    simp [Idiom.head, annotated, Binder.text]
  have colonWord : Text.words (idiom.target x ++ [':']) = [idiom.target x ++ [':']] := by
    refine Text.words_of_solid (by simp) fun c member => ?_
    rcases List.mem_append.1 member with inside | last
    · exact target_solid idiom identifier c inside
    · rw [List.mem_singleton.1 last]
      decide
  have cut : Text.words (idiom.head x) =
      idiom.leads.map String.toList ++ [idiom.target x ++ [':'], type.toList] := by
    have regrouped : idiom.head x = leadText idiom.leads ++
        (idiom.target x ++ [':'] ++ ' ' :: (type.toList ++ ' ' :: [])) := by simp [head]
    rw [regrouped, words_leadText leading, words_before_space colonWord, words_before_space word]
    rfl
  have untyped : Head.typedName? (idiom.head x) = none :=
    Head.typedName?_of_length_ne (by simp [cut]; omega)
  have undropped : Head.dropFinalColon (idiom.head x) = idiom.head x := by
    have last : (idiom.head x).getLast? = some ' ' := by simp [head, List.getLast?_cons]
    simp [Head.dropFinalColon, last]
  -- The word with the colon may not stand before a name, so the type is not taken for one.
  have unnamed : Head.lastName? (Text.words (idiom.head x)) = none := by
    simp [Head.lastName?, cut, Head.isLead_colon noColon]
  have split : Head.splitLastColon? (idiom.head x) =
      some (leadText idiom.leads ++ idiom.target x, ' ' :: (type.toList ++ [' '])) := by
    rw [head]
    exact Head.splitLastColon?_append _ (by simpa using once)
  have named : Head.lastName? (Text.words (leadText idiom.leads ++ idiom.target x)) =
      some (idiom.name x) := by
    rw [words_leadText leading, words_target idiom identifier]
    simp [Head.lastName?, all_isLead leading, markedName?_target idiom identifier]
  rw [Head.name?, untyped, undropped, Option.none_or, Head.declaredName?, unnamed, split]
  simp [typing, named]

end Idiom

end DryRun
