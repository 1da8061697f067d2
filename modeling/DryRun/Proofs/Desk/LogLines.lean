import DryRun.Proofs.Desk.Grading
import DryRun.Proofs.Language.Catalogue
import DryRun.Proofs.Query.Lines
import DryRun.Proofs.Source.Concatenation
import DryRun.Proofs.Source.Search
import DryRun.Proofs.Source.Sides

/-!
# The lines of a log

No entry of a log has a line feed in it, so a log that is shown with its entries on lines of their
own can be read back (`Desk.logs_keep_lines`). Everything that writes into a log has its lemma: what
the tool chain says is written in the catalogue, the argument of an output statement and the value
of an assignment each stand on one line of the source text, and a table answers line by line
(`Table.SingleLined.not_mem_answer`).

An attempt shows no log but that of a run of its language, which is one of the catalogue. Every step
of a desk keeps that (`Step.lined`).
-/

set_option autoImplicit false

namespace DryRun

open Text

/-- Between the marks there are characters of the text only. -/
theorem Text.between?_subset {marks : List Char} {s inner : Text}
    (quoted : between? marks s = some inner) : inner ⊆ s := by
  obtain ⟨mark, -, rfl⟩ := between?_eq_some_iff.mp quoted
  exact List.Subset.trans (List.subset_cons_self mark inner) (List.subset_append_left _ _)

/-- Taking quote marks away brings in no character. -/
theorem Text.stripQuotes_subset (s : Text) : stripQuotes s ⊆ s := by
  unfold stripQuotes
  cases quoted : between? quoteMarks s with
  | none => exact List.Subset.refl s
  | some inner => exact between?_subset quoted

/-! ## What a program prints -/

/-- No value has a line feed. -/
theorem RightHandSide.not_mem_value {side value : Text} (valued : value? side = some value) :
    '\n' ∉ value := by
  simp only [value?] at valued
  split at valued
  case isTrue => cases valued
  case isFalse whole =>
    obtain rfl := Option.some.inj valued
    -- The feed was looked for before the last semicolon and the quote marks were taken away.
    exact fun feed => whole (List.contains_iff_mem.mpr
      (dropSemicolon_subset _ (stripQuotes_subset _ feed)))

/-- What a line binds a name to stands on one line. -/
theorem Assignment.not_mem_value {line : Text} {assignment : Assignment}
    (assigned : ofLine? line = some assignment) : '\n' ∉ assignment.value := by
  unfold ofLine? ofStripped? at assigned
  split at assigned
  · cases assigned
  · split at assigned
    · cases assigned
    · cases assigned
    · split at assigned
      case h_1 valued =>
        obtain rfl := Option.some.inj assigned
        exact RightHandSide.not_mem_value valued
      case h_2 => cases assigned

namespace Prediction

/-- An argument on one line stands for a text on one line. -/
theorem not_mem_resolve {argument : Text} (whole : '\n' ∉ argument) (source : Text) :
    '\n' ∉ resolve (Bindings.ofSource source) argument := by
  have clean : '\n' ∉ RightHandSide.dropSemicolon (strip argument) := fun feed =>
    whole (strip_subset _ (RightHandSide.dropSemicolon_subset _ feed))
  simp only [resolve]
  split
  case h_1 inner quoted => exact fun feed => clean (between?_subset quoted feed)
  case h_2 =>
    cases bound : (Bindings.ofSource source).get? (RightHandSide.dropSemicolon (strip argument)) with
    | none => exact clean
    | some value =>
      obtain ⟨front, line, back, -, assigned, -⟩ := Bindings.get?_foldl_readLine_iff.mp bound
      exact Assignment.not_mem_value assigned

/-- No prediction has a line feed. -/
theorem not_mem_ofSource? {language : Language} (listed : language.IsListed) {source line : Text}
    (predicted : ofSource? language source = some line) : '\n' ∉ line := by
  obtain ⟨argument, found, rfl⟩ := Option.map_eq_some_iff.mp predicted
  obtain ⟨form, known, found⟩ := List.exists_of_findSome?_eq_some found
  exact not_mem_resolve
    (OutputForm.not_mem_argument (OutputForm.legible_of_listed listed known) found) source

end Prediction

namespace Language

variable {language : Language}

/-- No line that an engine prints has a line feed. -/
theorem not_mem_output (listed : language.IsListed) {source : Text} {lines : List Text}
    (printed : language.output source = .ok (some lines)) : ∀ line ∈ lines, '\n' ∉ line := by
  unfold output at printed
  split at printed
  case h_1 =>
    cases answered : Table.users.answer source with
    | error error => rw [answered] at printed; cases printed
    | ok answer =>
      rw [answered] at printed
      obtain rfl := Option.some.inj (Except.ok.inj printed)
      exact Table.singleLined_users.not_mem_answer answered
  case h_2 =>
    obtain ⟨line, predicted, rfl⟩ := Option.map_eq_some_iff.mp (Except.ok.inj printed)
    exact List.forall_mem_singleton.mpr (Prediction.not_mem_ofSource? listed predicted)

/-- No message of an engine that fails has a line feed. -/
theorem not_mem_message {source : Text} {error : QueryError}
    (failed : language.output source = .error error) : '\n' ∉ error.message := by
  unfold output at failed
  split at failed
  case h_1 =>
    cases answered : Table.users.answer source with
    | error e =>
      rw [answered] at failed
      obtain rfl := Except.error.inj failed
      exact Table.not_mem_message_users answered
    | ok answer => rw [answered] at failed; cases failed
  case h_2 => cases failed

end Language

/-! ## Logs -/

/-- Whether what a part of a template says by itself stands on one line. -/
def TemplatePart.isSingleLined : TemplatePart → Bool
  | .literal s => !s.toList.contains '\n'
  | .slot _ => true

/-- A template of one line stays on one line when it is filled with texts of one line. -/
theorem Template.not_mem_fill {t : Template} {value : String → Text}
    (literals : t.all TemplatePart.isSingleLined = true) (whole : ∀ name, '\n' ∉ value name) :
    '\n' ∉ t.fill value := by
  intro feed
  obtain ⟨part, known, inside⟩ := List.mem_flatMap.mp feed
  have single := List.all_eq_true.mp literals part known
  cases part with
  | literal s =>
    rw [TemplatePart.isSingleLined, List.contains_iff_mem.mpr inside] at single
    cases single
  | slot name => exact whole name inside

/-- No line of a banner has a line feed. -/
theorem Language.IsListed.not_mem_banner {language : Language} (listed : language.IsListed) :
    ∀ line ∈ language.banner, '\n' ∉ line := by
  obtain ⟨listing, member, rfl⟩ := listed
  have all : ∀ listing ∈ catalogue,
      (listing.language.bannerLines.all fun line => line.all TemplatePart.isSingleLined) = true ∧
        '\n' ∉ listing.language.entryPoint.toList ∧
        '\n' ∉ listing.language.extension.toList := by decide +kernel
  obtain ⟨literals, entryPoint, extension⟩ := all listing member
  refine List.forall_mem_map.mpr fun line known => Template.not_mem_fill ?_ fun name => ?_
  · exact List.all_eq_true.mp literals line known
  · unfold bannerValue
    split
    · exact List.not_mem_append entryPoint extension
    · exact entryPoint

/-- No line about the exit code has a line feed. -/
theorem Transcript.not_mem_exitTrailer (language : Language) {code : Text} (whole : '\n' ∉ code) :
    ∀ line ∈ exitTrailer language code, '\n' ∉ line := by
  unfold exitTrailer
  split
  · refine List.forall_mem_cons.mpr ⟨List.not_mem_nil, List.forall_mem_singleton.mpr ?_⟩
    exact Template.not_mem_fill (by decide) fun _ => whole
  · exact List.forall_mem_nil _

/-- No entry of a log has a line feed, and the log is what its text is cut into at the line feeds.
-/
structure KeepsLines (log : List Text) : Prop where
  single : ∀ line ∈ log, '\n' ∉ line
  readBack : feedLines (join ['\n'] log) = log

/-- No line of a log has a line feed. -/
theorem Grade.not_mem_log {language : Language} (listed : language.IsListed)
    (expected : Option Text) (source : Text) :
    ∀ line ∈ (ofSource language expected source).log, '\n' ∉ line := by
  have logged {body : List Text} {code : Text} (lines : ∀ line ∈ body, '\n' ∉ line)
      (whole : '\n' ∉ code) :
      ∀ line ∈ language.banner ++ body ++ Transcript.exitTrailer language code, '\n' ∉ line :=
    List.forall_mem_append.mpr ⟨List.forall_mem_append.mpr ⟨listed.not_mem_banner, lines⟩,
      Transcript.not_mem_exitTrailer language whole⟩
  cases printed : language.output source with
  | error error =>
    rw [ofSource, printed]
    refine logged (List.forall_mem_singleton.mpr ?_) (by decide)
    exact Template.not_mem_fill (by decide) fun _ => Language.not_mem_message printed
  | ok output =>
    rw [ofSource, printed]
    refine logged ?_ (by decide)
    split
    · exact List.forall_mem_singleton.mpr (by decide)
    · exact List.forall_mem_singleton.mpr (by decide)
    · exact Language.not_mem_output listed printed

/-- Joined by line feeds and cut again, a log is the log. -/
theorem Grade.keepsLines {language : Language} (listed : language.IsListed)
    (expected : Option Text) (source : Text) :
    KeepsLines (ofSource language expected source).log where
  single := not_mem_log listed expected source
  readBack := feedLines_join (log_ofSource_ne_nil language expected source)
    (not_mem_log listed expected source)

/-! ## Attempts -/

/-- The language of an attempt is listed, and what its latest run yielded keeps its lines. -/
structure Attempt.Lined (a : Attempt) : Prop where
  listed : a.language.IsListed
  graded : ∀ g ∈ a.grade, KeepsLines g.log

namespace Attempt.Lined

variable {a : Attempt}

/-- An attempt without a grade is lined. -/
theorem of_cleared (listed : a.language.IsListed) (cleared : a.grade = none) : a.Lined := by
  refine ⟨listed, ?_⟩
  rw [cleared]
  rintro g ⟨⟩

/-- A run that finishes leaves the attempt lined. -/
theorem finish (lined : a.Lined) : a.finish.Lined := by
  refine ⟨lined.listed, ?_⟩
  rintro g ⟨⟩
  exact Grade.keepsLines lined.listed _ _

/-- A request leaves the attempt lined. -/
theorem change {request : Request} {change : Attempt → Attempt}
    (changes : request.change? = some change) (lined : a.Lined) : (change a).Lined := by
  obtain ⟨source, grade, same, kept⟩ := Request.change?_eq_some changes a
  rw [same]
  rcases kept with rfl | rfl
  · exact ⟨lined.listed, lined.graded⟩
  · exact .of_cleared lined.listed rfl

/-- The log of a lined attempt is empty or keeps its lines. -/
theorem log (lined : a.Lined) : a.log = [] ∨ KeepsLines a.log := by
  cases grade : a.grade with
  | none => exact .inl (by simp [Attempt.log, grade])
  | some g =>
    refine .inr ?_
    have kept := lined.graded g grade
    simpa [Attempt.log, grade] using kept

end Attempt.Lined

def Bench.Lined (b : Bench) : Prop :=
  ∀ (i : Nat) (a : Attempt), b.attempts[i]? = some a → a.Lined

namespace Desk

variable {P : Call → Prop} {d d' : Desk}

/-- A task that begins leaves all attempts lined. -/
theorem lined_begin {reading : Float} {task : Task Action} {rest : Desk}
    (taken : d.takeDue? reading = some (task, rest)) (lined : d.toBench.Lined) :
    ((rest.moveTo task.due).begin task).2.toBench.Lined := by
  have before : (rest.moveTo task.due).toBench.Lined := by
    rw [(moveTo_of_takeDue? taken).2]
    exact lined
  have begun := (rest.moveTo task.due).begins task
  generalize rest.moveTo task.due = d₁ at before begun ⊢
  generalize d₁.begin task = result at begun ⊢
  cases begun with
  | script => exact before
  | stray => exact before
  | run => exact forall_attempts_modify (finish_getElem? _ _ _ _) before fun _ => .finish
  | announcement => exact before

/-- A step leaves all attempts lined. -/
theorem Step.lined (step : d.Step P d') (lined : d.toBench.Lined) : d'.toBench.Lined := by
  cases step with
  | schedule => exact lined
  | turn => exact lined
  | openExercise =>
    exact forall_attempts_openExercise lined (.of_cleared (Language.ofTag_listed _) rfl)
  | @launch target i a aimed found idle =>
    rw [launch_snd d i idle]
    exact forall_attempts_modify (d.modify_getElem? i Attempt.start) lined fun _ kept =>
      .of_cleared kept.listed rfl
  | edit changes => exact forall_attempts_modify (d.modify_getElem? _ _) lined fun _ => .change changes
  | addObserver =>
    exact forall_attempts_modify (d.modify_getElem? _ _) lined fun _ kept =>
      ⟨kept.listed, kept.graded⟩
  | answer => exact lined
  | begin taken => exact lined_begin taken lined
  | tell =>
    rw [(tell_snd _ _ _ _ _).1]
    exact lined
  | doze => exact lined
  | wake => exact lined
  | move => exact lined

/-- A run of steps leaves all attempts lined. -/
theorem Run.lined (run : d.Run P d') (lined : d.toBench.Lined) : d'.toBench.Lined :=
  run.keeps lined fun step => step.lined

/-- **Logs.** Whatever the tag, the source text and the expected output are, the log of a run has no
line feed in any entry, and it can be shown with its entries on lines of their own and read back. In
every history, at every point at which outside code can look, every attempt shows such a log or
none, and when a run has finished it shows the log of that run. -/
theorem logs_keep_lines (depth : Nat) (calls : List Call) (clock : Clock) (sink : Option Conduct)
    (observers : List Conduct) (sleeper : Sleeper) :
    let d := history depth calls (fresh clock sink observers sleeper)
    (∀ tag expected source,
      KeepsLines (Grade.ofSource (Language.ofTag tag) expected source).log) ∧
    (∀ (i : Nat) (a : Attempt), d.attempts[i]? = some a → a.log = [] ∨ KeepsLines a.log) ∧
    Throughout (fun m _ => m.event.IsOutside →
      (∀ (i : Nat) (a : Attempt), m.bench.attempts[i]? = some a → a.log = [] ∨ KeepsLines a.log) ∧
      ∀ i run g, m.event = .finished i run g →
        ∃ a : Attempt, m.bench.attempts[i]? = some a ∧ a.log = g.log ∧ KeepsLines a.log)
      d.journal := by
  have run := history_run_fresh depth calls clock sink observers sleeper
  have initially : (fresh clock sink observers sleeper).toBench.Lined := by
    intro i a found
    cases found
  have faithful := run.faithful (coherent_fresh clock sink observers sleeper)
    (faithful_fresh clock sink observers sleeper)
  refine ⟨fun tag => Grade.keepsLines (Language.ofTag_listed tag),
    fun i a found => (run.lined initially i a found).log, ?_⟩
  refine ((run.boundaries rfl).and faithful.moments).mono fun m earlier ⟨boundary, truthful⟩ outside =>
    ?_
  obtain ⟨d₁, run₁, bench, -⟩ := boundary outside
  have lined : m.bench.Lined := bench ▸ run₁.lined initially
  refine ⟨fun i a found => (lined i a found).log, fun i run g finished => ?_⟩
  simp only [Moment.Truthful, finished] at truthful
  obtain ⟨a₀, a, -, found, -, yielded, -, log, -⟩ := truthful
  refine ⟨a, found, log, (lined i a found).log.resolve_left ?_⟩
  rw [log, yielded]
  exact Grade.log_ofSource_ne_nil _ _ _

end Desk

end DryRun
