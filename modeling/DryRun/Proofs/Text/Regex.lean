import Mathlib.Data.List.TakeWhile
import DryRun.Text.Basic

/-!
# Regular expressions

A regular expression may match at the front of a text in several ways. `Regex.ways` lists them all,
in the order in which a search that goes back when it is stuck comes to them: the first alternative
before the second one, one more repetition before none if the repetition is greedy, and after none
if it is not. The first way is the match (`Regex.first?`). A way knows what it has taken, what is
left, and what the named parts have taken.

An expression without named parts, that does not look at what it leaves, is known by the texts that
it takes (`Regex.Spells`), whatever the order of its ways is: an expression that is put together
from others spells what these spell. The order of the ways of a run of characters is a matter of
`ways_lazy` and `ways_greedy`.
-/

set_option autoImplicit false

namespace DryRun

/-- A regular expression. -/
inductive Regex where
  | empty
  /-- One character of a kind. -/
  | one (kind : Char → Bool)
  | seq (first second : Regex)
  /-- The first one rather than the second one. -/
  | either (first second : Regex)
  /-- Any number of times, as often as possible or as seldom as possible. -/
  | many (greedy : Bool) (body : Regex)
  | named (name : String) (body : Regex)
  /-- Nothing, where another character than the given one or none comes next. -/
  | unless (c : Char)
  /-- Nothing, at the end of the text or before a line feed at its end. -/
  | finish

/-- A way in which an expression matches at the front of a text. -/
structure Way where
  taken : Text
  rest : Text
  /-- What the named parts have taken, in order. -/
  groups : List (String × Text) := []

namespace Way

/-- Nothing has been taken of a text. -/
def start (s : Text) : Way := ⟨[], s, []⟩

/-- One way followed by another one, of what is left. -/
def followedBy (w v : Way) : Way := ⟨w.taken ++ v.taken, v.rest, w.groups ++ v.groups⟩

/-- A way, what it has taken being remembered by a name. -/
def called (name : String) (w : Way) : Way := { w with groups := (name, w.taken) :: w.groups }

/-- What the part of the given name has taken; the last time counts. -/
def group? (name : String) (w : Way) : Option Text := w.groups.reverse.lookup name

end Way

namespace Regex

/-- The ways of taking a text by repeated steps. A step that takes nothing is not repeated. -/
def repeated (step : Text → List Way) (greedy : Bool) (s : Text) : List Way :=
  let more := (step s).flatMap fun w =>
    if _shorter : w.rest.length < s.length then (repeated step greedy w.rest).map w.followedBy
    else []
  if greedy then more ++ [.start s] else .start s :: more
  termination_by s.length

/-- The ways in which an expression matches at the front of a text, in order. -/
def ways : Regex → Text → List Way
  | .empty, s => [.start s]
  | .one _, [] => []
  | .one kind, c :: s => if kind c then [⟨[c], s, []⟩] else []
  | .seq first second, s => (first.ways s).flatMap fun w => (second.ways w.rest).map w.followedBy
  | .either first second, s => first.ways s ++ second.ways s
  | .many greedy body, s => repeated body.ways greedy s
  | .named name body, s => (body.ways s).map (Way.called name)
  | .unless c, s => if s.head? = some c then [] else [.start s]
  | .finish, s => if s = [] ∨ s = ['\n'] then [.start s] else []

/-- The match at the front of a text. -/
def first? (r : Regex) (s : Text) : Option Way := (r.ways s).head?

/-- Expressions in a row. -/
def row : List Regex → Regex
  | [] => .empty
  | [last] => last
  | first :: others => .seq first (row others)

/-- A given text. -/
def text (s : String) : Regex := row (s.toList.map fun c => .one (· == c))

/-- Once or several times, as often as possible or as seldom as possible. -/
def some (greedy : Bool) (body : Regex) : Regex := .seq body (.many greedy body)

/-- Once rather than not at all. -/
def optional (body : Regex) : Regex := .either body .empty

variable {a b r : Regex} {s t : Text} {w : Way} {greedy : Bool}

/-! ## The ways of an expression -/

/-- A match of a sequence is a match of its first part and one of its second part from there. -/
theorem mem_seq :
    w ∈ (seq a b).ways s ↔ ∃ u ∈ a.ways s, ∃ v ∈ b.ways u.rest, u.followedBy v = w := by
  simp only [ways, List.mem_flatMap, List.mem_map]

/-- A look at what comes next takes nothing. -/
theorem mem_unless {c : Char} :
    w ∈ (Regex.unless c).ways s ↔ s.head? ≠ Option.some c ∧ w = .start s := by
  rw [ways]
  split
  case isTrue next => simp [next]
  case isFalse next => simp [next]

/-- A look at the end of the text takes nothing. -/
theorem mem_finish : w ∈ finish.ways s ↔ (s = [] ∨ s = ['\n']) ∧ w = .start s := by
  rw [ways]
  split
  case isTrue ending => simp [ending]
  case isFalse ending => simp [ending]

/-- The ways of a repetition: to stop at once, or to take one step and go on. -/
theorem mem_repeated {step : Text → List Way} :
    w ∈ repeated step greedy s ↔ w = .start s ∨ ∃ u ∈ step s, u.rest.length < s.length ∧
      ∃ v ∈ repeated step greedy u.rest, u.followedBy v = w := by
  have more : (w ∈ (step s).flatMap fun u =>
      if _shorter : u.rest.length < s.length then (repeated step greedy u.rest).map u.followedBy
      else []) ↔ ∃ u ∈ step s, u.rest.length < s.length ∧
        ∃ v ∈ repeated step greedy u.rest, u.followedBy v = w := by
    rw [List.mem_flatMap]
    refine exists_congr fun u => and_congr_right fun _ => ?_
    split
    case isTrue shorter => rw [List.mem_map, and_iff_right shorter]
    case isFalse shorter => simp [shorter]
  rw [repeated]
  split
  · rw [List.mem_append, more, List.mem_singleton, or_comm]
  · rw [List.mem_cons, more]

/-- The match of two expressions in a row is the first way of the second one that there is, in the
order of the ways of the first one. -/
theorem first?_seq : (seq a b).first? s =
    (a.ways s).findSome? fun w => (b.first? w.rest).map w.followedBy := by
  rw [first?, ways, List.head?_flatMap]
  simp only [List.head?_map, first?]

/-- The match is one of the ways. -/
theorem mem_of_first? (found : r.first? s = Option.some w) : w ∈ r.ways s :=
  List.mem_of_head? found

/-- Where all ways of the first expression are the same, the second one decides. -/
theorem first?_seq_of_unique (unique : ∀ v ∈ a.ways s, v = w) (known : w ∈ a.ways s) :
    (seq a b).first? s = (b.first? w.rest).map w.followedBy := by
  rw [first?_seq]
  generalize a.ways s = found at unique known
  cases found with
  | nil => cases known
  | cons v others =>
    rw [unique v List.mem_cons_self, List.findSome?_cons]
    cases result : (b.first? w.rest).map w.followedBy with
    | some _ => rfl
    | none =>
      refine List.findSome?_eq_none_iff.mpr fun u member => ?_
      rw [unique u (List.mem_cons_of_mem _ member), result]

/-! ## What an expression spells -/

/-- An expression matches with every front part of a text that is one of certain texts, and with no
other one. -/
def Spells (r : Regex) (L : Text → Prop) : Prop :=
  ∀ s w, w ∈ r.ways s ↔ w.taken ++ w.rest = s ∧ L w.taken ∧ w.groups = []

/-- Texts one after the other. -/
inductive Repeats (L : Text → Prop) : Text → Prop where
  | none : Repeats L []
  | more {u v} (first : L u) (others : Repeats L v) : Repeats L (u ++ v)

variable {L M : Text → Prop}

namespace Spells

/-- What is spelt can be said in another way. -/
theorem congr (spells : r.Spells L) (same : ∀ t, L t ↔ M t) : r.Spells M := fun s w => by
  rw [spells s w, same]

/-- The empty pattern spells the empty text. -/
theorem empty : Regex.empty.Spells (· = []) := by
  rintro s ⟨taken, rest, groups⟩
  simp only [ways, List.mem_singleton, Way.start, Way.mk.injEq]
  constructor
  · rintro ⟨rfl, rfl, rfl⟩
    exact ⟨rfl, rfl, rfl⟩
  · rintro ⟨rfl, rfl, rfl⟩
    exact ⟨rfl, rfl, rfl⟩

/-- A kind of characters spells the texts of one such character. -/
theorem one (kind : Char → Bool) : (Regex.one kind).Spells fun t => ∃ c, kind c ∧ t = [c] := by
  rintro s ⟨taken, rest, groups⟩
  cases s with
  | nil =>
    simp only [ways, List.not_mem_nil, false_iff]
    rintro ⟨whole, ⟨c, -, rfl⟩, -⟩
    cases whole
  | cons d s =>
    simp only [ways]
    constructor
    · intro member
      split at member
      case isTrue known =>
        obtain ⟨rfl, rfl, rfl⟩ := Way.mk.inj (List.mem_singleton.mp member)
        exact ⟨rfl, ⟨d, known, rfl⟩, rfl⟩
      case isFalse => cases member
    · rintro ⟨whole, ⟨c, known, rfl⟩, rfl⟩
      obtain ⟨rfl, rfl⟩ := List.cons.inj whole
      rw [if_pos known]
      exact List.mem_singleton_self _

/-- A sequence spells a text of its first part followed by one of its second. -/
theorem seq (first : a.Spells L) (second : b.Spells M) :
    (Regex.seq a b).Spells fun t => ∃ u v, t = u ++ v ∧ L u ∧ M v := by
  rintro s w
  rw [mem_seq]
  constructor
  · rintro ⟨u, member, v, after, rfl⟩
    obtain ⟨rfl, left, none⟩ := (first s u).mp member
    obtain ⟨whole, right, nothing⟩ := (second _ v).mp after
    refine ⟨?_, ⟨u.taken, v.taken, rfl, left, right⟩, ?_⟩
    · rw [← whole, Way.followedBy, List.append_assoc]
    · rw [Way.followedBy, none, nothing, List.append_nil]
  · obtain ⟨taken, rest, groups⟩ := w
    rintro ⟨rfl, ⟨u, v, rfl, left, right⟩, rfl⟩
    refine ⟨⟨u, v ++ rest, []⟩, (first _ _).mpr ⟨?_, left, rfl⟩, ⟨v, rest, []⟩,
      (second _ _).mpr ⟨rfl, right, rfl⟩, rfl⟩
    rw [List.append_assoc]

/-- A choice spells the texts of both parts. -/
theorem either (first : a.Spells L) (second : b.Spells M) :
    (Regex.either a b).Spells fun t => L t ∨ M t := by
  intro s w
  rw [ways, List.mem_append, first s w, second s w, ← and_or_left, ← or_and_right]

/-- What may be left out spells its texts and the empty one. -/
theorem optional (spells : r.Spells L) : r.optional.Spells fun t => L t ∨ t = [] :=
  spells.either empty

/-- A repetition spells texts one after the other, if no step takes nothing. -/
theorem many (spells : r.Spells L) (taking : ∀ t, L t → t ≠ []) (greedy : Bool) :
    (Regex.many greedy r).Spells (Repeats L) := by
  rintro s w
  rw [ways]
  constructor
  · intro member
    induction length : s.length using Nat.strong_induction_on generalizing s w with
    | _ n ih =>
      subst length
      rcases mem_repeated.mp member with rfl | ⟨u, step, shorter, v, after, rfl⟩
      · exact ⟨rfl, .none, rfl⟩
      · obtain ⟨rfl, first, none⟩ := (spells s u).mp step
        obtain ⟨whole, others, nothing⟩ := ih _ shorter _ v after rfl
        refine ⟨?_, .more first others, ?_⟩
        · rw [← whole, Way.followedBy, List.append_assoc]
        · rw [Way.followedBy, none, nothing, List.append_nil]
  · obtain ⟨taken, rest, groups⟩ := w
    rintro ⟨rfl, repeats, rfl⟩
    dsimp only at repeats ⊢
    induction repeats with
    | none => exact mem_repeated.mpr (.inl rfl)
    | @more u v first others ih =>
      have some : u ≠ [] := taking u first
      refine mem_repeated.mpr (.inr ⟨⟨u, v ++ rest, []⟩, ?_, ?_, ⟨v, rest, []⟩, ih, rfl⟩)
      · exact (spells _ _).mpr ⟨(List.append_assoc ..).symm, first, rfl⟩
      · have long := List.length_pos_iff.mpr some
        simp only [List.length_append]
        omega

/-- A run of characters of a kind. -/
theorem run (greedy : Bool) (kind : Char → Bool) :
    (Regex.many greedy (.one kind)).Spells fun t => ∀ c ∈ t, kind c = true := by
  refine ((one kind).many (by rintro t ⟨c, -, rfl⟩; simp) greedy).congr fun t => ⟨?_, ?_⟩
  · intro repeats
    induction repeats with
    | none => simp
    | more first _ ih =>
      obtain ⟨c, known, rfl⟩ := first
      exact List.forall_mem_cons.mpr ⟨known, ih⟩
  · intro all
    induction t with
    | nil => exact .none
    | cons c t ih =>
      obtain ⟨first, others⟩ := List.forall_mem_cons.mp all
      exact .more (u := [c]) ⟨c, first, rfl⟩ (ih others)

/-- Several times in a row, at least once. -/
theorem some (spells : r.Spells L) (taking : ∀ t, L t → t ≠ []) (greedy : Bool) :
    (Regex.some greedy r).Spells fun t => t ≠ [] ∧ Repeats L t := by
  refine (spells.seq (spells.many taking greedy)).congr fun t => ⟨?_, ?_⟩
  · rintro ⟨u, v, rfl, first, others⟩
    exact ⟨fun none => taking u first (List.append_eq_nil_iff.mp none).1, .more first others⟩
  · rintro ⟨some, repeats⟩
    cases repeats with
    | none => exact absurd rfl some
    | more first others => exact ⟨_, _, rfl, first, others⟩

/-- A run of at least one character of a kind. -/
theorem someRun (greedy : Bool) (kind : Char → Bool) :
    (Regex.some greedy (.one kind)).Spells fun t => t ≠ [] ∧ ∀ c ∈ t, kind c = true := by
  refine ((one kind).seq (run greedy kind)).congr fun t => ⟨?_, ?_⟩
  · rintro ⟨u, v, rfl, ⟨c, known, rfl⟩, others⟩
    exact ⟨by simp, List.forall_mem_cons.mpr ⟨known, others⟩⟩
  · rintro ⟨some, all⟩
    cases t with
    | nil => exact absurd rfl some
    | cons c t =>
      obtain ⟨first, others⟩ := List.forall_mem_cons.mp all
      exact ⟨[c], t, rfl, ⟨c, first, rfl⟩, others⟩

/-- A text spells itself. -/
theorem text (s : String) : (Regex.text s).Spells (· = s.toList) := by
  unfold Regex.text
  induction s.toList with
  | nil => exact empty
  | cons c s ih =>
    have single : (Regex.one (· == c)).Spells (· = [c]) := (one _).congr fun t => by simp
    cases s with
    | nil => exact single
    | cons d s =>
      refine (single.seq ih).congr fun t => ⟨?_, ?_⟩
      · rintro ⟨u, v, rfl, rfl, rfl⟩
        rfl
      · rintro rfl
        exact ⟨[c], d :: s, rfl, rfl, rfl⟩

end Spells

/-- What an expression takes before, in and behind a named part, where none of the three has named
parts itself. -/
theorem mem_seq_named {N : Text → Prop} {name : String} (front : a.Spells L) (inside : b.Spells M)
    (back : r.Spells N) : w ∈ (seq a (seq (named name b) r)).ways s ↔
      ∃ u v x, s = u ++ v ++ x ++ w.rest ∧ L u ∧ M v ∧ N x ∧
        w = ⟨u ++ v ++ x, w.rest, [(name, v)]⟩ := by
  constructor
  · intro member
    obtain ⟨u, first, _, later, rfl⟩ := mem_seq.mp member
    obtain ⟨_, second, x, third, rfl⟩ := mem_seq.mp later
    obtain ⟨v, taken, rfl⟩ := List.mem_map.mp second
    obtain ⟨wholeU, left, noneU⟩ := (front _ _).mp first
    obtain ⟨wholeV, middle, noneV⟩ := (inside _ _).mp taken
    obtain ⟨wholeX, right, noneX⟩ := (back _ _).mp third
    refine ⟨u.taken, v.taken, x.taken, ?_, left, middle, right, ?_⟩
    · rw [← wholeU, ← wholeV]
      simp only [Way.called] at wholeX
      simp only [Way.followedBy, ← wholeX, List.append_assoc]
    · simp [Way.followedBy, Way.called, noneU, noneV, noneX]
  · obtain ⟨taken, rest, groups⟩ := w
    rintro ⟨u, v, x, rfl, left, middle, right, same⟩
    obtain ⟨rfl, -, rfl⟩ := Way.mk.inj same
    refine mem_seq.mpr ⟨⟨u, v ++ x ++ rest, []⟩, (front _ _).mpr ⟨by simp, left, rfl⟩,
      ⟨v ++ x, rest, [(name, v)]⟩, ?_, by simp [Way.followedBy]⟩
    refine mem_seq.mpr ⟨⟨v, x ++ rest, [(name, v)]⟩, List.mem_map.mpr ⟨⟨v, x ++ rest, []⟩, ?_, rfl⟩,
      ⟨x, rest, []⟩, (back _ _).mpr ⟨rfl, right, rfl⟩, rfl⟩
    exact (inside _ _).mpr ⟨by simp, middle, rfl⟩

/-! ## The order of the ways -/

variable {α : Type} {kind : Char → Bool} {f : Way → Option α} {x : α}

/-- The ways of a lazy run of characters: to stop at once, then to take one and go on. -/
theorem ways_lazy (c : Char) (s : Text) : (many false (.one kind)).ways (c :: s) =
    .start (c :: s) :: if kind c then
      ((many false (.one kind)).ways s).map (Way.followedBy ⟨[c], s, []⟩) else [] := by
  rw [ways, repeated, if_neg (by simp)]
  simp only [ways]
  split
  · simp
  · rfl

/-- The ways of a greedy run of characters: to take one and go on, then to stop at once. -/
theorem ways_greedy (c : Char) (s : Text) : (many true (.one kind)).ways (c :: s) =
    (if kind c then ((many true (.one kind)).ways s).map (Way.followedBy ⟨[c], s, []⟩) else []) ++
      [.start (c :: s)] := by
  rw [ways, repeated, if_pos rfl]
  simp only [ways]
  split
  · simp
  · rfl

/-- A lazy run of characters takes the shortest text that the rest of the search succeeds with. -/
theorem findSome?_lazy (all : ∀ c ∈ s, kind c = true)
    (shortest : ∀ u v, u ++ v = s ++ t → u.length < s.length → f ⟨u, v, []⟩ = none)
    (found : f ⟨s, t, []⟩ = Option.some x) :
    ((many false (.one kind)).ways (s ++ t)).findSome? f = Option.some x := by
  induction s generalizing f with
  | nil =>
    cases t with
    | nil => simpa [ways, repeated, Way.start] using found
    | cons c t =>
      rw [List.nil_append, ways_lazy, List.findSome?_cons, Way.start, found]
  | cons c s ih =>
    obtain ⟨known, others⟩ := List.forall_mem_cons.mp all
    have now : f (.start (c :: (s ++ t))) = none :=
      shortest [] (c :: (s ++ t)) rfl (by simp)
    rw [List.cons_append, ways_lazy, List.findSome?_cons, now, if_pos known, List.findSome?_map]
    refine ih others (fun u v whole shorter => ?_) found
    exact shortest (c :: u) v (congrArg (c :: ·) whole) (Nat.succ_lt_succ shorter)

/-- A greedy run of characters takes all there are, if the rest of the search succeeds then. -/
theorem findSome?_greedy (found : f ⟨s.takeWhile kind, s.dropWhile kind, []⟩ = Option.some x) :
    ((many true (.one kind)).ways s).findSome? f = Option.some x := by
  induction s generalizing f with
  | nil => simpa [ways, repeated, Way.start] using found
  | cons c s ih =>
    rw [ways_greedy, List.findSome?_append]
    split
    case isTrue known =>
      rw [List.takeWhile_cons_of_pos known, List.dropWhile_cons_of_pos known] at found
      rw [List.findSome?_map, ih (f := f ∘ Way.followedBy ⟨[c], s, []⟩) found]
      rfl
    case isFalse other =>
      rw [List.takeWhile_cons_of_neg other, List.dropWhile_cons_of_neg other] at found
      simpa [Way.start] using found

end Regex

end DryRun
