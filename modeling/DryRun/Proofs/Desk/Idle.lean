import DryRun.Proofs.Desk.Ending

/-!
# Outside code that asks for nothing

Outside code may do no more than look at the desk, fail, or make such calls under a shield
(`Call.Idle`). Observers of that kind are told about a run one after the other, and nothing else
happens: the bench stays as it was, and what has been delivered on behalf of an attempt has grown
by the reports of the run (`exists_deliver`).

`deliveries` reads off the journal what has been delivered on behalf of an attempt, and at which
reading of the clock. Observers are named by their place among those of the attempt.
-/

set_option autoImplicit false

namespace DryRun

/-- A call that asks nothing of the desk, though it may fail. -/
inductive Call.Idle : Call → Prop where
  | look : Idle .look
  | fail (message : Text) : Idle (.fail message)
  | shielded {body : List Call} (inner : ∀ c ∈ body, Idle c) : Idle (.shielded body)

/-- A call that asks nothing of the desk and does not fail. -/
inductive Call.Tame : Call → Prop where
  | look : Tame .look
  | shielded {body : List Call} (inner : ∀ c ∈ body, c.Idle) : Tame (.shielded body)

def Conduct.Idle (conduct : Conduct) : Prop := ∀ k, ∀ c ∈ conduct k, c.Idle

def Conduct.Tame (conduct : Conduct) : Prop := ∀ k, ∀ c ∈ conduct k, c.Tame

/-- Something that outside code is told on behalf of an attempt, and when. -/
inductive Delivery where
  | report (place : Nat) (report : Report) (reading : Float)
  | completion (exercise : Exercise) (reading : Float)

/-- What is delivered on behalf of an attempt at a moment. -/
def Moment.delivery? (n : Nat) (m : Moment) : Option Delivery :=
  match m.event with
  | .reported i _ observer report =>
    if i = n then m.bench.attempts[n]?.map fun a =>
      .report (a.observers.idxOf observer) report m.bench.agenda.now
    else none
  | .announced i exercise => if i = n then some (.completion exercise m.bench.agenda.now) else none
  | _ => none

/-- What has been delivered on behalf of an attempt, the latest first. -/
def deliveries (n : Nat) (journal : List Moment) : List Delivery :=
  journal.filterMap (Moment.delivery? n)

namespace Desk

variable {d d' d₁ : Desk} {told told' : Nat → List Delivery}

/-- A silent event delivers nothing. -/
theorem deliveries_note (n : Nat) (d : Desk) {event : Event}
    (silent : (⟨event, d.toBench⟩ : Moment).delivery? n = none) :
    deliveries n (d.note event).journal = deliveries n d.journal :=
  List.filterMap_cons_none silent

/-- Nothing has happened since but that something was delivered, for each attempt on its behalf. -/
structure OnlyDelivers (d : Desk) (told : Nat → List Delivery) (d' : Desk) : Prop where
  bench : d'.toBench = d.toBench
  shared : d'.shared = d.shared
  sink : d'.sink.map Observer.conduct = d.sink.map Observer.conduct
  observers : d'.observers.map Observer.conduct = d.observers.map Observer.conduct
  deliveries : ∀ n, DryRun.deliveries n d'.journal = told n ++ DryRun.deliveries n d.journal

/-- Nothing has happened since. -/
abbrev Rests (d : Desk) : Desk → Prop := d.OnlyDelivers fun _ => []

/-- A desk rests while nothing happens. -/
theorem Rests.refl (d : Desk) : d.Rests d :=
  ⟨rfl, rfl, rfl, rfl, fun _ => rfl⟩

/-- What two stretches deliver is delivered one after the other. -/
theorem OnlyDelivers.trans (first : d.OnlyDelivers told d₁) (second : d₁.OnlyDelivers told' d') :
    d.OnlyDelivers (fun n => told' n ++ told n) d' where
  bench := second.bench.trans first.bench
  shared := second.shared.trans first.shared
  sink := second.sink.trans first.sink
  observers := second.observers.trans first.observers
  deliveries n := by rw [second.deliveries, first.deliveries, List.append_assoc]

/-- A rest before deliveries changes nothing about them. -/
theorem Rests.trans (first : d.Rests d₁) (second : d₁.OnlyDelivers told d') :
    d.OnlyDelivers told d' := by
  simpa using OnlyDelivers.trans first second

/-- A rest after deliveries changes nothing about them. -/
theorem OnlyDelivers.rest (first : d.OnlyDelivers told d₁) (second : d₁.Rests d') :
    d.OnlyDelivers told d' := by
  simpa using first.trans second

/-- A desk rests while a silent event is written down. -/
theorem rests_note (d : Desk) {event : Event}
    (silent : ∀ n, (⟨event, d.toBench⟩ : Moment).delivery? n = none) : d.Rests (d.note event) :=
  ⟨rfl, rfl, rfl, rfl, fun n => d.deliveries_note n (silent n)⟩

/-- The conduct of everyone who is told about runs stays the same. -/
theorem OnlyDelivers.idle (delivers : d.OnlyDelivers told d')
    (idle : ∀ o ∈ d.observers, o.conduct.Idle) : ∀ o ∈ d'.observers, o.conduct.Idle := by
  intro o member
  have kept : o.conduct ∈ d.observers.map Observer.conduct := by
    rw [← delivers.observers]
    exact Array.mem_map_of_mem member
  obtain ⟨o', member', same⟩ := Array.mem_map.mp kept
  exact same ▸ idle o' member'

/-! ## Idle calls -/

/-- Calls that are made in turn end and leave nothing behind, if each of them does. -/
theorem exists_script {calls : List Call}
    (ends : ∀ c ∈ calls, ∀ d : Desk, ∃ outcome d', d.Does (.call c) outcome d' ∧ d.Rests d')
    (d : Desk) : ∃ outcome d', d.Does (.script calls) outcome d' ∧ d.Rests d' := by
  induction calls generalizing d with
  | nil => exact ⟨_, _, d.does_script_nil, .refl d⟩
  | cons c rest ih =>
    obtain ⟨outcome, d₁, first, rests⟩ := ends c List.mem_cons_self d
    cases outcome with
    | returned reply =>
      have noted : d₁.Rests (d₁.note (.answered c reply)) := d₁.rests_note fun _ => rfl
      obtain ⟨outcome, d', others, rests'⟩ := ih (fun c' member => ends c' (.tail c member))
        (d₁.note (.answered c reply))
      exact ⟨outcome, d', first.script_cons others, (rests.rest noted).trans rests'⟩
    | failed failure => exact ⟨_, d₁, first.script_failed, rests⟩
    | unfinished => exact absurd rfl first.1

/-- An idle call comes to an end, and the desk rests. -/
theorem exists_idle {c : Call} (idle : c.Idle) (d : Desk) :
    ∃ outcome d', d.Does (.call c) outcome d' ∧ d.Rests d' := by
  induction idle generalizing d with
  | look => exact ⟨_, d, .of_answer (by simp) (.of_forall fun _ => rfl), .refl d⟩
  | fail message => exact ⟨_, d, .of_answer (by simp) (.of_forall fun _ => rfl), .refl d⟩
  | shielded _ ih =>
    obtain ⟨outcome, d', inner, rests⟩ := exists_script ih d
    exact ⟨_, d', inner.shielded, rests⟩

/-- Tame calls return, and the desk rests. -/
theorem exists_tame {calls : List Call} (tame : ∀ c ∈ calls, c.Tame) (d : Desk) :
    ∃ d', d.Does (.script calls) (.returned ()) d' ∧ d.Rests d' := by
  induction calls generalizing d with
  | nil => exact ⟨_, d.does_script_nil, .refl d⟩
  | cons c rest ih =>
    have first : ∃ d₁, d.Does (.call c) (.returned .nothing) d₁ ∧ d.Rests d₁ := by
      cases tame c List.mem_cons_self with
      | look => exact ⟨d, .of_answer (by simp) (.of_forall fun _ => rfl), .refl d⟩
      | shielded inner =>
        obtain ⟨outcome, d₁, body, rests⟩ :=
          exists_script (fun c' member => exists_idle (inner c' member)) d
        exact ⟨d₁, body.shielded, rests⟩
    obtain ⟨d₁, first, rests⟩ := first
    have noted : d₁.Rests (d₁.note (.answered c .nothing)) := d₁.rests_note fun _ => rfl
    obtain ⟨d', others, rests'⟩ := ih (fun c' member => tame c' (.tail c member))
      (d₁.note (.answered c .nothing))
    exact ⟨d', first.script_cons others, (rests.rest noted).trans rests'⟩

/-! ## Idle observers -/

/-- Counting the calls of an observer leaves the conduct of all. -/
theorem conduct_modify (observers : Array Observer) (k : Nat) :
    (observers.modify k fun o => { o with calls := o.calls + 1 }).map Observer.conduct =
      observers.map Observer.conduct := by
  ext j inside inside'
  · simp
  · simp only [Array.getElem_map, Array.getElem_modify]
    split <;> rfl

/-- An observer is told about a run. -/
theorem onlyDelivers_tell {i place observer : Nat} {a : Attempt} (known : d.attempts[i]? = some a)
    (apart : a.observers.Nodup) (listens : a.observers[place]? = some observer) (run : Nat)
    (report : Report) :
    d.OnlyDelivers (fun n => if n = i then [.report place report d.agenda.now] else [])
      (d.tell i run observer report).2 := by
  obtain ⟨bench, entry⟩ := d.tell_snd i run observer report
  have parties : (d.tell i run observer report).2.shared = d.shared ∧
      (d.tell i run observer report).2.observers.map Observer.conduct =
        d.observers.map Observer.conduct := by
    simp only [tell]
    split
    · exact ⟨rfl, rfl⟩
    · exact ⟨rfl, conduct_modify _ _⟩
  refine ⟨bench, parties.1, by rw [tell_sink], parties.2, fun n => ?_⟩
  obtain ⟨inside, rfl⟩ := List.getElem?_eq_some_iff.mp listens
  rw [entry, DryRun.deliveries, List.filterMap_cons]
  by_cases own : n = i
  · subst own
    simp only [Moment.delivery?, if_true, known, Option.map_some, apart.idxOf_getElem]
    rfl
  · simp only [Moment.delivery?, if_neg (Ne.symm own), if_neg own]
    rfl

/-- An idle observer makes idle calls about a report. -/
theorem idle_tell (idle : ∀ o ∈ d.observers, o.conduct.Idle) (i run observer : Nat)
    (report : Report) : ∀ c ∈ (d.tell i run observer report).1, c.Idle := by
  simp only [tell]
  split
  case h_1 => simp
  case h_2 o held => exact idle o (Array.mem_of_getElem? held) o.calls

/-- Observers that ask for nothing are told about a run one after the other. -/
theorem exists_deliver (idle : ∀ o ∈ d.observers, o.conduct.Idle) {i : Nat} {a : Attempt}
    (known : d.attempts[i]? = some a) (apart : a.observers.Nodup) (run : Nat) (report : Report)
    (place : Nat) :
    ∃ d', d.Does (.deliver i run report place) (.returned ()) d' ∧
      d.OnlyDelivers (fun n => if n = i then
        ((List.range' place (a.observers.length - place)).map fun place =>
          .report place report d.agenda.now).reverse else []) d' := by
  -- By induction on the number of observers that are still to be told.
  generalize left : a.observers.length - place = count
  induction count generalizing place d with
  | zero =>
    refine ⟨d, does_deliver_stop ?_, by simpa using Rests.refl d⟩
    rw [listener?, known]
    exact List.getElem?_eq_none (by omega)
  | succ count ih =>
    have inside : place < a.observers.length := by omega
    have listens : d.listener? i place = some a.observers[place] := by
      rw [listener?, known]
      exact List.getElem?_eq_getElem inside
    have told := onlyDelivers_tell known apart (List.getElem?_eq_getElem inside) run report
    obtain ⟨answer, d₁, answers, rests⟩ := exists_script
      (fun c member => exists_idle (idle_tell idle i run a.observers[place] report c member))
      (d.tell i run a.observers[place] report).2
    have first := told.rest rests
    have known' : d₁.attempts[i]? = some a := by
      rw [first.bench]
      exact known
    have behind : a.observers.length - (place + 1) = count := by omega
    obtain ⟨d', others, rest⟩ := ih (first.idle idle) known' (place + 1) behind
    refine ⟨d', .deliver listens answers others, ?_⟩
    have both := first.trans rest
    rw [first.bench] at both
    refine ⟨both.bench, both.shared, both.sink, both.observers, fun n => ?_⟩
    rw [both.deliveries, List.range'_succ, List.map_cons, List.reverse_cons]
    split <;> rfl

end Desk

end DryRun
