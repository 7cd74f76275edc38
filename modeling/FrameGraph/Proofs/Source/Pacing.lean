import FrameGraph.Proofs.Source.Steps
import Mathlib.Algebra.GroupWithZero.Nat

/-!
# Numbers, stamps and counters of a source

One thread emits frames, one after the other. Between any two of its steps others change the
consumer and the rate or have the last emission forgotten, and time passes. Along all such runs the
numbers of the frames have no gap, their stamps never go back, frames keep the interval, and each
emission is counted as what it came to.
-/

namespace FrameGraph.SourceEngine

/-! ### Runs -/

/-- An engine with what its thread is about to do, and the time. -/
structure Emitter where
  engine : SourceEngine
  task : Option Task := none
  clock : Nat

/-- What is noted of a run. -/
inductive Event
  | begun
  | unheard
  | early
  /-- A frame was stamped; `kept` is the interval that its check found, if it found an emission
  to keep away from. -/
  | admitted (b : FrameBuffer) (kept : Option Nat)
  | delivered (b : FrameBuffer)
  | aborted
  /-- The last emission was forgotten. -/
  | reset
  deriving DecidableEq

def Progress.task? : Progress → Option Task
  | .goesOn t => some t
  | .ended _ => none

/-- What is noted of a step. -/
def Task.events (e : SourceEngine) : Task → List Event
  | looks _ => if e.consumer.isNone then [.unheard] else []
  | refuses => [.early]
  | notes _ b kept => [.admitted b kept]
  | counts b => [.delivered b]
  | fails _ => [.aborted]
  | _ => []

/-- One step of the thread or of others. The clock never goes back, and stays below its limit. -/
inductive Emitter.Step : Emitter → List Event → Emitter → Prop
  | emits {e now} (b : FrameBuffer) : Step ⟨e, none, now⟩ [.begun] ⟨e, some (.looks b), now⟩
  | acts {e t now} (answer : Checked Unit) : Step ⟨e, some t, now⟩ (t.events e)
    ⟨(t.step answer now e).2, (t.step answer now e).1.task?, now⟩
  | setRate {e task now} (fps : Float) : Step ⟨e, task, now⟩ [] ⟨(e.setRate fps).2, task, now⟩
  | setConsumer {e task now} (consumer : Option Consumer) :
    Step ⟨e, task, now⟩ [] ⟨{ e with consumer }, task, now⟩
  | resets {e task now} : Step ⟨e, task, now⟩ [.reset] ⟨e.resetAdmission, task, now⟩
  | passes {e task now} (later : Nat) (h : now ≤ later) (hlimit : later < timeLimit) :
    Step ⟨e, task, now⟩ [] ⟨e, task, later⟩

/-- The runs of an engine. -/
inductive Run (e : SourceEngine) : Emitter → List Event → Prop
  | new {now} (hnow : now < timeLimit) : Run e ⟨e, none, now⟩ []
  | step {x y log events} (h : Run e x log) (hxy : x.Step events y) : Run e y (log ++ events)

/-! ### What the log tells -/

namespace Event

/-- The frame that was stamped. -/
@[simp]
def admission? : Event → Option FrameBuffer
  | admitted b _ => some b
  | _ => none

/-- The frame that the consumer took. -/
@[simp]
def delivery? : Event → Option FrameBuffer
  | delivered b => some b
  | _ => none

/-- The time of the last emission, unless it was forgotten since. -/
def latest (last : Option Nat) : Event → Option Nat
  | admitted b _ => some b.info.timestamp
  | reset => none
  | _ => last

/-- Nothing was stamped or forgotten. -/
def Quiet (event : Event) : Prop := event.admission? = none ∧ event ≠ reset

end Event

def admissions (log : List Event) : List FrameBuffer := log.filterMap Event.admission?

def deliveries (log : List Event) : List FrameBuffer := log.filterMap Event.delivery?

def numbers (log : List Event) : List Nat := (admissions log).map (·.info.sequence)

def stamps (log : List Event) : List Nat := (admissions log).map (·.info.timestamp)

def bytes (log : List Event) : Nat := ((deliveries log).map (·.size)).sum

/-- The time of the last emission in a log, unless it was forgotten since. -/
def latest (log : List Event) : Option Nat := log.foldl Event.latest none

/-- If there was an emission to keep away from, the interval was kept. -/
def Keeps (last kept : Option Nat) (now : Nat) : Prop :=
  ∀ s, last = some s → ∃ interval, kept = some interval ∧ s + interval ≤ now

/-- Each frame of a log keeps the interval since the one before. -/
def Paced (log : List Event) : Prop :=
  ∀ before b kept after, log = before ++ .admitted b kept :: after →
    Keeps (latest before) kept b.info.timestamp

variable {e e' e₀ : SourceEngine} {x y : Emitter} {t : Task} {task task' : Option Task}
  {log log' events : List Event} {event : Event} {b : FrameBuffer} {kept last : Option Nat}
  {now later sequence : Nat}

section Log

@[simp] lemma admissions_append :
    admissions (log ++ events) = admissions log ++ admissions events := List.filterMap_append

@[simp] lemma admissions_singleton : admissions [event] = event.admission?.toList := by
  cases event <;> rfl

@[simp] lemma deliveries_append :
    deliveries (log ++ events) = deliveries log ++ deliveries events := List.filterMap_append

@[simp] lemma deliveries_singleton : deliveries [event] = event.delivery?.toList := by
  cases event <;> rfl

@[simp] lemma numbers_append : numbers (log ++ events) = numbers log ++ numbers events := by
  simp [numbers]

@[simp] lemma stamps_append : stamps (log ++ events) = stamps log ++ stamps events := by
  simp [stamps]

@[simp] lemma bytes_append : bytes (log ++ events) = bytes log + bytes events := by
  simp [bytes]

lemma latest_append : latest (log ++ events) = events.foldl Event.latest (latest log) :=
  List.foldl_append

@[simp] lemma latest_concat : latest (log ++ [event]) = event.latest (latest log) := by
  simp [latest_append]

lemma Event.Quiet.latest (h : event.Quiet) : event.latest last = last := by
  cases event with
  | admitted b kept => simp [Quiet] at h
  | reset => simp [Quiet] at h
  | _ => rfl

lemma admissions_of_quiet (h : ∀ event ∈ events, event.Quiet) : admissions events = [] :=
  List.filterMap_eq_nil_iff.2 fun event hevent => (h event hevent).1

lemma numbers_of_quiet (h : ∀ event ∈ events, event.Quiet) :
    numbers (log ++ events) = numbers log := by
  rw [numbers, admissions_append, admissions_of_quiet h, List.append_nil, numbers]

lemma stamps_of_quiet (h : ∀ event ∈ events, event.Quiet) :
    stamps (log ++ events) = stamps log := by
  rw [stamps, admissions_append, admissions_of_quiet h, List.append_nil, stamps]

lemma latest_of_quiet (h : ∀ event ∈ events, event.Quiet) :
    latest (log ++ events) = latest log := by
  rw [latest_append]
  induction events with
  | nil => rfl
  | cons event events ih =>
    rw [List.forall_mem_cons] at h
    rw [List.foldl_cons, h.1.latest, ih h.2]

/-- An emission is the latest one as long as nothing is stamped or forgotten. -/
lemma latest_admitted (h : ∀ event ∈ events, event.Quiet) :
    latest (log ++ .admitted b kept :: events) = some b.info.timestamp := by
  rw [List.append_cons, latest_of_quiet h, latest_concat, Event.latest]

lemma Keeps.none : Keeps .none kept now := fun _ h => nomatch h

lemma Keeps.mono (h : Keeps last kept now) (hnow : now ≤ later) : Keeps last kept later := by
  intro s hs
  obtain ⟨interval, hkept, hinterval⟩ := h s hs
  exact ⟨interval, hkept, Nat.le_trans hinterval hnow⟩

lemma Paced.nil : Paced [] := by
  intro before b kept after heq
  simp at heq

lemma Paced.concat (h : Paced log)
    (hevent : ∀ b kept, event = .admitted b kept → Keeps (latest log) kept b.info.timestamp) :
    Paced (log ++ [event]) := by
  intro before b kept after heq
  rcases List.eq_nil_or_concat after with rfl | ⟨rest, last, rfl⟩
  · obtain ⟨rfl, hlast⟩ := List.append_inj' heq rfl
    exact hevent b kept (by simpa using hlast)
  · rw [List.concat_eq_append, ← List.cons_append, ← List.append_assoc] at heq
    exact h before b kept rest (List.append_inj' heq rfl).1

lemma Paced.quiet (h : Paced log) (hquiet : ∀ event ∈ events, event.Quiet) :
    Paced (log ++ events) := by
  induction events generalizing log with
  | nil => simpa using h
  | cons event events ih =>
    rw [List.forall_mem_cons] at hquiet
    rw [List.append_cons]
    refine ih (h.concat ?_) hquiet.2
    rintro b kept rfl
    simp [Event.Quiet] at hquiet

end Log

/-! ### Numbers and stamps -/

namespace Task

/-- A number was drawn that is not in the log yet. -/
def drawn : Option Task → Nat
  | some (notes ..) => 1
  | _ => 0

/-- What a thread holds agrees with the log. -/
def Fits (sequence now : Nat) (log : List Event) : Task → Prop
  | paces _ _ last | checks _ _ last _ => ∀ s, latest log = some s → s = last
  | stamps _ _ kept => Keeps (latest log) kept now
  | numbers _ _ kept stamp =>
    Keeps (latest log) kept stamp ∧ (∀ s ∈ SourceEngine.stamps log, s ≤ stamp) ∧ stamp ≤ now
  | notes _ b kept =>
    Keeps (latest log) kept b.info.timestamp
      ∧ (∀ s ∈ SourceEngine.stamps log, s ≤ b.info.timestamp) ∧ b.info.timestamp ≤ now
      ∧ b.info.sequence = sequence
  | _ => True

/-- Time passes. -/
lemma Fits.mono (h : t.Fits sequence now log) (hnow : now ≤ later) : t.Fits sequence later log := by
  cases t with
  | stamps c b kept => exact Keeps.mono h hnow
  | numbers c b kept stamp => exact ⟨h.1, h.2.1, Nat.le_trans h.2.2 hnow⟩
  | notes c b kept => exact ⟨h.1, h.2.1, Nat.le_trans h.2.2.1 hnow, h.2.2.2⟩
  | _ => exact h

/-- What a thread holds depends on what was stamped and on the latest emission. -/
lemma fits_congr (hlatest : latest log' = latest log)
    (hstamps : SourceEngine.stamps log' = SourceEngine.stamps log) :
    t.Fits sequence now log' ↔ t.Fits sequence now log := by
  cases t <;> simp only [Fits, hlatest, hstamps]

/-- After the last emission was forgotten there is nothing to keep away from. -/
lemma Fits.reset (h : t.Fits sequence now log) : t.Fits sequence now (log ++ [.reset]) := by
  have hlatest : latest (log ++ [.reset]) = none := latest_concat
  have hstamps : SourceEngine.stamps (log ++ [.reset]) = SourceEngine.stamps log := by
    simp [SourceEngine.stamps]
  cases t with
  | paces c b last | checks c b last interval => simp [Fits, hlatest]
  | stamps c b kept => simpa only [Fits, hlatest] using Keeps.none
  | numbers c b kept stamp =>
    simpa only [Fits, hlatest, hstamps] using ⟨Keeps.none, h.2⟩
  | notes c b kept =>
    simpa only [Fits, hlatest, hstamps] using ⟨Keeps.none, h.2⟩
  | _ => trivial

end Task

/-- The numbers have no gap, the stamps do not go back, and the frames keep their distance. -/
structure Stamped (e₀ : SourceEngine) (x : Emitter) (log : List Event) : Prop where
  time : x.clock < timeLimit
  sequence : x.engine.sequence = e₀.sequence + (numbers log).length + Task.drawn x.task
  numbers : numbers log = List.range' (e₀.sequence + 1) (numbers log).length
  stamps : (stamps log).Pairwise (· ≤ ·)
  past : ∀ s ∈ SourceEngine.stamps log, s ≤ x.clock
  latest : ∀ s, latest log = some s → x.engine.lastEmit = some s
  paced : Paced log
  fits : ∀ t ∈ x.task, t.Fits x.engine.sequence x.clock log

namespace Stamped

lemma new (hnow : now < timeLimit) : Stamped e ⟨e, none, now⟩ [] where
  time := hnow
  sequence := rfl
  numbers := rfl
  stamps := List.Pairwise.nil
  past := by simp [SourceEngine.stamps, admissions]
  latest := by simp [SourceEngine.latest]
  paced := .nil
  fits := by simp

/-- Neither the number nor the last emission changes, and nothing is stamped or forgotten. -/
lemma quiet (h : Stamped e₀ ⟨e, task, now⟩ log) (hevents : ∀ event ∈ events, event.Quiet)
    (hsequence : e'.sequence = e.sequence) (hlast : e'.lastEmit = e.lastEmit)
    (hdrawn : Task.drawn task' = Task.drawn task)
    (hfits : ∀ t ∈ task', t.Fits e.sequence now log) :
    Stamped e₀ ⟨e', task', now⟩ (log ++ events) := by
  have hnumbers : SourceEngine.numbers (log ++ events) = SourceEngine.numbers log :=
    numbers_of_quiet hevents
  have hstamps : SourceEngine.stamps (log ++ events) = SourceEngine.stamps log :=
    stamps_of_quiet hevents
  have hlatest : SourceEngine.latest (log ++ events) = SourceEngine.latest log :=
    latest_of_quiet hevents
  constructor
  · exact h.time
  · rw [hnumbers, hdrawn, hsequence]
    exact h.sequence
  · rw [hnumbers]
    exact h.numbers
  · rw [hstamps]
    exact h.stamps
  · rw [hstamps]
    exact h.past
  · rw [hlatest, hlast]
    exact h.latest
  · exact h.paced.quiet hevents
  · intro t ht
    rw [hsequence]
    exact (Task.fits_congr hlatest hstamps).2 (hfits t ht)

/-- A number is drawn. -/
lemma draws {c : Consumer} {stamp : Nat}
    (h : Stamped e₀ ⟨e, some (.numbers c b kept stamp), now⟩ log) :
    Stamped e₀ ⟨{ e with sequence := e.sequence + 1 },
      some (.notes c (b.stamp stamp (e.sequence + 1)) kept), now⟩ (log ++ []) := by
  rw [List.append_nil]
  constructor
  · exact h.time
  · exact congrArg (· + 1) h.sequence
  · exact h.numbers
  · exact h.stamps
  · exact h.past
  · exact h.latest
  · exact h.paced
  · obtain ⟨hkeeps, hpast, hstamp⟩ := h.fits _ rfl
    rintro _ ⟨rfl⟩
    exact ⟨hkeeps, hpast, hstamp, rfl⟩

/-- The time of an emission is noted. -/
lemma notes {c : Consumer} (h : Stamped e₀ ⟨e, some (.notes c b kept), now⟩ log) :
    Stamped e₀ ⟨{ e with lastEmit := some b.info.timestamp }, some (.hands c b), now⟩
      (log ++ [.admitted b kept]) := by
  obtain ⟨hkeeps, hpast, hstamp, hnumber⟩ := h.fits _ rfl
  have hsequence : b.info.sequence = e₀.sequence + 1 + (SourceEngine.numbers log).length := by
    rw [hnumber, h.sequence, Task.drawn, Nat.add_right_comm]
  have hnumbers : SourceEngine.numbers (log ++ [.admitted b kept])
      = SourceEngine.numbers log ++ [b.info.sequence] := numbers_append
  have hstamps : SourceEngine.stamps (log ++ [.admitted b kept])
      = SourceEngine.stamps log ++ [b.info.timestamp] := stamps_append
  constructor
  · exact h.time
  · rw [hnumbers, List.length_append]
    exact h.sequence
  · rw [hnumbers, List.length_append, List.length_singleton, List.range'_1_concat, hsequence,
      ← h.numbers]
  · rw [hstamps, List.pairwise_append]
    exact ⟨h.stamps, List.pairwise_singleton _ _, by simpa using hpast⟩
  · rw [hstamps]
    intro s hs
    rcases List.mem_append.1 hs with hs | hs
    · exact h.past s hs
    · rw [List.mem_singleton.1 hs]
      exact hstamp
  · simp [Event.latest]
  · refine h.paced.concat ?_
    rintro _ _ ⟨rfl, rfl⟩
    exact hkeeps
  · rintro _ ⟨rfl⟩
    trivial

/-- A step of the thread. -/
lemma acts (h : Stamped e₀ ⟨e, some t, now⟩ log) (answer : Checked Unit) :
    Stamped e₀ ⟨(t.step answer now e).2, (t.step answer now e).1.task?, now⟩
      (log ++ t.events e) := by
  have ht := h.fits t rfl
  cases t with
  | looks b =>
    cases hc : e.consumer with
    | none =>
      simp only [Task.step, Task.events, hc]
      exact h.quiet (by simp [Event.Quiet]) rfl rfl rfl (by simp [Progress.task?])
    | some c =>
      simp only [Task.step, Task.events, hc]
      exact h.quiet (by simp) rfl rfl rfl (by simp [Progress.task?, Task.Fits])
  | recalls c b =>
    cases hlast : e.lastEmit with
    | none =>
      simp only [Task.step, Task.events, hlast]
      refine h.quiet (by simp) rfl rfl rfl ?_
      rintro _ ⟨rfl⟩ s hs
      cases hlast.symm.trans (h.latest s hs)
    | some last =>
      simp only [Task.step, Task.events, hlast]
      refine h.quiet (by simp) rfl rfl rfl ?_
      rintro _ ⟨rfl⟩ s hs
      cases hlast.symm.trans (h.latest s hs)
      rfl
  | paces c b last =>
    refine h.quiet (by simp [Task.events]) rfl rfl rfl ?_
    rintro _ ⟨rfl⟩
    exact ht
  | checks c b last interval =>
    by_cases hdue : min (last + interval) timeLimit ≤ now
    · simp only [Task.step, Task.events, if_pos hdue]
      refine h.quiet (by simp) rfl rfl rfl ?_
      rintro _ ⟨rfl⟩ s hs
      obtain rfl := ht s hs
      -- the clock is below its limit, so the sum was not cut off
      have htime : now < timeLimit := h.time
      exact ⟨interval, rfl, by omega⟩
    · simp only [Task.step, Task.events, if_neg hdue]
      exact h.quiet (by simp) rfl rfl rfl (by simp [Progress.task?, Task.Fits])
  | refuses =>
    exact h.quiet (by simp [Task.events, Event.Quiet]) rfl rfl rfl
      (by simp [Task.step, Progress.task?])
  | stamps c b kept =>
    refine h.quiet (by simp [Task.events]) rfl rfl rfl ?_
    rintro _ ⟨rfl⟩
    exact ⟨ht, h.past, Nat.le_refl now⟩
  | numbers c b kept stamp => exact h.draws
  | notes c b kept => exact h.notes
  | hands c b =>
    cases answer with
    | ok _ =>
      exact h.quiet (by simp [Task.events]) rfl rfl rfl
        (by simp [Task.step, Progress.task?, Task.Fits])
    | error p =>
      exact h.quiet (by simp [Task.events]) rfl rfl rfl
        (by simp [Task.step, Progress.task?, Task.Fits])
  | counts b =>
    exact h.quiet (by simp [Task.events, Event.Quiet]) rfl rfl rfl
      (by simp [Task.step, Progress.task?])
  | fails p =>
    exact h.quiet (by simp [Task.events, Event.Quiet]) rfl rfl rfl
      (by simp [Task.step, Progress.task?])

/-- The last emission is forgotten. -/
lemma resets (h : Stamped e₀ ⟨e, task, now⟩ log) :
    Stamped e₀ ⟨e.resetAdmission, task, now⟩ (log ++ [.reset]) := by
  have hnumbers : SourceEngine.numbers (log ++ [.reset]) = SourceEngine.numbers log := by
    simp [SourceEngine.numbers]
  have hstamps : SourceEngine.stamps (log ++ [.reset]) = SourceEngine.stamps log := by
    simp [SourceEngine.stamps]
  constructor
  · exact h.time
  · rw [hnumbers]
    exact h.sequence
  · rw [hnumbers]
    exact h.numbers
  · rw [hstamps]
    exact h.stamps
  · rw [hstamps]
    exact h.past
  · simp [Event.latest]
  · exact h.paced.concat nofun
  · intro t ht
    exact (h.fits t ht).reset

/-- Time passes. -/
lemma passes (h : Stamped e₀ ⟨e, task, now⟩ log) (hnow : now ≤ later) (hlater : later < timeLimit) :
    Stamped e₀ ⟨e, task, later⟩ log where
  time := hlater
  sequence := h.sequence
  numbers := h.numbers
  stamps := h.stamps
  past s hs := Nat.le_trans (h.past s hs) hnow
  latest := h.latest
  paced := h.paced
  fits t ht := (h.fits t ht).mono hnow

lemma step (h : Stamped e₀ x log) (hxy : x.Step events y) : Stamped e₀ y (log ++ events) := by
  cases hxy with
  | emits b =>
    exact h.quiet (by simp [Event.Quiet]) rfl rfl rfl (by simp [Task.Fits])
  | acts answer => exact h.acts answer
  | setRate fps =>
    simp only [SourceEngine.setRate]
    split
    · exact h.quiet (by simp) rfl rfl rfl h.fits
    · exact h.quiet (by simp) rfl rfl rfl h.fits
  | setConsumer consumer => exact h.quiet (by simp) rfl rfl rfl h.fits
  | resets => exact h.resets
  | passes later hnow hlater => simpa using h.passes hnow hlater

/-- Along each run. -/
lemma run (h : Run e x log) : Stamped e x log := by
  induction h with
  | new hnow => exact .new hnow
  | step _ hxy ih => exact ih.step hxy

end Stamped

/-! ### Counters -/

namespace Task

/-- A frame was stamped, and the thread does not know yet what becomes of it. -/
@[simp]
def held : Option Task → List FrameBuffer
  | some (hands _ b) => [b]
  | some (counts b) => [b]
  | _ => []

end Task

/-- Each emission is counted as what it came to. -/
structure Counted (c₀ c : BlockCore) (task : Option Task) (log : List Event) : Prop where
  processed : c.stats.processed = c₀.stats.processed + (deliveries log).length
  dropped : c.stats.dropped = c₀.stats.dropped + log.count .early
  bytes : c₀.stats.bytes + bytes log < Checked.word64 → c.stats.bytes = c₀.stats.bytes + bytes log
  delivered : (deliveries log ++ Task.held task).Sublist (admissions log)
  begun : log.count .begun = log.count .unheard + log.count .early + (deliveries log).length
    + log.count .aborted + task.toList.length

namespace Counted

variable {c c' c₀ : BlockCore}

lemma new : Counted c c none [] where
  processed := rfl
  dropped := rfl
  bytes _ := rfl
  delivered := .slnil
  begun := rfl

/-- What is counted of some events is added to what was counted before. -/
lemma append (h : Counted c₀ c task log)
    (hprocessed : c'.stats.processed = c.stats.processed + (deliveries events).length)
    (hdropped : c'.stats.dropped = c.stats.dropped + events.count .early)
    (hbytes : c.stats.bytes + SourceEngine.bytes events < Checked.word64 →
      c'.stats.bytes = c.stats.bytes + SourceEngine.bytes events)
    (hheld : (deliveries events ++ Task.held task').Sublist (Task.held task ++ admissions events))
    (hbegun : events.count .begun + task.toList.length = events.count .unheard
      + events.count .early + (deliveries events).length + events.count .aborted
      + task'.toList.length) :
    Counted c₀ c' task' (log ++ events) := by
  have hbefore := h.begun
  constructor
  · rw [hprocessed, h.processed, deliveries_append, List.length_append, Nat.add_assoc]
  · rw [hdropped, h.dropped, List.count_append, Nat.add_assoc]
  · rw [bytes_append]
    intro hword
    have hc := h.bytes (by omega)
    rw [hbytes (by omega), hc, Nat.add_assoc]
  · rw [deliveries_append, admissions_append, List.append_assoc]
    refine (hheld.append_left _).trans ?_
    rw [← List.append_assoc]
    exact h.delivered.append_right _
  · simp only [List.count_append, deliveries_append, List.length_append]
    omega

/-- The thread goes on to another step, and nothing is noted. -/
lemma goesOn {u : Task} (h : Counted c₀ c (some t) log)
    (hheld : (Task.held (some u)).Sublist (Task.held (some t))) :
    Counted c₀ c (some u) (log ++ []) :=
  h.append rfl rfl (fun _ => rfl) (hheld.trans (List.sublist_append_left _ _)) rfl

/-- A step of the thread. -/
lemma acts (h : Counted c₀ e.core (some t) log) (answer : Checked Unit) (now : Nat) :
    Counted c₀ (t.step answer now e).2.core (t.step answer now e).1.task? (log ++ t.events e) := by
  cases t with
  | looks b =>
    cases hconsumer : e.consumer with
    | none =>
      simp only [Task.step, Task.events, hconsumer]
      exact h.append rfl rfl (fun _ => rfl) (by simp [Progress.task?]) rfl
    | some c =>
      simp only [Task.step, Task.events, hconsumer]
      exact h.goesOn (by simp)
  | recalls c b =>
    cases hlast : e.lastEmit with
    | none =>
      simp only [Task.step, hlast]
      exact h.goesOn (by simp)
    | some last =>
      simp only [Task.step, hlast]
      exact h.goesOn (by simp)
  | paces c b last => exact h.goesOn (by simp)
  | checks c b last interval =>
    simp only [Task.step]
    split
    · exact h.goesOn (by simp)
    · exact h.goesOn (by simp)
  | refuses =>
    exact h.append rfl rfl (fun _ => rfl) (by simp [Task.step, Task.events, Progress.task?]) rfl
  | stamps c b kept => exact h.goesOn (by simp)
  | numbers c b kept stamp => exact h.goesOn (by simp)
  | notes c b kept =>
    exact h.append rfl rfl (fun _ => rfl) (by simp [Task.step, Task.events, Progress.task?]) rfl
  | hands c b =>
    cases answer with
    | ok _ => exact h.goesOn (by simp)
    | error p => exact h.goesOn (by simp)
  | counts b =>
    have hbytes : SourceEngine.bytes [.delivered b] = b.size := by simp [SourceEngine.bytes]
    refine h.append (BlockCore.processed_recordProcessed ..) (BlockCore.dropped_recordProcessed ..)
      (fun hword => ?_) (by simp [Task.step, Task.events, Progress.task?]) rfl
    rw [Task.events, hbytes] at hword ⊢
    exact BlockCore.bytes_recordProcessed _ _ _ hword
  | fails p =>
    exact h.append rfl rfl (fun _ => rfl) (by simp [Task.step, Task.events, Progress.task?]) rfl

lemma step (h : Counted c₀ x.engine.core x.task log) (hxy : x.Step events y) :
    Counted c₀ y.engine.core y.task (log ++ events) := by
  cases hxy with
  | emits b => exact h.append rfl rfl (fun _ => rfl) (by simp) rfl
  | acts answer => exact h.acts answer _
  | setRate fps =>
    simp only [SourceEngine.setRate]
    split
    · simpa using h
    · simpa using h
  | setConsumer consumer => simpa using h
  | resets => exact h.append rfl rfl (fun _ => rfl) (by simp) rfl
  | passes later hnow hlater => simpa using h

/-- Along each run. -/
lemma run (h : Run e x log) : Counted e.core x.engine.core x.task log := by
  induction h with
  | new hnow => exact .new
  | step _ hxy ih => exact ih.step hxy

end Counted

/-! ### Emissions without interruption -/

/-- What is noted of at most `n` steps without interruption. -/
def Task.chronicle (answer : Checked Unit) (now : Nat) : Nat → Task → SourceEngine → List Event
  | 0, _, _ => []
  | n + 1, t, e =>
    t.events e ++
      match t.step answer now e with
      | (.goesOn t, e) => chronicle answer now n t e
      | (.ended _, _) => []

/-- The steps of a thread that nobody interrupts belong to a run. -/
lemma Run.alone (h : Run e₀ ⟨e, some t, now⟩ log) (answer : Checked Unit) (n : Nat) :
    Run e₀ ⟨(t.alone answer now n e).2, (t.alone answer now n e).1.task?, now⟩
      (log ++ t.chronicle answer now n e) := by
  induction n generalizing t e log with
  | zero => simpa [Task.alone, Task.chronicle, Progress.task?] using h
  | succ n ih =>
    have hstep := h.step (.acts answer)
    rcases heq : t.step answer now e with ⟨u | r, e'⟩
    · rw [heq] at hstep
      simpa only [Task.alone, Task.chronicle, heq, List.append_assoc] using ih hstep
    · rw [heq] at hstep
      simpa only [Task.alone, Task.chronicle, heq, List.append_nil] using hstep

/-! ### The law of emission -/

/-- The numbers of the stamped frames have no gap, and their stamps do not go back. From one such
frame to the next, unless the last emission was forgotten in between, the interval is kept that the
second found. Each emission that has come to its end was unheard, came too early, was delivered, or
its consumer was aborted; a frame that comes too early is a drop, a frame that is delivered is
processed with its bytes, and nothing else is counted. -/
theorem Run.emissions_accounted {e₀ : SourceEngine} (h : Run e₀ x log) :
    numbers log = List.range' (e₀.sequence + 1) (admissions log).length
      ∧ (stamps log).Pairwise (· ≤ ·)
      ∧ (∀ before b kept between b' kept' after,
          log = before ++ .admitted b kept :: (between ++ .admitted b' kept' :: after) →
          (∀ event ∈ between, event.Quiet) →
          ∃ interval, kept' = some interval ∧ b.info.timestamp + interval ≤ b'.info.timestamp)
      ∧ (x.task = none → x.engine.sequence = e₀.sequence + (admissions log).length)
      ∧ x.engine.core.stats.processed = e₀.core.stats.processed + (deliveries log).length
      ∧ x.engine.core.stats.dropped = e₀.core.stats.dropped + log.count .early
      ∧ (e₀.core.stats.bytes + bytes log < Checked.word64 →
          x.engine.core.stats.bytes = e₀.core.stats.bytes + bytes log)
      ∧ (deliveries log).Sublist (admissions log)
      ∧ log.count .begun = log.count .unheard + log.count .early + (deliveries log).length
          + log.count .aborted + x.task.toList.length := by
  have hstamped := Stamped.run h
  have hcounted := Counted.run h
  have hlength : (numbers log).length = (admissions log).length := List.length_map _
  refine ⟨?_, hstamped.stamps, ?_, ?_, hcounted.processed, hcounted.dropped, hcounted.bytes,
    (List.sublist_append_left _ _).trans hcounted.delivered, hcounted.begun⟩
  · rw [← hlength]
    exact hstamped.numbers
  · intro before b kept between b' kept' after hlog hquiet
    refine hstamped.paced (before ++ .admitted b kept :: between) b' kept' after ?_ _ ?_
    · rw [hlog, List.append_assoc, List.cons_append]
    · exact latest_admitted hquiet
  · intro htask
    rw [hstamped.sequence, hlength, htask]
    rfl

/-- A source whose frames are noted. -/
def noted : SourceEngine where
  core := { typeName := "source" }
  consumer := some (.tap .notes)

def dot : FrameBuffer := { region := ⟨[0]⟩, size := 1 }

/-- The first frame is delivered, the second one comes too early, the third one is delivered. -/
def threeEmissions : List Event :=
  [.begun, .admitted (dot.stamp 100 1) none, .delivered (dot.stamp 100 1), .begun, .early, .begun,
    .admitted (dot.stamp 40000 2) (some 33333), .delivered (dot.stamp 40000 2)]

lemma run_noted : ∃ x, Run noted x threeEmissions ∧ x.task = none := by
  have hnew : Run noted ⟨noted, none, 100⟩ [] := .new (by decide)
  have hfirst := (hnew.step (.emits dot)).alone (.ok ()) 9
  have hsecond := ((hfirst.step (.passes 200 (by decide) (by decide))).step (.emits dot)).alone
    (.ok ()) 9
  have hthird := ((hsecond.step (.passes 40000 (by decide) (by decide))).step (.emits dot)).alone
    (.ok ()) 9
  exact ⟨_, hthird, rfl⟩

theorem emissions_accounted_noted : ∃ x, Run noted x threeEmissions
    ∧ numbers threeEmissions = [1, 2] ∧ stamps threeEmissions = [100, 40000]
    ∧ (dot.stamp 100 1).info.timestamp + 33333 ≤ (dot.stamp 40000 2).info.timestamp
    ∧ x.engine.sequence = 2 ∧ x.engine.core.stats.processed = 2
    ∧ x.engine.core.stats.dropped = 1 ∧ x.engine.core.stats.bytes = 2 := by
  obtain ⟨x, hx, htask⟩ := run_noted
  obtain ⟨hnumbers, -, hpaced, hsequence, hprocessed, hdropped, hbytes, -, -⟩ :=
    Run.emissions_accounted hx
  refine ⟨x, hx, hnumbers, rfl, ?_, hsequence htask, hprocessed, hdropped, hbytes (by decide)⟩
  obtain ⟨interval, hkept, hinterval⟩ := hpaced [.begun] _ none
    [.delivered (dot.stamp 100 1), .begun, .early, .begun] _ (some 33333)
    [.delivered (dot.stamp 40000 2)] rfl (by simp [Event.Quiet])
  cases hkept
  exact hinterval

end FrameGraph.SourceEngine
