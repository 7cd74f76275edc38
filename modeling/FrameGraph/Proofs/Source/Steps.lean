import FrameGraph.Proofs.Network.Effects

/-!
# The steps of an emission

A thread that emits a frame takes one atomic step after the other: it looks for a consumer, loads
the time of the last emission and the interval, reads the clock to see whether the frame is due,
reads the clock again for the stamp, draws a number, notes the time, hands the frame over and counts
it. Between two such steps others may change the consumer and the rate, or forget the last emission,
and time passes. A task says which step comes next and what the thread has in its hands.

An emission that nobody interrupts does what `SourceEngine.begin` does in one go.
-/

namespace FrameGraph.SourceEngine

/-- The next atomic step of a thread that emits a frame, with what the thread holds. -/
inductive Task
  /-- Look for a consumer. -/
  | looks (b : FrameBuffer)
  /-- Load the time of the last emission. -/
  | recalls (c : Consumer) (b : FrameBuffer)
  /-- Load the interval. -/
  | paces (c : Consumer) (b : FrameBuffer) (last : Nat)
  /-- Read the clock to see whether the frame is due. -/
  | checks (c : Consumer) (b : FrameBuffer) (last interval : Nat)
  /-- It is not; count the drop. -/
  | refuses
  /-- It is, and `kept` is the interval it kept if there was one to keep; read the clock for the
  stamp. -/
  | stamps (c : Consumer) (b : FrameBuffer) (kept : Option Nat)
  /-- Draw a number. -/
  | numbers (c : Consumer) (b : FrameBuffer) (kept : Option Nat) (stamp : Nat)
  /-- The frame is stamped; note the time. -/
  | notes (c : Consumer) (b : FrameBuffer) (kept : Option Nat)
  /-- Hand the frame to the consumer. -/
  | hands (c : Consumer) (b : FrameBuffer)
  /-- It was taken; count it. -/
  | counts (b : FrameBuffer)
  /-- The consumer was aborted; the block fails. -/
  | fails (p : Panic)

/-- What an atomic step leads to: another step, or the answer whether the consumer got the frame. -/
inductive Progress
  | goesOn (t : Task)
  | ended (r : Checked Bool)

namespace Task

variable {e : SourceEngine} {b : FrameBuffer} {answer : Checked Unit} {now : Nat}

/-- One atomic step at a time of the clock. What a consumer says to a frame is up to `answer`. -/
def step (answer : Checked Unit) (now : Nat) (e : SourceEngine) : Task → Progress × SourceEngine
  | looks b =>
    match e.consumer with
    | none => (.ended (.ok false), e)
    | some c => (.goesOn (.recalls c b), e)
  | recalls c b =>
    match e.lastEmit with
    | none => (.goesOn (.stamps c b none), e)
    | some last => (.goesOn (.paces c b last), e)
  | paces c b last => (.goesOn (.checks c b last e.interval), e)
  | checks c b last interval =>
    if min (last + interval) timeLimit ≤ now then (.goesOn (.stamps c b (some interval)), e)
    else (.goesOn .refuses, e)
  | refuses => (.ended (.ok false), { e with core := e.core.recordDropped })
  | stamps c b kept => (.goesOn (.numbers c b kept now), e)
  | numbers c b kept stamp =>
    (.goesOn (.notes c (b.stamp stamp (e.sequence + 1)) kept),
      { e with sequence := e.sequence + 1 })
  | notes c b _ => (.goesOn (.hands c b), { e with lastEmit := some b.info.timestamp })
  | hands _ b =>
    match answer with
    | .ok () => (.goesOn (.counts b), e)
    | .error p => (.goesOn (.fails p), e)
  | counts b =>
    let (r, e) := e.delivered b.size
    (.ended (r.map fun _ => true), e)
  | fails p => (.ended (.ok false), (e.undelivered p).2)

/-- Take at most `n` steps without interruption. -/
def alone (answer : Checked Unit) (now : Nat) : Nat → Task → SourceEngine → Progress × SourceEngine
  | 0, t, e => (.goesOn t, e)
  | n + 1, t, e =>
    match t.step answer now e with
    | (.goesOn t, e) => alone answer now n t e
    | (.ended r, e) => (.ended r, e)

/-! ### Without interruption -/

lemma alone_of_goesOn {n : Nat} {t u : Task} {e e' : SourceEngine}
    (h : t.step answer now e = (.goesOn u, e')) :
    t.alone answer now (n + 1) e = u.alone answer now n e' := by
  rw [alone, h]

lemma alone_of_ended {n : Nat} {t : Task} {e e' : SourceEngine} {r : Checked Bool}
    (h : t.step answer now e = (.ended r, e')) :
    t.alone answer now (n + 1) e = (.ended r, e') := by
  rw [alone, h]

/-- What becomes of a frame that was admitted, up to the moment when it is handed over. -/
lemma alone_stamps {c : Consumer} {kept : Option Nat} :
    (stamps c b kept).alone answer now 3 e = (.goesOn (.hands c (b.stamp now (e.sequence + 1))),
      { e with sequence := e.sequence + 1, lastEmit := some now }) := rfl

/-- An emission that nobody interrupts begins as `SourceEngine.begin` says. -/
theorem alone_looks (e : SourceEngine) (b : FrameBuffer) (answer : Checked Unit) (now : Nat) :
    ∃ n, (looks b).alone answer now n e =
      match e.begin b now with
      | (.unheard, e) => (.ended (.ok false), e)
      | (.early, e) => (.ended (.ok false), e)
      | (.admitted c b, e) => (.goesOn (.hands c b), e) := by
  cases hc : e.consumer with
  | none =>
    refine ⟨1, ?_⟩
    rw [begin_of_unheard hc]
    exact alone_of_ended (by simp [step, hc])
  | some c =>
    have hlooks : (looks b).step answer now e = (.goesOn (.recalls c b), e) := by simp [step, hc]
    cases hlast : e.lastEmit with
    | none =>
      refine ⟨5, ?_⟩
      have hrecalls : (recalls c b).step answer now e = (.goesOn (.stamps c b none), e) := by
        simp [step, hlast]
      rw [begin_of_admits hc (by simp [admits, due, hlast]), alone_of_goesOn hlooks,
        alone_of_goesOn hrecalls, alone_stamps]
    | some last =>
      have hrecalls : (recalls c b).step answer now e = (.goesOn (.paces c b last), e) := by
        simp [step, hlast]
      have hpaces : (paces c b last).step answer now e
          = (.goesOn (.checks c b last e.interval), e) := rfl
      by_cases hdue : min (last + e.interval) timeLimit ≤ now
      · refine ⟨7, ?_⟩
        have hchecks : (checks c b last e.interval).step answer now e
            = (.goesOn (.stamps c b (some e.interval)), e) := by simp only [step, if_pos hdue]
        rw [begin_of_admits hc (by simpa [admits, due, hlast] using hdue), alone_of_goesOn hlooks,
          alone_of_goesOn hrecalls, alone_of_goesOn hpaces, alone_of_goesOn hchecks, alone_stamps]
      · refine ⟨5, ?_⟩
        have hchecks : (checks c b last e.interval).step answer now e
            = (.goesOn .refuses, e) := by simp only [step, if_neg hdue]
        rw [begin_of_early hc (by simpa [admits, due, hlast] using hdue), alone_of_goesOn hlooks,
          alone_of_goesOn hrecalls, alone_of_goesOn hpaces, alone_of_goesOn hchecks]
        exact alone_of_ended rfl

/-- Nor does anybody come between when the frame is handed over and counted. -/
lemma alone_hands {c : Consumer} :
    (hands c b).alone answer now 2 e =
      match answer with
      | .ok () => (.ended ((e.delivered b.size).1.map fun _ => true), (e.delivered b.size).2)
      | .error p => (.ended (.ok false), (e.undelivered p).2) := by
  cases answer <;> rfl

end Task

end FrameGraph.SourceEngine
