import FrameGraph.Output.Outputs
import FrameGraph.Proofs.Network.Generation
import FrameGraph.Rehearsal.Script

/-!
# What a source produces

From the time when a source is started until its thread ends, its state and its counters are told
from what its generator came to and from the calls in which its consumer is aborted. The thread
always goes on to the next outcome, unless it has ended.
-/

namespace FrameGraph

open Attempt (Breaks called taken)

/-- A pool that was opened is there. -/
lemma Storage.lt_of_openPool {s t : Storage} {limit n : Nat} (h : s.openPool limit = .ok (n, t)) :
    n < t.pools.length := by
  unfold openPool BufferPool.new at h
  split at h
  · cases h
  · cases h
    simp

/-! ### Reading the books -/

namespace SourceBlock

variable {γ : Type} {x₀ x : SourceBlock γ} {outcomes : List Attempt}
  {delivered : List FrameBuffer} {now : Nat}

/-- The outcome upon which the thread breaks is the last one. -/
lemma Stage.eq_nil_of_breaks (h : x₀.Stage now outcomes delivered x) {before after : List Attempt}
    {o : Attempt} (heq : outcomes = before ++ o :: after)
    (hbreaks : Breaks x₀.engine.consumer before o) : after = [] := by
  cases h with
  | rests h =>
    cases h with
    | loops _ h => exact absurd hbreaks (h.sound before o after heq)
    | broke _ _ hsound _ _ => exact hsound.eq_nil_of_breaks heq hbreaks
    | overflowed _ _ h => exact absurd hbreaks (h.sound before o after heq)
  | offers _ _ h => exact h.sound.eq_nil_of_breaks heq hbreaks
  | hands _ _ _ _ h => exact h.sound.eq_nil_of_breaks heq hbreaks

lemma Stage.numbers (h : x₀.Stage now outcomes delivered x) :
    delivered.map (·.info.sequence) = List.range' (x₀.engine.sequence + 1) delivered.length := by
  cases h with
  | rests h =>
    cases h with
    | loops _ h => exact h.accounts.numbers
    | broke _ _ _ _ h => exact h.numbers
    | overflowed _ _ h => exact h.accounts.numbers
  | offers _ _ h => exact h.accounts.numbers
  | hands _ _ _ _ h => exact h.accounts.numbers

lemma Stage.rests_of_error (h : x₀.Stage now outcomes delivered x)
    (hstate : x.core.state = .error) : x₀.Rests outcomes delivered x := by
  cases h with
  | rests h => exact h
  | offers _ _ h => exact absurd hstate h.state
  | hands _ _ _ _ h => exact absurd hstate h.state

namespace Rests

lemma ended_of_error (h : x₀.Rests outcomes delivered x) (hstate : x.core.state = .error) :
    x.thread = .ended := by
  cases h with
  | loops _ h => exact absurd hstate h.state
  | broke hthread => exact hthread
  | overflowed _ _ h => exact absurd hstate h.state

/-- The block has failed if and only if the thread broke upon the last outcome. -/
lemma error_iff (h : x₀.Rests outcomes delivered x) : x.core.state = .error ↔
    ∃ before o, outcomes = before ++ [o] ∧ Breaks x₀.engine.consumer before o := by
  have hsound (hworks : x₀.Works outcomes delivered.length delivered x) :
      x.core.state = .error ↔
        ∃ before o, outcomes = before ++ [o] ∧ Breaks x₀.engine.consumer before o := by
    constructor
    · intro hstate
      exact absurd hstate hworks.state
    · rintro ⟨before, o, heq, hbreaks⟩
      exact absurd hbreaks (hworks.sound before o [] heq)
  cases h with
  | loops _ h => exact hsound h
  | @broke before o _ _ _ hstate _ hbreaks _ =>
    exact ⟨fun _ => ⟨before, o, rfl, hbreaks⟩, fun _ => hstate⟩
  | overflowed _ _ h => exact hsound h

/-- All outcomes are settled. -/
lemma accounts (h : x₀.Rests outcomes delivered x) : x₀.engine.Accounts outcomes
    (called x₀.engine.consumer outcomes).length delivered x.engine := by
  cases h with
  | loops _ h =>
    rw [h.even]
    exact h.accounts
  | broke _ _ _ _ h => exact h
  | overflowed _ _ h =>
    rw [h.even]
    exact h.accounts

end Rests

end SourceBlock

namespace Network

variable {ω γ π : Type} [Generator γ] [Processor ω π] {s s₀ t u : Network ω γ π} {i : Nat}
  {x₀ x : SourceBlock γ} {outcomes more : List Attempt} {delivered rest : List FrameBuffer}

/-! ### The beginning -/

omit [Processor ω π] in
/-- A source that has been started is about to begin. -/
theorem begins_of_spawnSource (hx : s.block? i = some (.source x)) (hstate : x.core.state ≠ .error)
    (hpool : ∀ n ∈ x.pool, n < s.storage.pools.length) (h : spawnSource i s = (.ok (), t)) :
    ∃ x', t.Begins i x' := by
  have hset {storage : Storage} {x' : SourceBlock γ} (hthread : x'.thread = .checking)
      (hstop : x'.stop.raised = false) (hcore : x'.core = x.core)
      (hlending : x'.lending < storage.pools.length) :
      Begins ({ s with storage }.setSource i x') i x' :=
    ⟨block?_of_set_self (blocks_setSource _) hx, hthread, hstop, hcore ▸ hstate, hlending⟩
  cases hn : x.pool with
  | some n =>
    simp only [spawnSource, source?_eq_some.2 hx, hn] at h
    split at h
    · cases h
    · cases h
      exact ⟨_, hset rfl rfl rfl (hpool n hn)⟩
  | none =>
    simp only [spawnSource, source?_eq_some.2 hx, hn] at h
    split at h
    · cases h
    rename_i lending storage hopen
    split at h
    · cases h
    · cases h
      exact ⟨_, hset rfl rfl rfl (Storage.lt_of_openPool hopen)⟩

/-! ### Progress -/

namespace GenerationRun

lemma trans (h : GenerationRun i s₀ outcomes delivered s) (h' : GenerationRun i s more rest t) :
    GenerationRun i s₀ (outcomes ++ more) (delivered ++ rest) t := by
  induction h' with
  | new =>
    rw [List.append_nil, List.append_nil]
    exact h
  | goesOn _ hst ih =>
    rw [← List.append_assoc, ← List.append_assoc]
    exact ih.goesOn hst
  | others _ hm hst ih => exact ih.others hm hst

/-- The thread goes on without a frame. -/
lemma single (hx : s.block? i = some (.source x)) (hfree : x.thread.isFree = true)
    (hst : s.perform (.source i) = some t) : GenerationRun i s (s.asked i).toList [] t := by
  have h := GenerationRun.new.goesOn hst
  rw [accepted_of_isFree hx hfree] at h
  exact h

/-- The thread asks its generator as soon as a frame is admitted. -/
lemma asks_of_admits (hx : s.block? i = some (.source x)) (hthread : x.thread = .checking)
    (hstop : x.stop.raised = false) (hadmits : x.engine.admits s.clock = true)
    (hpool : x.lending < s.storage.pools.length) : ∃ o t, GenerationRun i s [o] [] t := by
  have hst : s.perform (.source i) = some (s.check i x) := by
    simp only [perform, moveSource, source?_eq_some.2 hx, hthread]
  have hsingle := single hx (by rw [hthread]; rfl) hst
  rw [asked_of_admits hx hthread hstop hadmits (List.getElem?_eq_getElem hpool)] at hsingle
  exact ⟨_, _, hsingle⟩

/-- A thread that sleeps asks its generator after a while. -/
lemma asks_of_sleeping {wake : Nat} (hx : s.block? i = some (.source x))
    (hthread : x.thread = .sleeping wake) (hstop : x.stop.raised = false)
    (hpool : x.lending < s.storage.pools.length) : ∃ o t, GenerationRun i s [o] [] t := by
  -- so long that it wakes up and a frame is admitted
  let later : Network ω γ π := { s with clock := s.clock + max wake x.engine.due }
  let woken := later.setSource i { x with thread := .checking }
  have hwake : later.perform (.source i) = some woken := by
    have hdue : wake ≤ s.clock + max wake x.engine.due := by omega
    simp only [perform, moveSource]
    rw [show later.source? i = some x from source?_eq_some.2 hx]
    simp only [hthread, later, hdue, decide_true, Bool.or_true, if_true]
    rfl
  have htick : GenerationRun i s [] [] later :=
    GenerationRun.new.others (m := .tick _) (by simp) rfl
  have hlater : later.block? i = some (.source x) := hx
  have hwoken := single hlater (by rw [hthread]; rfl) hwake
  rw [asked_of_thread hlater (by simp [hthread])] at hwoken
  have hadmits : x.engine.admits woken.clock = true := by
    have hdue : x.engine.due ≤ s.clock + max wake x.engine.due := by omega
    exact decide_eq_true hdue
  obtain ⟨o, t, hasks⟩ := asks_of_admits (s := woken)
    (block?_of_set_self (blocks_setSource _) hlater) rfl hstop hadmits hpool
  exact ⟨o, t, (htick.trans hwoken).trans hasks⟩

/-- A thread in its loop asks its generator after a while. -/
lemma asks (hx : s.block? i = some (.source x))
    (hthread : x.thread = .checking ∨ ∃ wake, x.thread = .sleeping wake)
    (hstop : x.stop.raised = false) (hpool : x.lending < s.storage.pools.length) :
    ∃ o t, GenerationRun i s [o] [] t := by
  rcases hthread with hthread | ⟨wake, hthread⟩
  · by_cases hadmits : x.engine.admits s.clock = true
    · exact asks_of_admits hx hthread hstop hadmits hpool
    · let early := s.setSource i { x with thread := .sleeping x.engine.due }
      have hst : s.perform (.source i) = some early := by
        simp [perform, moveSource, source?_eq_some.2 hx, hthread, check, hstop, hadmits, early]
      have hsleeps := single hx (by rw [hthread]; rfl) hst
      rw [asked_of_early hx hadmits] at hsleeps
      obtain ⟨o, t, hasks⟩ := asks_of_sleeping (s := early)
        (block?_of_set_self (blocks_setSource _) hx) rfl hstop hpool
      exact ⟨o, t, hsleeps.trans hasks⟩
  · exact asks_of_sleeping hx hthread hstop hpool

/-- A frame at hand is soon out of the hands of the thread. -/
lemma frees (hbegins : s₀.Begins i x₀) (h : GenerationRun i s₀ outcomes delivered s)
    (hroute : ∀ route, x₀.engine.consumer ≠ some (.fanOut route)) :
    ∃ rest t, GenerationRun i s [] rest t ∧
      t.HasSource i (x₀.Rests outcomes (delivered ++ rest)) := by
  obtain ⟨⟨x, hx, hstage⟩, -⟩ := h.stage hbegins
  cases hstage with
  | rests h =>
    refine ⟨[], s, .new, x, hx, ?_⟩
    rw [List.append_nil]
    exact h
  | @offers before buffer delivered x hthread hadmits h =>
    have hst : s.perform (.source i) = some (s.emit i x buffer) := by
      simp only [perform, moveSource, source?_eq_some.2 hx, hthread]
    have hgoesOn := GenerationRun.new.goesOn hst
    rw [asked_of_thread hx (by simp [hthread])] at hgoesOn
    exact ⟨_, _, hgoesOn, emit_rests hx hthread hadmits hroute h⟩
  | hands hfanOut => exact absurd hfanOut (hroute _)

/-- The run goes on until the generator was asked as often as one likes, unless the thread ends
before. -/
lemma continues (hbegins : s₀.Begins i x₀) (h : GenerationRun i s₀ outcomes delivered s)
    (hroute : ∀ route, x₀.engine.consumer ≠ some (.fanOut route)) (n : Nat) :
    ∃ more rest t, GenerationRun i s more rest t ∧ t.HasSource i fun y =>
      y.thread.isFree = true ∧ (more.length = n ∨ more.length < n ∧ y.thread = .ended) := by
  induction n generalizing outcomes delivered s with
  | zero =>
    obtain ⟨rest, t, ht, y, hy, hrests⟩ := h.frees hbegins hroute
    exact ⟨[], rest, t, ht, y, hy, hrests.isFree, .inl rfl⟩
  | succ n ih =>
    obtain ⟨rest, t, ht, y, hy, hrests⟩ := h.frees hbegins hroute
    have hended (hthread : y.thread = .ended) : ∃ more rest t, GenerationRun i s more rest t ∧
        t.HasSource i fun y => y.thread.isFree = true ∧
          (more.length = n + 1 ∨ more.length < n + 1 ∧ y.thread = .ended) :=
      ⟨[], rest, t, ht, y, hy, hrests.isFree, .inr ⟨n.succ_pos, hthread⟩⟩
    cases hrests with
    | loops hthread hworks =>
      have hpool := ((h.trans ht).stage hbegins).2
      rw [← hworks.lending] at hpool
      obtain ⟨o, u, hasks⟩ := asks hy hthread hworks.stop hpool
      obtain ⟨more, rest', v, hv, z, hz, hfree, hlength⟩ := ih ((h.trans ht).trans hasks)
      refine ⟨_, _, v, (ht.trans hasks).trans hv, z, hz, hfree, ?_⟩
      simpa using hlength
    | broke hthread => exact hended hthread
    | overflowed hthread => exact hended hthread

/-! ### The law of generation -/

/-- An outcome upon which the thread breaks is the last one; the block has then failed and its
thread has ended, and it fails for no other reason. Unless it failed, the thread ends only when the
counter of bytes leaves its word. An error that does not break the thread is a drop, and nothing
else is. The frames that the consumer takes are processed; they are those that were made, in their
order, and have consecutive numbers. Without a consumer no frame counts and no number is given. As
long as the thread has not ended, it goes on to the next outcome. -/
theorem outcomes_accounted (hbegins : s₀.Begins i x₀)
    (h : GenerationRun i s₀ outcomes delivered s) (hx : s.block? i = some (.source x)) :
    (∀ before o after, outcomes = before ++ o :: after → Breaks x₀.engine.consumer before o →
        after = [])
      ∧ (x.core.state = .error → x.thread = .ended)
      ∧ (x.thread = .ended → x.core.state = .error ∨
          Checked.word64 ≤ x₀.core.stats.bytes + (delivered.map (·.size)).sum)
      ∧ delivered.map (·.info.sequence) = List.range' (x₀.engine.sequence + 1) delivered.length
      ∧ (x.thread.isFree = true →
          (x.core.state = .error ↔
            ∃ before o, outcomes = before ++ [o] ∧ Breaks x₀.engine.consumer before o)
          ∧ x.core.stats.dropped = x₀.core.stats.dropped + outcomes.countP Attempt.losesFrame
          ∧ x.core.stats.processed =
              x₀.core.stats.processed + (taken x₀.engine.consumer outcomes).length
          ∧ x.engine.sequence = x₀.engine.sequence + (called x₀.engine.consumer outcomes).length
          ∧ delivered.map (·.unstamped) =
              (taken x₀.engine.consumer outcomes).map (·.unstamped))
      ∧ ((∀ route, x₀.engine.consumer ≠ some (.fanOut route)) → ∀ n, ∃ more rest t y,
          GenerationRun i s more rest t ∧ t.block? i = some (.source y) ∧ y.thread.isFree = true ∧
            (more.length = n ∨ more.length < n ∧ y.thread = .ended)) := by
  obtain ⟨⟨x', hx', hstage⟩, -⟩ := h.stage hbegins
  obtain rfl : x = x' := by simpa [hx] using hx'
  refine ⟨fun before o after heq hbreaks => hstage.eq_nil_of_breaks heq hbreaks,
    fun hstate => (hstage.rests_of_error hstate).ended_of_error hstate, fun hended => ?_,
    hstage.numbers, fun hfree => ?_, fun hroute n => ?_⟩
  · cases hstage.rests_of_isFree (by rw [hended]; rfl) with
    | loops hthread _ => simp [hended] at hthread
    | broke _ hstate => exact .inl hstate
    | overflowed _ hbytes => exact .inr hbytes
  · have hrests := hstage.rests_of_isFree hfree
    have haccounts := hrests.accounts
    have hlength := congrArg List.length haccounts.frames
    rw [List.length_map, List.length_map] at hlength
    exact ⟨hrests.error_iff, haccounts.dropped, hlength ▸ haccounts.processed, haccounts.sequence,
      haccounts.frames⟩
  · obtain ⟨more, rest, t, ht, y, hy, hfree, hlength⟩ := h.continues hbegins hroute n
    exact ⟨more, rest, t, y, ht, hy, hfree, hlength⟩

/-- A source that is about to play a script; its consumer is aborted in the second call. -/
def brittle : SourceBlock Script where
  engine := {
    core := { typeName := "ScriptSource", state := .running }
    consumer := some (.tap (.abortsAt 2))
    fps := 1000
    interval := 1000 }
  generator := { cues := [.frame 1, .nothing, .error "smudge", .frame 2, .frame 3] }
  format := { width := 1, height := 1, stride := 3, format := .rgb24 }
  thread := .checking

def brittleNetwork : Network FileTree Script Output where
  world := {}
  storage := { pools := [{ number := 0, limit := 1 }] }
  blocks := [.source brittle]

set_option maxRecDepth 20000 in
/-- The consumer takes the first frame, and the second one breaks the thread. -/
lemma run_brittle : ∃ outcomes delivered s x,
    GenerationRun 0 brittleNetwork outcomes delivered s ∧ s.block? 0 = some (.source x) ∧
      x.thread = .ended ∧ delivered.map (·.size) = [3] ∧
      outcomes.countP Attempt.losesFrame = 1 ∧
      (taken brittle.engine.consumer outcomes).length = 1 ∧
      (called brittle.engine.consumer outcomes).length = 2 := by
  have hnew : GenerationRun 0 brittleNetwork [] [] brittleNetwork := .new
  have hfirst := (hnew.goesOn rfl).goesOn rfl
  have hnothing :=
    (((hfirst.goesOn rfl).others (m := .tick 1000) (by simp) rfl).goesOn rfl).goesOn rfl
  have herror := ((hnothing.others (m := .tick 250) (by simp) rfl).goesOn rfl).goesOn rfl
  have hsecond := ((herror.others (m := .tick 1000) (by simp) rfl).goesOn rfl).goesOn rfl
  have hbroke := hsecond.goesOn rfl
  exact ⟨_, _, _, _, hbroke, rfl, rfl, rfl, rfl, rfl, rfl⟩

/-- The third frame of the script is not made. -/
theorem outcomes_accounted_brittle : ∃ outcomes delivered s x,
    brittleNetwork.Begins 0 brittle ∧ GenerationRun 0 brittleNetwork outcomes delivered s ∧
      s.block? 0 = some (.source x) ∧ x.core.state = .error ∧ x.core.stats.dropped = 1 ∧
      x.core.stats.processed = 1 ∧ x.engine.sequence = 2 ∧
      delivered.map (·.info.sequence) = [1] := by
  obtain ⟨outcomes, delivered, s, x, h, hx, hthread, hsizes, hlost, htaken, hcalled⟩ := run_brittle
  have hbegins : brittleNetwork.Begins 0 brittle := ⟨rfl, rfl, rfl, by decide, by decide⟩
  obtain ⟨-, -, hended, hnumbers, hcounts, -⟩ := outcomes_accounted hbegins h hx
  obtain ⟨-, hdropped, hprocessed, hsequence, -⟩ := hcounts (by rw [hthread]; rfl)
  have hlength : delivered.length = 1 := by
    rw [← List.length_map (·.size), hsizes]
    rfl
  rw [hsizes] at hended
  rw [hlength] at hnumbers
  rw [hlost] at hdropped
  rw [htaken] at hprocessed
  rw [hcalled] at hsequence
  have hstate : x.core.state = .error := (hended hthread).resolve_right (by decide)
  exact ⟨outcomes, delivered, s, x, hbegins, h, hx, hstate, hdropped, hprocessed, hsequence,
    hnumbers⟩

end GenerationRun

end Network

end FrameGraph
