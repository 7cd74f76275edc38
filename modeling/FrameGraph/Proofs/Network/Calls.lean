import FrameGraph.Output.Outputs
import FrameGraph.Pattern.Generator
import FrameGraph.Proofs.Network.Rest
import Mathlib.Logic.Relation

/-!
# Calls on a block

A source or a sink is configured, started, stopped and shut down in any order, one call after the
other, while threads and producers go on, settings change and the block may fail. Along all such
runs calls are accepted in the states that allow them, a refused call changes nothing, a block that
has failed stays so, and one that was started once is not configured again.
-/

namespace FrameGraph.Network

variable {ω γ π : Type} [Generator γ] [Processor ω π] {s t u : Network ω γ π} {i : Nat}
  {x y : Scene (Network ω γ π)}

/-! ### Runs -/

/-- What others do around a block: something happens, or whatever does not concern the block. -/
def Befalls (i : Nat) (s t : Network ω γ π) : Prop := s.Happens t ∨ t.block? i = s.block? i

/-- What others do around a block, one thing after the other. -/
abbrev Meanwhile (i : Nat) : Network ω γ π → Network ω γ π → Prop :=
  Relation.ReflTransGen (Befalls i)

/-- Any call on a block. -/
inductive BlockCall (i : Nat) : Operation ω γ π Unit → Prop
  | call (v : Verb) : BlockCall i (call v i >>= fun _ => pure ())
  | shutdown : BlockCall i (shutdown i)

/-- One thing leads to another around a block. -/
abbrev Leads (i : Nat) : Scene (Network ω γ π) → Scene (Network ω γ π) → Prop :=
  Relation.ReflTransGen (Scene.Step (Befalls i) (BlockCall i))

/-- The runs of a source or a sink that was not used yet. -/
def BlockRun (i : Nat) (x : Scene (Network ω γ π)) : Prop :=
  ∃ s b, s.block? i = some b ∧ b.Threaded ∧ b.state ∈ Verb.configure.allowed ∧
    Leads i ⟨s, none⟩ x

/-- A call is refused: it changes nothing, and the error names it and the state in which it finds
the block, which is the present one unless the block fails before. -/
def Refuses (v : Verb) (i : Nat) (s : Network ω γ π) : Prop :=
  (call v i).Meets (Meanwhile i) (fun s t => t = s)
    (fun r t => ∃ found ∈ [s.stateOf i, .error], Refused v i found r t) s

/-- Another shutdown changes nothing, and waits for nothing. -/
structure Retired (i : Nat) (s : Network ω γ π) : Prop where
  meets : (shutdown i).Meets (Meanwhile i) (fun s t => t = s) (fun _ _ => True) s
  run : ∀ progress, (∀ ready t, ready t = true → progress ready t = t) →
    (shutdown i).run progress s = ((), s)

lemma Befalls.undergoes (h : Befalls i s t) : UndergoesAt i s t := by
  intro b hb
  rcases h with h | h
  · obtain ⟨b', hb', hdrift⟩ := h.drift.block i b hb
    obtain ⟨b'', hb'', hretains⟩ := h.retains.block i b hb
    obtain rfl : b' = b'' := by simpa [hb'] using hb''
    exact ⟨b', hb', hdrift, hretains⟩
  · exact ⟨b, h.trans hb, .refl b, .refl b⟩

lemma undergoes_of_meanwhile (h : Meanwhile i s t) : UndergoesAt i s t := by
  induction h with
  | refl => exact (interference_undergoesAt i).refl s
  | tail _ h ih => exact (interference_undergoesAt i).trans ih h.undergoes

/-! ### What each call keeps -/

/-- What one step of any call does to the state of its block. -/
def CallStep (i : Nat) (s t : Network ω γ π) : Prop :=
  ∃ before, StepAt (Block.Shifts before) i s t

/-- The block is a source or a sink and in none of these states. -/
def Outside (states : List BlockState) (b : Block γ π) : Prop := b.Threaded ∧ b.state ∉ states

/-- No call leads into these states, nor does a failure. -/
structure Avoided (states : List BlockState) : Prop where
  error : .error ∉ states
  ends : ∀ (v : Verb) (before : BlockState) (r : Result Unit) (after : BlockState),
    before ∉ states → before ∈ v.allowed → v.Ends before r after → after ∉ states
  rested : ∀ before : BlockState, before ∉ states → before.rested ∉ states

lemma BlockState.rested_not_mem {states : List BlockState} {before : BlockState}
    (h : before ∉ states) (hstopped : .stopped ∉ states) : before.rested ∉ states := by
  unfold BlockState.rested
  split <;> assumption

/-- Between two calls a block is neither starting nor stopping. -/
lemma avoided_halfway : Avoided [.starting, .stopping] where
  error := by simp
  ends v before r after hbefore _ hends := by cases hends <;> simp_all
  rested before h := BlockState.rested_not_mem h (by simp)

/-- A block that was started once cannot be configured again. -/
lemma avoided_unused : Avoided Verb.configure.allowed where
  error := Verb.error_not_allowed _
  ends v before r after hbefore hallowed hends := by
    cases hends <;> simp_all [Verb.allowed]
  rested before h := BlockState.rested_not_mem h (by simp [Verb.allowed])

variable {states : List BlockState}

omit [Generator γ] [Processor ω π] in
lemma Avoided.stable (h : Avoided states) : Block.Stable (Outside (γ := γ) (π := π) states) :=
  Block.stable_threaded.and fun _ _ hdrift hb => hdrift.keeps (S := (· ∉ states)) h.error hb

omit [Generator γ] [Processor ω π] in
lemma Avoided.stands (h : Avoided states) {state : BlockState} (hstate : state ∉ states)
    (hs : At i (Block.Stands state) s) : At i (Outside states) s :=
  hs.mono fun _ hb => ⟨hb.threaded, hb.not_mem hstate h.error⟩

/-- Each call leads from a state that is not among these to another such state. -/
lemma BlockCall.meets (h : Avoided states) {op : Operation ω γ π Unit} (hop : BlockCall i op)
    (hs : At i (Outside states) s) :
    op.Meets (DriftAt i) (CallStep i) (fun _ => At i (Outside states)) s := by
  obtain ⟨b, hb, hthreaded, hstate⟩ := hs
  have hat : At i (Block.Stands b.state) s := ⟨b, hb, hthreaded.stands⟩
  cases hop with
  | shutdown =>
    exact (shutdown_stands hat).mono (fun _ _ => id) (fun _ _ hst => ⟨_, hst⟩)
      fun _ _ ht => h.stands (h.rested _ hstate) ht
  | call v =>
    have hlast {t : Network ω γ π} (ht : At i (Outside states) t) :
        (pure () : Operation ω γ π Unit).Meets (DriftAt i) (CallStep i)
          (fun _ => At i (Outside states)) t :=
      fun u hu => ht.later h.stable hu
    by_cases hallowed : b.state ∈ v.allowed
    · refine .bind (interference_driftAt i) ((call_outcome hat hallowed).mono (fun _ _ => id)
        (fun _ _ hst => ⟨_, hst⟩) fun r t ht => hlast ?_)
      rcases ht with ⟨after, hafter, ht⟩ | hrefused
      · exact h.stands (h.ends v _ r after hstate hallowed hafter) ht
      · exact h.stands h.error hrefused.block
    · refine .bind (interference_driftAt i) ((call_refused hat hallowed).mono (fun _ _ => id)
        (fun _ t hst => ⟨b.state, hst ▸ .refl _⟩) fun r t ht => hlast ?_)
      obtain ⟨found, hfound, hrefused⟩ := ht
      refine h.stands ?_ hrefused.block
      simp only [List.mem_cons, List.not_mem_nil, or_false] at hfound
      rcases hfound with rfl | rfl
      · exact hstate
      · exact h.error

/-! ### What each run keeps -/

/-- The call that is under way will leave the block outside these states. -/
abbrev Bound (i : Nat) (states : List BlockState) : Scene (Network ω γ π) → Prop :=
  Scene.Sound (DriftAt i) (CallStep i) (At i (Outside states))

lemma Bound.step (h : Avoided states) (hx : Bound i states x)
    (hxy : Scene.Step (Befalls i) (BlockCall i) x y) : Bound i states y ∧
      (Befalls i x.state y.state ∨ CallStep i x.state y.state ∨ y.state = x.state) :=
  hxy.sound (interference_driftAt i) (fun _ _ hst => hst.undergoes.drift)
    (fun _ _ hst hs => hs.later h.stable hst) (fun _ hop _ hs => hop.meets h hs) hx

lemma Bound.leads (h : Avoided states) (hx : Bound i states x) (hxy : Leads i x y) :
    Bound i states y := by
  induction hxy with
  | refl => exact hx
  | tail _ hstep ih => exact (ih.step h hstep).1

/-- A block that has failed stays so along each run. -/
lemma Bound.failed (h : Avoided states) (hx : Bound i states x) (hxy : Leads i x y)
    (hfailed : At i (fun b => b.state = .error) x.state) :
    At i (fun b => b.state = .error) y.state := by
  induction hxy with
  | refl => exact hfailed
  | @tail y z hxy hstep ih =>
    rcases ((hx.leads h hxy).step h hstep).2 with hbefalls | ⟨before, hst⟩ | heq
    · have hstable : Block.Stable fun b : Block γ π => b.state = .error :=
        fun _ _ hdrift hb => hdrift.keeps (S := (· = .error)) rfl hb
      exact ih.later hstable hbefalls.undergoes.drift
    · refine hst.keep (fun b b' hshifts hb => ?_) ih
      rcases hshifts with hsame | hmoves
      · exact hsame.trans hb
      · rw [hb] at hmoves
        exact absurd hmoves BlockState.not_moves_error
    · rw [heq]
      exact ih

lemma BlockRun.bound (h : BlockRun i x) : Bound i [.starting, .stopping] x := by
  obtain ⟨s, b, hb, hthreaded, hstate, hleads⟩ := h
  refine Bound.leads avoided_halfway (x := ⟨s, none⟩) ⟨b, hb, hthreaded, ?_⟩ hleads
  simp only [Verb.allowed, List.mem_cons, List.not_mem_nil, or_false] at hstate
  rcases hstate with h | h <;> simp [h]

/-! ### Refusals and shutdowns -/

lemma refuses_of_outside {v : Verb} (hs : At i (Outside v.allowed) s) : Refuses v i s := by
  obtain ⟨b, hb, hthreaded, hstate⟩ := hs
  have hat : At i (Block.Stands b.state) s := ⟨b, hb, hthreaded.stands⟩
  have hfound : s.stateOf i = b.state := by simp [stateOf, hb]
  rw [Refuses, hfound]
  exact (call_refused hat hstate).mono (fun _ _ hst => (undergoes_of_meanwhile hst).drift)
    (fun _ _ => id) fun _ _ => id

lemma retired_of_spent (hs : At i Block.Spent s) : Retired i s where
  meets := (shutdown_idles hs).mono (fun _ _ => undergoes_of_meanwhile) (fun _ _ => id)
    fun _ _ _ => trivial
  run := run_shutdown_of_spent hs

/-- Shut down, a block is at rest or has failed, and there is nothing left to shut down. -/
lemma shutdown_retires {b : Block γ π} (hs : At i (Block.Stands b.state) s)
    (hthreaded : At i Block.Threaded s) :
    (shutdown i).Meets (Meanwhile i) (fun _ _ => True)
      (fun _ t => At i (Block.Stands b.state.rested) t ∧ Retired i t) s := by
  have hstands := (shutdown_stands hs).mono (fun _ _ (hst : UndergoesAt i _ _) => hst.drift)
    (fun _ _ => id) (fun _ _ => id)
  exact (hstands.and (shutdown_spends hthreaded)).mono (fun _ _ => undergoes_of_meanwhile)
    (fun _ _ _ => trivial) fun _ _ ht => ⟨ht.1, retired_of_spent ht.2⟩

/-! ### Which calls a block accepts -/

/-- The block was started once: it is not configured again, whatever is called on it. -/
def Committed (i : Nat) (s : Network ω γ π) : Prop :=
  ∀ t, Leads i ⟨s, none⟩ ⟨t, none⟩ → Refuses .configure i t

lemma committed_of_started (hs : At i (Block.Stands .running) s) : Committed i s := by
  intro t ht
  have hbound : Bound i Verb.configure.allowed (⟨s, none⟩ : Scene (Network ω γ π)) :=
    avoided_unused.stands (by simp [Verb.allowed]) hs
  exact refuses_of_outside (hbound.leads avoided_unused ht)

/-- What a call comes to that the state of the block allows. -/
lemma call_accepted {v : Verb} {before : BlockState} (hs : At i (Block.Stands before) s)
    (hallowed : before ∈ v.allowed) :
    (call v i).Meets (Meanwhile i) (fun _ _ => True)
      (fun r t => Outcome v i before r t ∧ (v = .start → r = .ok () → Committed i t)) s := by
  refine (call_outcome hs hallowed).mono (fun _ _ hst => (undergoes_of_meanwhile hst).drift)
    (fun _ _ _ => trivial) fun r t ht => ⟨ht, ?_⟩
  rintro rfl rfl
  rcases ht with ⟨after, hends, hat⟩ | hrefused
  · cases hends
    exact committed_of_started hat
  · cases hrefused.result

/-- The lifecycle of a block. Along each run a block that has failed stays so. Between two calls it
is neither starting nor stopping, and a call that its state does not allow is refused, and changes
nothing. One that its state allows is accepted and ends as it should, unless the block fails before;
once a start has succeeded, no configuration is accepted any more. A shutdown is accepted in each
state, and a second one changes nothing. -/
theorem lifecycle_legal (h : BlockRun i x) :
    (At i (fun b => b.state = .error) x.state →
      ∀ y, Leads i x y → At i (fun b => b.state = .error) y.state) ∧
    (x.call = none → ∃ b, x.state.block? i = some b ∧ b.state ∉ [.starting, .stopping] ∧
      (∀ v : Verb, b.state ∉ v.allowed → Refuses v i x.state) ∧
      (∀ v : Verb, b.state ∈ v.allowed → (call v i).Meets (Meanwhile i) (fun _ _ => True)
        (fun r t => Outcome v i b.state r t ∧ (v = .start → r = .ok () → Committed i t)) x.state) ∧
      (shutdown i).Meets (Meanwhile i) (fun _ _ => True)
        (fun _ t => At i (Block.Stands b.state.rested) t ∧ Retired i t) x.state) := by
  have hbound := h.bound
  refine ⟨fun hfailed y hxy => hbound.failed avoided_halfway hxy hfailed, fun hcall => ?_⟩
  obtain ⟨s, call⟩ := x
  obtain rfl : call = none := hcall
  obtain ⟨b, hb, hthreaded, hstate⟩ := hbound
  have hat : At i (Block.Stands b.state) s := ⟨b, hb, hthreaded.stands⟩
  refine ⟨b, hb, hstate, fun v hv => ?_, fun v hv => call_accepted hat hv,
    shutdown_retires hat ⟨b, hb, hthreaded⟩⟩
  exact refuses_of_outside ⟨b, hb, hthreaded, hv⟩

/-- A network of one new sink. -/
def fresh : Network FileTree TestPattern Output where
  world := {}
  blocks := [.sink (.new "NullSink" (.discard {}))]

/-- The sink is configured and started, and fails: before that it is not started again, and
afterwards it stays so. -/
theorem lifecycle_legal_fresh : ∃ x y : Scene (Network FileTree TestPattern Output),
    BlockRun 0 x ∧ x.call = none ∧ x.state.stateOf 0 = .running ∧
      Refuses .configure 0 x.state ∧ Refuses .start 0 x.state ∧
    Leads 0 x y ∧ y.state.stateOf 0 = .error ∧
      ∀ z, Leads 0 y z → At 0 (fun b => b.state = .error) z.state := by
  have hnew : Leads 0 ⟨fresh, none⟩ ⟨fresh, none⟩ := .refl
  have hcall := ((hnew.tail (.call (.call .configure))).tail .act).tail .act
  have hconfigured := hcall.tail .ret
  have hlook := ((hconfigured.tail (.call (.call .start))).tail .act).tail .act
  have hstarted := (((hlook.tail .act).tail .act).tail .act).tail .ret
  have hrun : BlockRun 0 _ := ⟨fresh, _, rfl, trivial, by decide, hstarted⟩
  have hfail : Leads 0 _ _ := hstarted.tail (.other (.inl (.inr (.fail 0 "lost"))))
  have hfailed : BlockRun 0 _ := ⟨fresh, _, rfl, trivial, by decide, hfail⟩
  obtain ⟨b, hb, -, hrefuses, -⟩ := (lifecycle_legal hrun).2 rfl
  cases hb
  exact ⟨_, _, hrun, rfl, rfl, hrefuses .configure (by decide), hrefuses .start (by decide),
    .single (.other (.inl (.inr (.fail 0 "lost")))), rfl, (lifecycle_legal hfailed).1 ⟨_, rfl, rfl⟩⟩

end FrameGraph.Network
