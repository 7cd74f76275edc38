import FrameGraph.Proofs.Sink.Tally
import FrameGraph.Proofs.Sink.Waking

/-!
# Sessions of a sink

A sink that was stopped may be started again. While the stop flag is set no frame enters the queue,
and every producer that looks at it is sent away, wherever it was when the flag was set. Only a
start clears the flag; a producer that comes to look after that is treated like any other.
-/

namespace FrameGraph

/-- What becomes of a sink in one step while the stop flag is set: the queue stays as it is or is
emptied, and offers leave it one at a time, with nothing else changed. -/
structure SinkEngine.Subsides (i : Nat) (e e' : SinkEngine) : Prop where
  stopping : e'.stopping = true
  queue : e'.queue = e.queue ∨ e'.queue = []
  pending : ∀ o ∈ e.pending, o ∈ e'.pending ∨ ∃ m, e.Picks i m o e'

namespace SinkEngine

variable {e e' : SinkEngine} {o : Offer} {i j : Nat} {m : Move}

lemma subsides_of_pending (hstop : e'.stopping = true)
    (hqueue : e'.queue = e.queue ∨ e'.queue = []) (hpending : e'.pending = e.pending) :
    e.Subsides i e' :=
  ⟨hstop, hqueue, fun _ ho => .inl (hpending ▸ ho)⟩

lemma Picks.subsides (h : e.Picks j m o e') (hstop : e.stopping = true) : e.Subsides i e' := by
  have hpending {o' : Offer} (ho' : o' ∈ e.pending) : o' = o ∨ o' ∈ e'.pending :=
    List.mem_cons.1 (h.pending.subset ho')
  constructor
  · cases h <;> exact hstop
  · cases h <;> exact .inl rfl
  · intro o' ho'
    rcases hpending ho' with rfl | ho'
    · refine .inr ?_
      cases h with
      | arrives k hk => exact ⟨_, .arrives k hk⟩
      | returns k hk => exact ⟨_, .returns k hk⟩
    · exact .inl ho'

lemma finish_queue (f : Frame) (outcome : Result Unit) (now : Nat) :
    (e.finish f outcome now).2.queue = e.queue ∧
      (e.finish f outcome now).2.pending = e.pending := by
  match outcome with
  | .ok () =>
    simp only [finish]
    split <;> exact ⟨rfl, rfl⟩
  | .error (.error _) => exact ⟨rfl, rfl⟩
  | .error (.panic _) => exact ⟨rfl, rfl⟩

/-- While the stop flag is set a sink subsides, unless a start clears the flag. -/
theorem Turn.subsides (hturn : e.Turn e') (h : e.stopping = true) :
    e.Subsides i e' ∨ e' = e.arm := by
  cases hturn with
  | rests => exact .inl (subsides_of_pending h (.inl rfl) rfl)
  | approaches o =>
    refine .inl ⟨h, .inl rfl, fun o' ho' => .inl ?_⟩
    exact (e.pending_approach o).symm.subset (List.mem_cons_of_mem o ho')
  | @looks j m o e' hpick =>
    have hstop : e'.stopping = true := (hpick.subsides (i := i) h).stopping
    rw [consider_of_stopping hstop]
    exact .inl (hpick.subsides h)
  | seeks _ =>
    rw [seek_of_stopping h]
    exact .inl (subsides_of_pending h (.inl rfl) rfl)
  | begins _ =>
    simp only [begin]
    split <;> exact .inl (subsides_of_pending h (.inl rfl) rfl)
  | @finishes f hworker outcome now =>
    obtain ⟨hqueue, hpending⟩ := e.finish_queue f outcome now
    have hstop := (drift_finish hworker outcome now).stopping.trans h
    exact .inl (subsides_of_pending hstop (.inl hqueue) hpending)
  | setMaxDepth depth =>
    have hpending := e.pending_setMaxDepth depth
    revert hpending
    simp only [SinkEngine.setMaxDepth]
    split <;> exact fun hpending => .inl (subsides_of_pending h (.inl rfl) hpending)
  | setPolicy policy =>
    exact .inl (subsides_of_pending h (.inl rfl) (e.pending_setPolicy policy))
  | fails message => exact .inl (subsides_of_pending h (.inl rfl) rfl)
  | unheard => exact .inl (subsides_of_pending h (.inl rfl) rfl)
  | opens hopens =>
    cases hopens with
    | arms _ => exact .inr rfl
    | _ => exact .inl (subsides_of_pending h (.inl rfl) rfl)
  | closes hcloses =>
    cases hcloses with
    | halts =>
      refine .inl (subsides_of_pending ?_ (.inl ?_) ?_)
      · simp [halt, notifyProducers]
      · simp [halt, notifyProducers]
      · exact (pending_notifyProducers _).trans (pending_wakeWorker _)
    | discards _ _ => exact .inl (subsides_of_pending h (.inr rfl) rfl)
    | _ => exact .inl (subsides_of_pending h (.inl rfl) rfl)

end SinkEngine

namespace Network

variable {ω γ π : Type} [Generator γ] [Processor ω π] {s t : Network ω γ π} {i : Nat}
  {x z : Scene (Network ω γ π)}

/-! ### Until the next start -/

/-- The stop flag of a sink is set. -/
def Halted (i : Nat) : Network ω γ π → Prop :=
  At i (Block.IsSink fun e => e.stopping = true)

/-- One thing leads to another around a sink, and no start clears the stop flag meanwhile. -/
abbrev HaltedLeads (i : Nat) : Scene (Network ω γ π) → Scene (Network ω γ π) → Prop :=
  Relation.ReflTransGen fun x z => SinkStep i x z ∧ Halted i z.state

lemma leads_of_haltedLeads (h : HaltedLeads i x z) : SinkLeads i x z :=
  Relation.ReflTransGen.mono (fun _ _ hstep => hstep.1) _ _ h

/-- A producer that looks at the queue while the stop flag is set is told so, and its reference to
the frame is released. -/
lemma perform_of_stopping {y : SinkBlock π} {m : Move} {o : Offer} {e : SinkEngine}
    (hy : s.sink? i = some y) (hstop : y.engine.stopping = true) (hpick : y.engine.Picks i m o e)
    (hm : s.perform m = some t) :
    t = ((s.setSink i { y with engine := e }).release o.frame).answer o.producer
      (.error (.rejected "sink is stopping")) := by
  have hlook (e' : SinkEngine) (he' : e'.stopping = true) :
      s.look i { y with engine := e' } o
        = ((s.setSink i { y with engine := e' }).release o.frame).answer o.producer
          (.error (.rejected "sink is stopping")) := by
    simp only [look, SinkEngine.consider_of_stopping he']
  cases hpick with
  | arrives k h =>
    simp only [perform, moveArrival, hy, h, Option.some.injEq] at hm
    rw [← hm]
    exact hlook _ hstop
  | returns k h =>
    simp only [perform, moveRetry, hy, h, Option.some.injEq] at hm
    rw [← hm]
    exact hlook _ hstop

/-- On the way from one scene to another the producer of an offer looked at the queue, which only
took its offer off the list: it was refused. -/
def Dismissed (i : Nat) (o : Offer) (x z : Scene (Network ω γ π)) : Prop :=
  ∃ u v y y' m, HaltedLeads i x u ∧ SinkStep i u v ∧ HaltedLeads i v z ∧
    u.state.sink? i = some y ∧ v.state.sink? i = some y' ∧ y.engine.Picks i m o y'.engine

/-- What becomes of a sink while its stop flag is set. -/
structure Recedes (i : Nat) (x z : Scene (Network ω γ π)) (y y' : SinkBlock π) : Prop where
  stopping : y'.engine.stopping = true
  queue : y'.engine.queue = y.engine.queue ∨ y'.engine.queue = []
  pending : ∀ o ∈ y.engine.pending, o ∈ y'.engine.pending ∨ Dismissed i o x z

lemma Dismissed.step {u : Scene (Network ω γ π)} {o : Offer} (h : Dismissed i o x u)
    (hstep : SinkStep i u z ∧ Halted i z.state) : Dismissed i o x z := by
  obtain ⟨u', v, y, y', m, hxu, huv, hvu, hrest⟩ := h
  exact ⟨u', v, y, y', m, hxu, huv, hvu.tail hstep, hrest⟩

/-- One more step while the stop flag is set. -/
lemma Recedes.step {u : Scene (Network ω γ π)} {y y' : SinkBlock π} (h : Recedes i x u y y')
    (hsound : SinkSound i u) (hxu : HaltedLeads i x u) (hy' : u.state.sink? i = some y')
    (hstep : SinkStep i u z ∧ Halted i z.state) :
    ∃ y'', z.state.sink? i = some y'' ∧ Recedes i x z y y'' := by
  obtain ⟨y'', hy'', hturn⟩ := (hsound.step hstep.1).2 y' (sink?_eq_some.1 hy')
  have hstop : y''.engine.stopping = true := by
    obtain ⟨b, hb, hstop⟩ := hstep.2
    obtain rfl : b = .sink y'' := by simpa [hy''] using hb.symm
    exact hstop
  rw [← sink?_eq_some] at hy''
  refine ⟨y'', hy'', ?_⟩
  rcases hturn.subsides (i := i) h.stopping with hsubsides | harm
  · refine ⟨hstop, ?_, fun o ho => ?_⟩
    · rcases hsubsides.queue with hsame | hempty
      · rw [hsame]
        exact h.queue
      · exact .inr hempty
    · rcases h.pending o ho with ho' | hdismissed
      · refine (hsubsides.pending o ho').imp_right ?_
        rintro ⟨m, hpick⟩
        exact ⟨u, z, y', y'', m, hxu, hstep.1, .refl, hy', hy'', hpick⟩
      · exact .inr (hdismissed.step hstep)
  · simp [harm, SinkEngine.arm] at hstop

lemma recedes_of_haltedLeads (h : SinkSound i x) (hx : Halted i x.state)
    (hxz : HaltedLeads i x z) :
    ∃ y y', x.state.sink? i = some y ∧ z.state.sink? i = some y' ∧ Recedes i x z y y' := by
  obtain ⟨b, hb, hstop⟩ := hx
  obtain ⟨y, rfl, hstop⟩ := Block.isSink_iff.1 hstop
  rw [← sink?_eq_some] at hb
  induction hxz with
  | refl => exact ⟨y, y, hb, hb, hstop, .inl rfl, fun _ => .inl⟩
  | tail hleads hstep ih =>
    obtain ⟨y₀, y', hy₀, hy', hrecedes⟩ := ih
    have hsound := h.leads (leads_of_haltedLeads hleads)
    obtain ⟨y'', hy'', hrecedes'⟩ := hrecedes.step hsound hleads hy' hstep
    exact ⟨y₀, y'', hy₀, hy'', hrecedes'⟩

/-- Along a run of a sink, a step of a call sets the stop flag. -/
structure Halts (i : Nat) (w x : Scene (Network ω γ π)) (y : SinkBlock π) : Prop where
  run : QueueRun i w
  step : SinkStep i w x
  before : w.state.sink? i = some y
  after : x.state.sink? i = some { y with engine := y.engine.halt }

lemma Halts.of_act {y : SinkBlock π} {step : Network ω γ π → Network ω γ π}
    {next : Network ω γ π → Operation ω γ π Unit}
    (h : QueueRun i ⟨s, some (.act step next)⟩) (hy : s.sink? i = some y)
    (hstep : (step s).sink? i = some { y with engine := y.engine.halt }) :
    Halts i ⟨s, some (.act step next)⟩ ⟨step s, some (next s)⟩ y :=
  ⟨h, .act, hy, hstep⟩

lemma Halts.move {y : SinkBlock π} {w : Scene (Network ω γ π)}
    {call : Option (Operation ω γ π Unit)} (_ : Halts i w ⟨s, call⟩ y) (m : Move)
    (hm : s.perform m = some t) (ht : Halted i t) : HaltedLeads i ⟨s, call⟩ ⟨t, call⟩ :=
  .single ⟨sinkStep_move m hm, ht⟩

/-- From the moment the stop flag is set until a start clears it, nobody waits for room and no frame
enters the queue. Every producer that looks at it is told that the sink is stopping, and its
reference to the frame is released. This is what becomes of all who waited when the flag was set, of
those who had been notified before, and of those who had passed the first checks, unless they have
not looked yet. -/
theorem refused_until_restart {y : SinkBlock π} {w : Scene (Network ω γ π)} (h : Halts i w x y)
    (hxz : HaltedLeads i x z) :
    ∃ y', z.state.sink? i = some y' ∧ y'.engine.stopping = true ∧ y'.engine.waiting = [] ∧
      (y'.engine.queue = y.engine.queue ∨ y'.engine.queue = []) ∧
      (∀ o ∈ y.engine.pending, o ∈ y'.engine.pending ∨ Dismissed i o x z) ∧
      ∀ m o e t, y'.engine.Picks i m o e → z.state.perform m = some t →
        t = ((z.state.setSink i { y' with engine := e }).release o.frame).answer o.producer
          (.error (.rejected "sink is stopping")) := by
  have hrun : QueueRun i x := h.run.leads (.single h.step)
  have hstop : y.engine.halt.stopping = true := by
    simp [SinkEngine.halt, SinkEngine.notifyProducers]
  have hqueue : y.engine.halt.queue = y.engine.queue := by
    simp [SinkEngine.halt, SinkEngine.notifyProducers]
  have hpending : y.engine.halt.pending = y.engine.pending :=
    (SinkEngine.pending_notifyProducers _).trans (SinkEngine.pending_wakeWorker _)
  obtain ⟨y₀, y', hy₀, hy', hrecedes⟩ :=
    recedes_of_haltedLeads hrun.sound ⟨_, sink?_eq_some.1 h.after, hstop⟩ hxz
  obtain rfl : { y with engine := y.engine.halt } = y₀ := by simpa [h.after] using hy₀
  obtain ⟨z', hz', halert⟩ := (hrun.leads (leads_of_haltedLeads hxz)).alert
  obtain rfl : y' = z' := by simpa [hy'] using hz'
  refine ⟨y', hy', hrecedes.stopping, halert.released (.inl hrecedes.stopping), ?_, ?_, ?_⟩
  · rw [← hqueue]
    exact hrecedes.queue
  · rw [← hpending]
    exact hrecedes.pending
  · intro m o e t hpick hm
    exact perform_of_stopping hy' hrecedes.stopping hpick hm

/-- The producer that waited when `crowded` is stopped looks at once, and is refused. -/
theorem refused_until_restart_crowded :
    ∃ (w x z : Scene (Network FileTree TestPattern Output)) (y : _) (o : Offer),
      Halts 0 w x y ∧ o ∈ y.engine.waiting ∧ HaltedLeads 0 x z ∧ Dismissed 0 o x z ∧
        z.state.answers
          = [some (.ok ()), some (.ok ()), some (.error (.rejected "sink is stopping"))] := by
  have hcrowded : SinkLeads 0 ⟨crowded, none⟩ ⟨crowded, none⟩ := .refl
  have hcall := ((hcrowded.tail (.call .stop)).tail .act).tail .act
  have hhalts := Halts.of_act (queueRun_crowded.leads hcall) rfl rfl
  have hlook := hhalts.move (.retry 0 0) rfl ⟨_, rfl, rfl⟩
  obtain ⟨y', hy', -, -, -, hpending, -⟩ := refused_until_restart hhalts hlook
  refine ⟨_, _, _, _, ⟨.caller 2, ⟨2, speck 3⟩⟩, hhalts, by decide, hlook, ?_, rfl⟩
  cases hy'
  exact (hpending ⟨.caller 2, ⟨2, speck 3⟩⟩ (by decide)).resolve_left (by decide)

/-! ### After the next start -/

/-- From here on an offer is refused whenever its producer looks at the queue. -/
def Doomed (i : Nat) (o : Offer) (x : Scene (Network ω γ π)) : Prop :=
  ∀ z, SinkLeads i x z → ∀ y m e, z.state.sink? i = some y → y.engine.Picks i m o e →
    ∃ r, (e.consider o).1 = .refused r

lemma Doomed.step {o : Offer} (h : Doomed i o x) (hxz : SinkStep i x z) : Doomed i o z :=
  fun _ hz => h _ (.head hxz hz)

/-- A sink is stopped while a producer waits for room and another one has passed the first checks.
Neither of them looks at the queue before the sink is started again: both are accepted. -/
lemma halts_crowded : ∃ (w x : Scene (Network FileTree TestPattern Output)) (y : _) (o p : Offer),
    Halts 0 w x y ∧ o ∈ y.engine.waiting ∧ p ∈ y.engine.approaching ∧
      ∀ q, Doomed 0 q x → q ≠ o ∧ q ≠ p := by
  have hcrowded : SinkLeads 0 ⟨crowded, none⟩ ⟨crowded, none⟩ := .refl
  have hoffered := hcrowded.tail (sinkStep_intervention (.offer 0 (speck 4)))
  have hcall := ((hoffered.tail (.call .stop)).tail .act).tail .act
  have hhalts := Halts.of_act (queueRun_crowded.leads hcall) rfl rfl
  refine ⟨_, _, _, ⟨.caller 2, ⟨2, speck 3⟩⟩, ⟨.caller 3, ⟨3, speck 4⟩⟩, hhalts, by decide,
    by decide, fun q hdoomed => ?_⟩
  have hended := ((hdoomed.step (sinkStep_move (.worker 0) rfl)).step
    (sinkStep_move (.worker 0) rfl)).step (sinkStep_move (.worker 0) rfl)
  have hstopped := ((((hended.step (.await rfl)).step .act).step .act).step .act).step .ret
  have hlook := ((hstopped.step (.call .start)).step .act).step .act
  have hrestarted := (((hlook.step .act).step .act).step .act).step .ret
  constructor
  · rintro rfl
    obtain ⟨r, hr⟩ := hrestarted _ .refl _ (.retry 0 0) _ rfl (.returns 0 rfl)
    cases hr
  · rintro rfl
    obtain ⟨r, hr⟩ := hrestarted _ .refl _ (.arrive 0 0) _ rfl (.arrives 0 rfl)
    cases hr

/-- It is not so that each producer that waited when the sink was stopped is refused, and not so
that each one is that had passed the first checks: the next start may come before they look. -/
theorem not_doomed_crowded :
    (¬∀ (w x : Scene (Network FileTree TestPattern Output)) y, Halts 0 w x y →
      ∀ o ∈ y.engine.waiting, Doomed 0 o x) ∧
    ¬∀ (w x : Scene (Network FileTree TestPattern Output)) y, Halts 0 w x y →
      ∀ o ∈ y.engine.approaching, Doomed 0 o x := by
  obtain ⟨w, x, y, o, p, hhalts, ho, hp, hnot⟩ := halts_crowded
  exact ⟨fun h => (hnot o (h w x y hhalts o ho)).1 rfl,
    fun h => (hnot p (h w x y hhalts p hp)).2 rfl⟩

end Network

end FrameGraph
