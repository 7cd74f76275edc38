import FrameGraph.Proofs.Network.Reports

/-!
# The chronicle of failures

Each step either changes no failure and is not heard, or makes one block fail that had not failed,
and is heard. What was heard is therefore a chronicle: each block that has failed occurs in it once,
with its name and its error, and no other block does.
-/

namespace FrameGraph

namespace Network

variable {ω γ π : Type} {s t u : Network ω γ π} {i : Nat} {b b' : Block γ π} {message : String}
  {r : String × String} {log : List Nat}

/-- The name and the error of the block at a position, if it has failed. -/
def failure? (s : Network ω γ π) (i : Nat) : Option (String × String) :=
  (s.block? i).bind Block.failure?

/-- No failure changes and nothing is heard, or one block fails that had not failed, and this is
heard. -/
inductive Announces (s t : Network ω γ π) : Prop
  | silent (hheard : t.heard = s.heard) (hfailures : t.failure? = s.failure?)
  | speaks (i : Nat) (r : String × String) (hbefore : s.failure? i = none)
    (hafter : t.failure? i = some r) (hothers : ∀ j, j ≠ i → t.failure? j = s.failure? j)
    (hheard : t.heard = s.heard ++ [r])

/-- What was heard is of the blocks at these positions, in this order. -/
structure Chronicle (s : Network ω γ π) (log : List Nat) : Prop where
  once : log.Nodup
  failed : ∀ i, i ∈ log ↔ (s.failure? i).isSome = true
  heard : s.heard.map some = log.map s.failure?

/-! ### Chronicles -/

lemma failure?_of_block? (hb : s.block? i = some b) : s.failure? i = b.failure? := by
  rw [failure?, hb, Option.bind_some]

/-- A failure is not undone. -/
lemma Announces.lasting (h : s.Announces t) (hi : s.failure? i = some r) :
    t.failure? i = some r := by
  cases h with
  | silent hheard hfailures => rw [hfailures, hi]
  | speaks j _ hbefore hafter hothers hheard =>
    have hij : i ≠ j := by
      rintro rfl
      simp [hi] at hbefore
    rw [hothers i hij, hi]

/-- A step that announces itself continues the chronicle. -/
theorem Chronicle.announces (h : s.Chronicle log) (hst : s.Announces t) :
    ∃ more, t.Chronicle (log ++ more) := by
  cases hst with
  | silent hheard hfailures =>
    refine ⟨[], ?_⟩
    rw [List.append_nil]
    exact ⟨h.once, by simpa [hfailures] using h.failed, by rw [hheard, hfailures, h.heard]⟩
  | speaks i r hbefore hafter hothers hheard =>
    have hnew : i ∉ log := by simp [h.failed, hbefore]
    have hlog : log.map t.failure? = log.map s.failure? :=
      List.map_congr_left fun j hj => hothers j fun hji => hnew (hji ▸ hj)
    refine ⟨[i], ?_, fun j => ?_, ?_⟩
    · exact List.nodup_append.2 ⟨h.once, by simp, by
        rintro j hj k hk rfl
        exact hnew (List.mem_singleton.1 hk ▸ hj)⟩
    · by_cases hji : j = i
      · simp [hji, hafter]
      · simp [hji, h.failed, hothers j hji]
    · simp [hheard, h.heard, hlog, hafter]

/-! ### Reports -/

/-- Someone listens to the network, and to each block that has a thread. -/
structure Watched (s : Network ω γ π) : Prop where
  listening : s.listening = true
  blocks : s.All fun _ b => b.Watched

/-- As long as the network is watched, a step announces itself. -/
def Reports (s t : Network ω γ π) : Prop := s.Watched → t.Watched ∧ s.Announces t

lemma failure?_of_each (h : s.Each (fun _ b b' => b'.failure? = b.failure?) t) :
    t.failure? = s.failure? := by
  funext i
  cases hb : s.block? i with
  | none => rw [failure?, failure?, hb, h.none hb]
  | some b =>
    obtain ⟨b', hb', hfailure⟩ := h.block i b hb
    rw [failure?_of_block? hb, failure?_of_block? hb', hfailure]

lemma reports_of_each (hheard : t.heard = s.heard) (hlistening : t.listening = s.listening)
    (h : s.Each (fun _ b b' => b'.failure? = b.failure? ∧ (b.Watched → b'.Watched)) t) :
    s.Reports t := by
  refine fun hs => ⟨⟨hlistening.trans hs.listening, fun i b' hb' => ?_⟩, .silent hheard ?_⟩
  · obtain ⟨b, hb, -, hwatched⟩ := h.source hb'
    exact hwatched (hs.blocks i b hb)
  · exact failure?_of_each (h.mono fun _ _ _ h => h.1)

/-- A block is added that has not failed. -/
lemma reports_of_append (hheard : t.heard = s.heard) (hlistening : t.listening = s.listening)
    (hblocks : t.blocks = s.blocks ++ [b]) (hfailure : b.failure? = none) (hb : b.Watched) :
    s.Reports t := by
  refine fun hs => ⟨⟨hlistening.trans hs.listening, hs.blocks.append hb hblocks⟩,
    .silent hheard ?_⟩
  funext i
  rw [failure?, failure?, block?_of_append hblocks]
  split_ifs with hi
  · have hnone : s.block? i = none := List.getElem?_eq_none (Nat.le_of_eq hi.symm)
    rw [hnone, Option.bind_some, Option.bind_none, hfailure]
  · rfl

/-- A block fails that is listened to and has not failed. -/
lemma reports_of_fail (hb : s.block? i = some b) (hblocks : t.blocks = s.blocks.set i b')
    (hbefore : b.Watched → b.failure? = none) (hlistener : b.Watched → b.IsHeard)
    (hwatched : b.Watched → b'.Watched) (hafter : b'.failure? = some (b.name, message))
    (hheard : t.heard = (s.hear (b.core.fail message).2).heard)
    (hlistening : t.listening = s.listening) : s.Reports t := by
  intro hs
  have hbs : b.Watched := hs.blocks i b hb
  have hb' : t.block? i = some b' := block?_of_set_self hblocks hb
  refine ⟨⟨hlistening.trans hs.listening, ?_⟩,
    .speaks i (b.name, message) ?_ ?_ (fun j hji => ?_) ?_⟩
  · exact fun j c' hc' => by
      rw [block?_of_set hblocks hb] at hc'
      split at hc'
      · cases hc'
        exact hwatched hbs
      · exact hs.blocks j c' hc'
  · exact (failure?_of_block? hb).trans (hbefore hbs)
  · exact (failure?_of_block? hb').trans hafter
  · rw [failure?, failure?, block?_of_set_ne hblocks (Ne.symm hji)]
  · obtain ⟨listener, hl⟩ := Option.isSome_iff_exists.1 (hlistener hbs)
    rw [hheard, heard_hear, hs.listening]
    simp [BlockCore.fail, hl, Block.name]

lemma Calm.failure? (h : s.Calm t) : t.failure? = s.failure? :=
  failure?_of_each (h.blocks.mono fun _ _ _ h => h.failure?)

lemma Calm.reports (h : s.Calm t) : s.Reports t :=
  reports_of_each h.heard h.listening (h.blocks.mono fun _ _ _ h => ⟨h.failure?, h.watched⟩)

lemma Fails.reports (h : Fails i s t) : s.Reports t := by
  cases h with
  | intro hb h hblocks hheard hlistening =>
    exact reports_of_fail hb hblocks h.fresh (fun hs => hs.listener h.work.hasThread) h.watched
      h.failure? hheard hlistening

/-- What threads, producers and time do announces itself. -/
theorem Proceeds.reports (h : s.Proceeds t) : s.Reports t := by
  rcases h with h | ⟨i, h⟩
  · exact h.reports
  · exact h.reports

lemma Proceeds.abides (h : s.Proceeds t) : s.Each (fun _ => Block.Abides) t := by
  rcases h with h | ⟨i, hb, h, hblocks, -, -⟩
  · exact h.blocks.mono fun _ _ _ => Block.Calm.abides
  · exact each_of_set hblocks hb h.abides fun _ => .refl

section Mute

variable {G : Block γ π → Block γ π → Prop}

lemma Mute.reports (h : Mute G i s t) (hG : ∀ b b', s.block? i = some b → G b b' →
    b'.failure? = b.failure? ∧ (b.Watched → b'.Watched)) : s.Reports t :=
  reports_of_each h.heard h.listening (h.step.each hG fun _ => ⟨rfl, id⟩)

lemma Mute.reports_of_persists (h : Mute Block.Persists i s t) : s.Reports t :=
  h.reports fun _ _ _ h => ⟨h.failure, h.watched⟩

lemma Mute.reports_of_eases (h : Mute Block.Eases i s t) : s.Reports t :=
  (h.mono fun _ _ h => h.toPersists).reports_of_persists

end Mute

end Network

/-! ### Configuring -/

/-- What becomes of a block that is configured, and what is reported of it. -/
inductive BlockCore.Configured (c : BlockCore) : Option Report → BlockCore → Prop
  | passes {c'} (h : c.Passes c') : Configured c none c'
  | fails (message : String) (h : c.state ≠ .error) :
    Configured c (c.fail message).2 (c.fail message).1

lemma BlockCore.Configured.listener {c c' : BlockCore} {report : Option Report}
    (h : c.Configured report c') : c'.listener = c.listener := by
  cases h with
  | passes h => exact h.listener
  | fails message _ => rfl

lemma Block.Configures.preserves {γ π : Type} {b b' : Block γ π} (h : b.Configures b')
    (hlistener : b'.core.listener = b.core.listener) : b.Preserves b' where
  listener := hlistener
  thread hb := by
    cases h with
    | source hthread _ _ _ => simpa [Block.hasThread, hthread] using hb
    | sink _ hworker _ _ _ _ _ => simpa [Block.hasThread, hworker] using hb
  threaded _ := h.threaded

lemma BlockCore.ne_error_of_configurable {c : BlockCore}
    (h : c.state ∈ [.uninitialized, .initialized]) : c.state ≠ .error := by
  intro heq
  simp [heq] at h

lemma SourceBlock.configured_configure {γ : Type} [Generator γ] (x : SourceBlock γ)
    (storage : Storage) :
    x.core.Configured (x.configure storage).2.2.2 (x.configure storage).2.1.core := by
  have hreads := x.applyParameters_reads storage
  simp only [configure, BlockCore.require]
  by_cases hstate : x.core.state ∈ [.uninitialized, .initialized]
  · rw [if_pos hstate]
    have herror := BlockCore.ne_error_of_configurable hstate
    dsimp only
    split
    all_goals
      rename_i x' _ heq
      rw [heq] at hreads
      have hcore : x'.core = x.core := hreads.core
    · rw [← hcore] at herror ⊢
      exact .passes (.enters herror (by simp))
    · rw [hcore]
      exact .fails _ herror
    · exact .passes (hcore ▸ .stays)
  · rw [if_neg hstate]
    exact .passes .stays

lemma SinkBlock.configured_configure {ω π : Type} [Processor ω π] (y : SinkBlock π) (world : ω) :
    y.core.Configured (y.configure world).2.2.2 (y.configure world).2.1.core := by
  have hreads := y.applyParameters_reads world
  simp only [configure, BlockCore.require]
  by_cases hstate : y.core.state ∈ [.uninitialized, .initialized]
  · rw [if_pos hstate]
    have herror := BlockCore.ne_error_of_configurable hstate
    dsimp only
    split
    all_goals
      rename_i y' _ heq
      rw [heq] at hreads
      have hcore : y'.core = y.core := hreads.core
    · rw [← hcore] at herror ⊢
      exact .passes (.enters herror (by simp))
    · rw [hcore]
      exact .fails _ herror
    · exact .passes (hcore ▸ .stays)
  · rw [if_neg hstate]
    exact .passes .stays

namespace Network

variable {ω γ π : Type} {s t : Network ω γ π} {i : Nat} {b b' : Block γ π}

/-- No thread is started and no listener changes. -/
abbrev Preserves (s t : Network ω γ π) : Prop := s.Each (fun _ => Block.Preserves) t

/-- A block without a thread that is listened to is configured. -/
lemma reports_of_configured {report : Option Report} (hb : s.block? i = some b) (hb' : b.Dormant)
    (hconfigures : b.Configures b') (h : b.core.Configured report b'.core)
    (hblocks : t.blocks = s.blocks.set i b') (hheard : t.heard = (s.hear report).heard)
    (hlistening : t.listening = s.listening) : s.Reports t ∧ s.Preserves t := by
  have hpreserves : b.Preserves b' := hconfigures.preserves h.listener
  refine ⟨?_, each_of_set hblocks hb hpreserves fun _ => .refl⟩
  have hwatched : b'.Watched := Block.watched_of_threadless (hpreserves.thread hb'.thread)
  generalize hcore : b'.core = core at h
  cases h with
  | passes hpasses =>
    rw [← hcore] at hpasses
    exact reports_of_each hheard hlistening (each_of_set hblocks hb
      ⟨Block.failure?_congr hpasses.name hpasses.error_iff hpasses.lastError, fun _ => hwatched⟩
      fun _ _ => ⟨rfl, id⟩)
  | fails message herror =>
    have hstate : b'.state = .error := congrArg BlockCore.state hcore
    have hname : b'.name = b.name := (congrArg BlockCore.name hcore).trans rfl
    have hmessage : b'.core.lastError = message := congrArg BlockCore.lastError hcore
    refine reports_of_fail hb hblocks (fun _ => Block.failure?_eq_none.2 herror)
      (fun _ => hb'.heard) (fun _ => hwatched) ?_ hheard hlistening
    rw [Block.failure?, if_pos hstate, hname, hmessage]

variable [Generator γ] [Processor ω π]

lemma configureEngine_reports (hs : At i (fun b => b.Threaded ∧ b.Dormant) s) :
    s.Reports (configureEngine i s).2 ∧ s.Preserves (configureEngine i s).2 := by
  obtain ⟨b, hb, hthreaded, hdormant⟩ := hs
  simp only [configureEngine, hb]
  cases b with
  | source x =>
    refine reports_of_configured hb hdormant (x.configures_configure s.storage)
      (x.configured_configure s.storage) (blocks_hear _) ?_ (listening_hear _ _)
    simp only [heard_hear]
    rfl
  | sink y =>
    refine reports_of_configured hb hdormant (y.configures_configure s.world)
      (y.configured_configure s.world) (blocks_hear _) ?_ (listening_hear _ _)
    simp only [heard_hear]
    rfl
  | stage z => exact absurd hthreaded id

/-- When a block is configured, its failure is heard. -/
theorem configure_reports (hs : At i (fun b => b.Threaded ∧ b.Dormant) s) :
    (configure i : Operation ω γ π (Result Unit)).Meets (AbidesAt i)
      (fun s t => s.Reports t ∧ s.Preserves t) (fun _ _ => True) s := by
  have hstable (b b' : Block γ π) (h : b.Abides b') (hb : b.Threaded ∧ b.Dormant) :
      b'.Threaded ∧ b'.Dormant :=
    ⟨h.threaded hb.1, Block.dormant_of_abides b b' h hb.2⟩
  refine Routine.meets_get.2 fun t ht => ⟨⟨(Calm.refl t).reports, .refl (fun _ => .refl) t⟩, ?_⟩
  replace hs := hs.abides hstable ht
  have hengine : (Routine.modifyGet (configureEngine i)).Meets (AbidesAt i)
      (fun s t => s.Reports t ∧ s.Preserves t) (fun _ _ => True) t :=
    fun u hu => ⟨configureEngine_reports (hs.abides hstable hu), fun _ _ => trivial⟩
  obtain ⟨b, hb, hthreaded, -⟩ := hs
  simp only [hb]
  cases b with
  | source x => exact hengine
  | sink y => exact hengine
  | stage z => exact absurd hthreaded id

end Network

end FrameGraph
