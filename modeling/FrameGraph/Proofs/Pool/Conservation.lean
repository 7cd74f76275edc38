import FrameGraph.Proofs.Frame.Reworks
import FrameGraph.Proofs.Pool.Steps
import Mathlib.Algebra.BigOperators.Group.List.Basic
import Mathlib.Algebra.GroupWithZero.Nat
import Mathlib.Algebra.Order.Group.Nat

/-!
# The conservation of regions

Any number of threads acquire frames from one pool, use them, share them and drop them, and any of
their steps may come next. A region that exists is free, lent, or in the hands of a task, and the
pool's count of live regions is the number of all of these. So a region that comes back always finds
room.
-/

namespace FrameGraph

namespace BufferPool

/-! ### Who has a region in hand -/

/-- A place that counts as live and is neither free nor lent. -/
def Task.weight : Task → Nat
  | takes .. | reserves .. | denied | recycles => 0
  | fits .. | allocates .. | counts .. | numbers .. | lends .. | surrenders _ | pushes ..
  | overflows => 1

/-- The handle of the region in hand. -/
def Task.handles : Task → List Nat
  | fits handle .. | lends handle .. => [handle]
  | pushes _ handle => [handle.getD 0]
  | _ => []

/-- A frame that was lent: in the hands of one owner, or shared by so many references. -/
inductive Loan
  | owned (b : FrameBuffer)
  | shared (b : FrameBuffer) (references : Nat)

namespace Loan

def buffer : Loan → FrameBuffer
  | owned b | shared b _ => b

/-- What can happen to a frame without its coming to an end. -/
inductive Uses : Loan → Loan → Prop
  | reworks {b c} (h : b.Reworks c) : Uses (.owned b) (.owned c)
  | shares {b} : Uses (.owned b) (.shared b 1)
  | unwraps {b} : Uses (.shared b 1) (.owned b)
  | retains {b n} : Uses (.shared b n) (.shared b (n + 1))
  | releases {b n} : Uses (.shared b (n + 2)) (.shared b (n + 1))

/-- Nobody else refers to the frame. -/
def IsLast : Loan → Prop
  | owned _ => True
  | shared _ references => references = 1

def handle (l : Loan) : Nat := l.buffer.handle.getD 0

lemma Uses.sameStorage {l l' : Loan} (h : l.Uses l') : l.buffer.SameStorage l'.buffer := by
  cases h with
  | reworks h => exact h.sameStorage
  | shares => exact .refl _
  | unwraps => exact .refl _
  | retains => exact .refl _
  | releases => exact .refl _

end Loan

def Progress.weight : Progress → Nat
  | goesOn t => t.weight
  | lent _ => 1
  | ended _ => 0

def Progress.handles : Progress → List Nat
  | goesOn t => t.handles
  | lent b => [b.handle.getD 0]
  | ended _ => []

/-! ### One step -/

/-- The loan that a step made. -/
def Progress.loans : Progress → List Loan
  | lent b => [.owned b]
  | _ => []

/-- What is left to do after a step. -/
def Progress.tasks : Progress → List Task
  | goesOn t => [t]
  | _ => []

/-- A region that came back found no room. -/
def Progress.IsOverflow : Progress → Prop
  | goesOn .overflows => True
  | _ => False

/-- What a step of a task does to the pool, seen from the outside. -/
structure Task.Advances (t : Task) (p : BufferPool) (g : Progress) (q : BufferPool) : Prop where
  number : q.number = p.number
  limit : q.limit = p.limit
  bounded : p.live ≤ p.limit → q.live ≤ q.limit
  balance : p.free.length + t.weight ≤ p.live →
    q.free.length + g.weight + p.live = p.free.length + t.weight + q.live
  next : q.nextHandle = p.nextHandle ∨ q.nextHandle = p.nextHandle + 1
  /-- No handle appears that was not there before, except for the one that was drawn. -/
  handles : ∀ h, (q.free.map Prod.fst).count h + g.handles.count h ≤
    (p.free.map Prod.fst).count h + t.handles.count h +
      if h = p.nextHandle ∧ q.nextHandle = p.nextHandle + 1 then 1 else 0
  lent : ∀ l ∈ g.loans, l.buffer.disposal = .giveBack (.pool p.number)
  /-- Only a push that finds the pool full overflows. -/
  overflows : g.IsOverflow → p.limit ≤ p.free.length ∧ t.weight = 1

variable {t : Task} {p q : BufferPool} {g : Progress}

/-- A step that leaves alone what the pool has. -/
lemma Task.Advances.keeps (hnumber : q.number = p.number) (hlimit : q.limit = p.limit)
    (hfree : q.free = p.free) (hlive : q.live = p.live) (hnext : q.nextHandle = p.nextHandle)
    (hweight : g.weight = t.weight) (hhandles : g.handles = t.handles ∨ g.handles = [])
    (hlent : ∀ l ∈ g.loans, l.buffer.disposal = .giveBack (.pool p.number))
    (hoverflows : g.IsOverflow → p.limit ≤ p.free.length ∧ t.weight = 1) :
    t.Advances p g q where
  number := hnumber
  limit := hlimit
  bounded h := by rwa [hlive, hlimit]
  balance _ := by rw [hfree, hlive, hweight]
  next := .inl hnext
  handles h := by
    rw [hfree]
    rcases hhandles with hhandles | hhandles <;> rw [hhandles]
    · omega
    · rw [List.count_nil]
      omega
  lent := hlent
  overflows := hoverflows

/-- A step that gives up the place it holds. -/
lemma Task.Advances.surrenders {failure : Option Fault} (hweight : t.weight = 1) :
    t.Advances p (.ended failure) p.surrender where
  number := rfl
  limit := rfl
  bounded h := Nat.le_trans (Nat.sub_le ..) h
  balance h := by
    simp only [surrender, Progress.weight, hweight] at h ⊢
    omega
  next := .inl rfl
  handles h := by
    simp only [surrender, Progress.handles, List.count_nil]
    omega
  lent := List.forall_mem_nil _
  overflows := False.elim

theorem Task.step_advances (t : Task) (p : BufferPool) (allocate : Nat → Except Error Region) :
    t.Advances p (t.step allocate p).1 (t.step allocate p).2 := by
  cases t with
  | takes info needed =>
    rcases hfree : p.free with _ | ⟨⟨handle, region⟩, rest⟩
    · simp only [step, takeFree, hfree]
      exact .keeps rfl rfl rfl rfl rfl rfl (.inl rfl) (List.forall_mem_nil _) False.elim
    · simp only [step, takeFree, hfree]
      refine ⟨rfl, rfl, id, fun h => ?_, .inl rfl, fun h => ?_, List.forall_mem_nil _, False.elim⟩
      · simp only [hfree, Progress.weight, Task.weight, List.length_cons]
      · simp only [hfree, Progress.handles, Task.handles, List.map_cons, List.count_cons,
          List.count_nil]
        omega
  | fits handle region info needed =>
    simp only [step]
    split
    · exact .keeps rfl rfl rfl rfl rfl rfl (.inl rfl) (List.forall_mem_nil _) False.elim
    · split
      · exact .keeps rfl rfl rfl rfl rfl rfl (.inl rfl) (List.forall_mem_nil _) False.elim
      · exact .keeps rfl rfl rfl rfl rfl rfl (.inr rfl) (List.forall_mem_nil _) False.elim
  | reserves info needed =>
    simp only [step]
    split
    · rename_i hroom
      refine ⟨rfl, rfl, fun _ => hroom, fun h => ?_, .inl rfl, fun h => ?_,
        List.forall_mem_nil _, False.elim⟩
      · simp only [Progress.weight, Task.weight]
        omega
      · simp only [Progress.handles, Task.handles]
        omega
    · exact .keeps rfl rfl rfl rfl rfl rfl (.inl rfl) (List.forall_mem_nil _) False.elim
  | denied => exact .keeps rfl rfl rfl rfl rfl rfl (.inl rfl) (List.forall_mem_nil _) False.elim
  | allocates info needed =>
    simp only [step]
    split <;> exact .keeps rfl rfl rfl rfl rfl rfl (.inl rfl) (List.forall_mem_nil _) False.elim
  | counts region info =>
    exact .keeps rfl rfl rfl rfl rfl rfl (.inl rfl) (List.forall_mem_nil _) False.elim
  | numbers region info =>
    refine ⟨rfl, rfl, id, fun _ => rfl, .inr rfl, fun h => ?_, List.forall_mem_nil _, False.elim⟩
    simp only [step, Progress.handles, Task.handles, List.count_cons, List.count_nil, and_true]
    by_cases hh : h = p.nextHandle
    · simp [hh]
    · simp [hh, Ne.symm hh]
  | lends handle region info =>
    simp only [step]
    split
    · rename_i b hbind
      have hsame := FrameBuffer.sameStorage_of_bind hbind
      refine .keeps rfl rfl rfl rfl rfl rfl (.inl ?_) (fun l hl => ?_) False.elim
      · simp only [Progress.handles, Task.handles, hsame.handle]
        rfl
      · cases List.mem_singleton.1 hl
        exact hsame.disposal
    · exact .keeps rfl rfl rfl rfl rfl rfl (.inl rfl) (List.forall_mem_nil _) False.elim
  | surrenders e => exact .surrenders rfl
  | pushes region handle =>
    simp only [step]
    split
    · refine ⟨rfl, rfl, id, fun h => ?_, .inl rfl, fun h => ?_, List.forall_mem_nil _, False.elim⟩
      · simp only [Progress.weight, Task.weight, List.length_append, List.length_singleton]
      · simp only [Progress.handles, Task.handles, List.map_append, List.map_cons, List.map_nil,
          List.count_append, List.count_nil]
        omega
    · rename_i hfull
      exact .keeps rfl rfl rfl rfl rfl rfl (.inr rfl) (List.forall_mem_nil _)
        fun _ => ⟨Nat.le_of_not_lt hfull, rfl⟩
  | overflows => exact .surrenders rfl
  | recycles => exact .keeps rfl rfl rfl rfl rfl rfl (.inl rfl) (List.forall_mem_nil _) False.elim

/-! ### Any number of threads -/

lemma Progress.weight_eq (g : Progress) :
    g.weight = g.loans.length + (g.tasks.map Task.weight).sum := by
  cases g <;> simp [weight, loans, tasks]

lemma Progress.handles_eq (g : Progress) :
    g.handles = g.loans.map Loan.handle ++ g.tasks.flatMap Task.handles := by
  cases g with
  | goesOn t => simp [handles, loans, tasks]
  | lent b => rfl
  | ended failure => rfl

/-- A pool, the acquisitions and returns that are under way, and the frames that are lent. -/
structure Floor where
  pool : BufferPool
  tasks : List Task := []
  loans : List Loan := []

namespace Floor

variable {f f' : Floor} {limit : Nat}

/-- A task between two others has taken a step. -/
def resume (f : Floor) (before after : List Task) (g : Progress) (p : BufferPool) : Floor where
  pool := p
  tasks := before ++ g.tasks ++ after
  loans := g.loans ++ f.loans

/-- The last reference to a frame is gone. Its region goes back to where it came from. -/
def drop (f : Floor) (before after : List Loan) (b : FrameBuffer) : Floor :=
  if b.disposal = .giveBack (.pool f.pool.number) then
    { f with tasks := .pushes b.region b.handle :: f.tasks, loans := before ++ after }
  else { f with loans := before ++ after }

/-- One step of one thread. -/
inductive Step : Floor → Floor → Prop
  | acquires {f : Floor} {info : FrameInfo} {needed : Nat} (h : info.frameSize = .ok needed) :
    Step f { f with tasks := .takes info needed :: f.tasks }
  | steps {f : Floor} {before after : List Task} {t : Task}
    (ht : f.tasks = before ++ t :: after) (allocate : Nat → Except Error Region) :
    Step f (f.resume before after (t.step allocate f.pool).1 (t.step allocate f.pool).2)
  | uses {f : Floor} {before after : List Loan} {l l' : Loan}
    (hl : f.loans = before ++ l :: after) (h : l.Uses l') :
    Step f { f with loans := before ++ l' :: after }
  | drops {f : Floor} {before after : List Loan} {l : Loan}
    (hl : f.loans = before ++ l :: after) (h : l.IsLast) :
    Step f (f.drop before after l.buffer)

/-- What can come of a new pool. -/
inductive Reachable (limit : Nat) : Floor → Prop
  | opens {number : Nat} {p : BufferPool} (h : BufferPool.new number limit = .ok p) :
    Reachable limit { pool := p }
  | step {f f' : Floor} (h : Reachable limit f) (hstep : Step f f') : Reachable limit f'

/-- The regions in the hands of tasks. -/
def inTransit (f : Floor) : Nat := (f.tasks.map Task.weight).sum

/-- The handles of all regions. -/
def handles (f : Floor) : List Nat :=
  f.pool.free.map Prod.fst ++ f.loans.map Loan.handle ++ f.tasks.flatMap Task.handles

/-- Every region that counts as live is somewhere, and has a handle of its own. -/
structure Conserved (f : Floor) : Prop where
  balance : f.pool.free.length + f.loans.length + f.inTransit = f.pool.live
  bounded : f.pool.live ≤ f.pool.limit
  positive : 0 < f.pool.nextHandle
  distinct : ∀ h, f.handles.count h ≤ 1
  drawn : ∀ h, 0 < f.handles.count h → 0 < h ∧ h < f.pool.nextHandle
  lent : ∀ l ∈ f.loans, l.buffer.disposal = .giveBack (.pool f.pool.number)
  room : .overflows ∉ f.tasks

lemma conserved_new {number : Nat} {p : BufferPool} (h : BufferPool.new number limit = .ok p) :
    Conserved { pool := p } ∧ p.limit = limit := by
  unfold BufferPool.new at h
  split at h
  · cases h
  · cases h
    refine ⟨⟨rfl, Nat.zero_le _, Nat.one_pos, fun h => Nat.zero_le _, fun h hh => ?_, nofun, nofun⟩,
      rfl⟩
    exact absurd hh (Nat.lt_irrefl 0)

lemma count_handles_of_tasks {before after : List Task} {t : Task}
    (ht : f.tasks = before ++ t :: after) (h : Nat) :
    f.handles.count h = (f.pool.free.map Prod.fst).count h + (f.loans.map Loan.handle).count h +
      ((before.flatMap Task.handles).count h + t.handles.count h +
        (after.flatMap Task.handles).count h) := by
  simp only [handles, ht, List.flatMap_append, List.flatMap_cons, List.count_append]
  omega

lemma count_handles_resume {before after : List Task} {g : Progress} {q : BufferPool} (h : Nat) :
    (f.resume before after g q).handles.count h =
      (q.free.map Prod.fst).count h + (f.loans.map Loan.handle).count h +
        ((before.flatMap Task.handles).count h + g.handles.count h +
          (after.flatMap Task.handles).count h) := by
  simp only [handles, resume, g.handles_eq, List.map_append, List.flatMap_append,
    List.count_append]
  omega

lemma inTransit_of_tasks {before after : List Task} {t : Task}
    (ht : f.tasks = before ++ t :: after) :
    f.inTransit = (before.map Task.weight).sum + t.weight + (after.map Task.weight).sum := by
  simp only [inTransit, ht, List.map_append, List.map_cons, List.sum_append, List.sum_cons]
  omega

/-- The handle that is drawn next is in use nowhere. -/
lemma Conserved.count_next (hf : f.Conserved) : f.handles.count f.pool.nextHandle = 0 := by
  by_contra hpos
  exact absurd (hf.drawn _ (Nat.pos_of_ne_zero hpos)).2 (Nat.lt_irrefl _)

/-- While a task has a region in hand, the pool is not full. -/
lemma Conserved.has_room (hf : f.Conserved) {t : Task} (ht : t ∈ f.tasks) (hweight : t.weight = 1) :
    f.pool.free.length < f.pool.limit := by
  obtain ⟨before, after, htasks⟩ := List.append_of_mem ht
  have hbalance := hf.balance
  have hbounded := hf.bounded
  rw [inTransit_of_tasks htasks, hweight] at hbalance
  omega

/-- A step of a task keeps what the others rely on. -/
lemma Conserved.resume (hf : f.Conserved) {before after : List Task} {t : Task} {g : Progress}
    {q : BufferPool} (ht : f.tasks = before ++ t :: after) (hstep : t.Advances f.pool g q) :
    (f.resume before after g q).Conserved := by
  have hbalance := hf.balance
  rw [inTransit_of_tasks ht] at hbalance
  have hnew (h : Nat) : (f.resume before after g q).handles.count h ≤ f.handles.count h +
      if h = f.pool.nextHandle ∧ q.nextHandle = f.pool.nextHandle + 1 then 1 else 0 := by
    have := hstep.handles h
    rw [count_handles_of_tasks ht, count_handles_resume]
    omega
  have hnext : f.pool.nextHandle ≤ q.nextHandle := by
    rcases hstep.next with hq | hq <;> omega
  refine ⟨?_, hstep.limit ▸ hstep.bounded hf.bounded, Nat.lt_of_lt_of_le hf.positive hnext,
    fun h => Nat.le_trans (hnew h) ?_, fun h hh => ?_, fun l hl => ?_, fun hoverflows => ?_⟩
  · have := hstep.balance (by omega)
    simp only [inTransit, Floor.resume, List.map_append, List.sum_append, List.length_append]
    have := g.weight_eq
    omega
  · split
    · rename_i hdrawn
      have := hf.count_next
      rw [hdrawn.1]
      omega
    · exact hf.distinct h
  · show 0 < h ∧ h < q.nextHandle
    by_cases hold : 0 < f.handles.count h
    · exact ⟨(hf.drawn h hold).1, Nat.lt_of_lt_of_le (hf.drawn h hold).2 hnext⟩
    · have hdrawn : h = f.pool.nextHandle ∧ q.nextHandle = f.pool.nextHandle + 1 := by
        by_contra hnot
        have := hnew h
        rw [if_neg hnot] at this
        omega
      exact ⟨hdrawn.1 ▸ hf.positive, by omega⟩
  · show l.buffer.disposal = .giveBack (.pool q.number)
    rw [hstep.number]
    rcases List.mem_append.1 hl with hl | hl
    · exact hstep.lent l hl
    · exact hf.lent l hl
  · have htask : g.IsOverflow := by
      have hothers (hmem : Task.overflows ∈ before ∨ Task.overflows ∈ after) : False := by
        refine hf.room (ht ▸ ?_)
        rcases hmem with hmem | hmem
        · exact List.mem_append_left _ hmem
        · exact List.mem_append_right _ (List.mem_cons_of_mem _ hmem)
      rcases List.mem_append.1 hoverflows with hmem | hmem
      · rcases List.mem_append.1 hmem with hmem | hmem
        · exact (hothers (.inl hmem)).elim
        · cases g with
          | goesOn t =>
            cases List.mem_singleton.1 hmem
            trivial
          | lent b => nomatch hmem
          | ended failure => nomatch hmem
      · exact (hothers (.inr hmem)).elim
    obtain ⟨hfull, hweight⟩ := hstep.overflows htask
    have hroom := hf.has_room (ht ▸ List.mem_append_right _ List.mem_cons_self) hweight
    exact Nat.lt_irrefl _ (Nat.lt_of_lt_of_le hroom hfull)

lemma Conserved.acquires (hf : f.Conserved) (info : FrameInfo) (needed : Nat) :
    Conserved { f with tasks := .takes info needed :: f.tasks } where
  balance := by
    have := hf.balance
    simpa only [inTransit, List.map_cons, List.sum_cons, Task.weight, Nat.zero_add] using this
  bounded := hf.bounded
  positive := hf.positive
  distinct := hf.distinct
  drawn := hf.drawn
  lent := hf.lent
  room h := hf.room ((List.mem_cons.1 h).resolve_left nofun)

/-- What is done with a frame does not touch the storage behind it. -/
lemma Conserved.uses (hf : f.Conserved) {before after : List Loan} {l l' : Loan}
    (hl : f.loans = before ++ l :: after) (h : l.Uses l') :
    Conserved { f with loans := before ++ l' :: after } := by
  have hsame := h.sameStorage
  have hhandle : l'.handle = l.handle := congrArg (Option.getD · 0) hsame.handle
  have hhandles : handles { f with loans := before ++ l' :: after } = f.handles := by
    simp only [handles, hl, List.map_append, List.map_cons, hhandle]
  refine ⟨?_, hf.bounded, hf.positive, fun h => ?_, fun h hh => ?_, fun x hx => ?_, hf.room⟩
  · have := hf.balance
    simp only [hl, List.length_append, List.length_cons] at this
    simpa only [inTransit, List.length_append, List.length_cons] using this
  · rw [hhandles]
    exact hf.distinct h
  · rw [hhandles] at hh
    exact hf.drawn h hh
  · have hold (hx : x ∈ f.loans) := hf.lent x hx
    rw [hl] at hold
    rcases List.mem_append.1 hx with hx | hx
    · exact hold (List.mem_append_left _ hx)
    · rcases List.mem_cons.1 hx with rfl | hx
      · exact hsame.disposal.trans (hf.lent l (hl ▸ List.mem_append_right _ List.mem_cons_self))
      · exact hold (List.mem_append_right _ (List.mem_cons_of_mem _ hx))

/-- A region whose last frame is gone is on its way back. -/
lemma Conserved.drops (hf : f.Conserved) {before after : List Loan} {l : Loan}
    (hl : f.loans = before ++ l :: after) : (f.drop before after l.buffer).Conserved := by
  have hlent := hf.lent l (hl ▸ List.mem_append_right _ List.mem_cons_self)
  rw [drop, if_pos hlent]
  have hcount (h : Nat) : (handles ⟨f.pool, .pushes l.buffer.region l.buffer.handle :: f.tasks,
      before ++ after⟩).count h = f.handles.count h := by
    simp only [handles, hl, List.map_append, List.map_cons, List.flatMap_cons, List.count_append,
      List.count_cons, Task.handles, Loan.handle, List.count_nil]
    omega
  refine ⟨?_, hf.bounded, hf.positive, fun h => ?_, fun h hh => ?_, fun x hx => ?_, fun h => ?_⟩
  · have := hf.balance
    simp only [hl, List.length_append, List.length_cons, inTransit] at this
    simp only [inTransit, List.map_cons, List.sum_cons, Task.weight, List.length_append]
    omega
  · exact Nat.le_trans (Nat.le_of_eq (hcount h)) (hf.distinct h)
  · exact hf.drawn h (Nat.lt_of_lt_of_eq hh (hcount h))
  · refine hf.lent x (hl ▸ ?_)
    rcases List.mem_append.1 hx with hx | hx
    · exact List.mem_append_left _ hx
    · exact List.mem_append_right _ (List.mem_cons_of_mem _ hx)
  · exact hf.room ((List.mem_cons.1 h).resolve_left nofun)

lemma Step.limit_eq (h : Step f f') : f'.pool.limit = f.pool.limit := by
  cases h with
  | acquires => rfl
  | steps ht allocate => exact (Task.step_advances ..).limit
  | uses => rfl
  | drops =>
    unfold drop
    split <;> rfl

lemma Conserved.step (hf : f.Conserved) (h : Step f f') : f'.Conserved := by
  cases h with
  | acquires h => exact hf.acquires ..
  | steps ht allocate => exact hf.resume ht (Task.step_advances ..)
  | uses hl h => exact hf.uses hl h
  | drops hl h => exact hf.drops hl

/-- Along every run every region is accounted for. -/
theorem Reachable.conserved (h : Reachable limit f) : f.Conserved ∧ f.pool.limit = limit := by
  induction h with
  | opens h => exact conserved_new h
  | step h hstep ih => exact ⟨ih.1.step hstep, hstep.limit_eq.trans ih.2⟩

/-- Whatever the threads do, the regions that are free, lent or in the hands of a task are as many
as the pool counts as live, at most as many as its limit. A push always finds room, a place that is
given up was counted, and all handles are different. An acquisition that fails because the
allocator refuses leaves the pool as it found it, unless it took a region that it could not grow;
this region is gone, and counts no more. -/
theorem conservation (h : Reachable limit f) :
    f.pool.free.length + f.loans.length + f.inTransit = f.pool.live ∧ f.pool.live ≤ limit ∧
      (∀ region handle, .pushes region handle ∈ f.tasks → f.pool.free.length < limit) ∧
      .overflows ∉ f.tasks ∧ (∀ e, .surrenders e ∈ f.tasks → 0 < f.pool.live) ∧
      f.handles.Nodup ∧ (∀ h ∈ f.handles, 0 < h ∧ h < f.pool.nextHandle) ∧
      ∀ (info : FrameInfo) (needed : Nat) (e : Error) (allocate : Nat → Except Error Region),
        info.frameSize = .ok needed → allocate needed = .error e →
        (∀ handle region rest, f.pool.free = (handle, region) :: rest → region.capacity < needed →
          0 < f.pool.live ∧ (Task.takes info needed).alone allocate 6 f.pool =
            (.ended (some (.error e)), { f.pool with free := rest, live := f.pool.live - 1 })) ∧
        (f.pool.free = [] → f.pool.live < limit →
          (Task.takes info needed).alone allocate 6 f.pool =
            (.ended (some (.error e)), f.pool)) ∧
        (f.pool.free = [] → f.pool.live = limit →
          (Task.takes info needed).alone allocate 6 f.pool =
            (.ended (some (.error (.bufferUnavailable limit))),
              { f.pool with exhausted := f.pool.exhausted + 1 })) := by
  obtain ⟨hf, rfl⟩ := h.conserved
  refine ⟨hf.balance, hf.bounded, fun region handle hmem => hf.has_room hmem rfl, hf.room,
    fun e hmem => ?_, List.nodup_iff_count.2 hf.distinct,
    fun h hh => hf.drawn h (List.count_pos_iff.2 hh), fun info needed e allocate _ he => ?_⟩
  · obtain ⟨before, after, htasks⟩ := List.append_of_mem hmem
    have hbalance := hf.balance
    rw [inTransit_of_tasks htasks] at hbalance
    simp only [Task.weight] at hbalance
    omega
  · refine ⟨fun handle region rest hfree hsmall => ⟨?_, ?_⟩, fun hfree hroom => ?_,
      fun hfree hfull => ?_⟩
    · have hbalance := hf.balance
      rw [hfree, List.length_cons] at hbalance
      omega
    · rw [Task.alone_takes_of_cons hfree, if_neg (Nat.not_le.2 hsmall), he]
    · rw [Task.alone_takes_of_nil hfree, if_pos hroom, he]
    · rw [Task.alone_takes_of_nil hfree, if_neg (Nat.not_lt.2 (Nat.le_of_eq hfull.symm))]

/-- A pool of two regions that lent one of them. -/
theorem conservation_onePixel : ∃ f : Floor, Reachable 2 f ∧ f.loans.length = 1 ∧
    f.pool.free.length + f.loans.length + f.inTransit = f.pool.live ∧ f.handles.Nodup := by
  have hnew : BufferPool.new 0 2 = .ok { limit := 2 } := rfl
  have hsize : FrameInfo.frameSize { width := 1, height := 1, format := .rgb24 } = .ok 3 := rfl
  have hstep {f : Floor} {t : Task} (h : Reachable 2 f) (ht : f.tasks = [] ++ t :: []) :=
    h.step (.steps ht Region.allocate)
  have htaken := hstep ((Reachable.opens hnew).step (.acquires hsize)) rfl
  have hlent := hstep (hstep (hstep (hstep (hstep htaken rfl) rfl) rfl) rfl) rfl
  obtain ⟨hbalance, -, -, -, -, hnodup, -⟩ := conservation hlent
  exact ⟨_, hlent, rfl, hbalance, hnodup⟩

end Floor

end BufferPool

end FrameGraph
