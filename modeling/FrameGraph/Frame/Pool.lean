import FrameGraph.Frame.Buffer

/-!
# Buffer pools

A pool lends at most a fixed number of regions and gets them back when their last frame is gone. It
is first-in first-out: the region that has been free for longest is lent next, with its handle and
with the bytes that its last user left. A free region that is too small for a request is replaced.

An acquisition is made of steps that are atomic by themselves: take a free region, reserve the place
for a new one, give a place up, return a region.
-/

namespace FrameGraph

/-- A bounded set of regions, free or lent. -/
structure BufferPool where
  number : Nat := 0
  limit : Nat
  free : List (Nat × Region) := []
  live : Nat := 0
  nextHandle : Nat := 1
  allocated : Nat := 0
  recycled : Nat := 0
  exhausted : Nat := 0
  deriving DecidableEq, Repr

namespace BufferPool

def maxBuffers : Nat := 100

def new (number limit : Nat) : Except Error BufferPool :=
  if limit = 0 ∨ maxBuffers < limit then
    .error (.invalidParameter "buffer_count" s!"{limit} not in 1..={maxBuffers}")
  else .ok { number, limit }

/-! ### Atomic steps -/

def takeFree (p : BufferPool) : Option (Nat × Region) × BufferPool :=
  match p.free with
  | [] => (none, p)
  | r :: rest => (some r, { p with free := rest })

def reserve (p : BufferPool) : Bool × BufferPool :=
  if p.live < p.limit then (true, { p with live := p.live + 1 })
  else (false, { p with exhausted := p.exhausted + 1 })

def surrender (p : BufferPool) : BufferPool := { p with live := p.live - 1 }

def enroll (p : BufferPool) : Nat × BufferPool :=
  (p.nextHandle, { p with allocated := p.allocated + 1, nextHandle := p.nextHandle + 1 })

/-- Take a region back. A region without a handle counts as number zero. -/
def recycle (p : BufferPool) (region : Region) (handle : Option Nat) : BufferPool :=
  if p.free.length < p.limit then
    { p with free := p.free ++ [(handle.getD 0, region)], recycled := p.recycled + 1 }
  else p.surrender

/-! ### Acquisition -/

def lend (p : BufferPool) (handle : Nat) (region : Region) (info : FrameInfo) :
    Result FrameBuffer × BufferPool :=
  match ((FrameBuffer.lent region (.pool p.number)).markHardware handle).bind info with
  | .ok b => (.ok b, p)
  | .error f => (.error f, p.recycle region (some handle))

def acquire (p : BufferPool) (info : FrameInfo) : Result FrameBuffer × BufferPool :=
  match info.frameSize with
  | .error e => (.error (.panic e), p)
  | .ok needed =>
    match p.takeFree with
    | (some (handle, region), p) =>
      if needed ≤ region.capacity then p.lend handle region info
      else match Region.allocate needed with
        | .ok region => p.lend handle region info
        | .error e => (refuse e, p.surrender)
    | (none, p) =>
      match p.reserve with
      | (false, p) => (refuse (.bufferUnavailable p.limit), p)
      | (true, p) =>
        match Region.allocate needed with
        | .ok region =>
          let (handle, p) := p.enroll
          p.lend handle region info
        | .error e => (refuse e, p.surrender)

end BufferPool

end FrameGraph
