import FrameGraph.Frame.Pool

/-!
# Shared frames

A buffer that is shared becomes a frame: its bytes no longer change, and any number of references to
it may exist. The storage counts the references. When the last one is released, the region is
disposed of, exactly once. The storage also holds the pools and the keeper, a lender that only lays
down what it is given back.
-/

namespace FrameGraph

/-- A reference to a shared buffer; `id` tells buffers apart. -/
structure Frame where
  id : Nat
  buffer : FrameBuffer
  deriving DecidableEq, Repr

/-- The references that exist and the lenders. -/
structure Storage where
  next : Nat := 0
  counts : List (Nat × Nat) := []
  pools : List BufferPool := []
  kept : List (Region × Option Nat) := []

namespace Storage

/-! ### Pools -/

def openPool (s : Storage) (limit : Nat) : Except Error (Nat × Storage) :=
  (BufferPool.new s.pools.length limit).map fun p =>
    (s.pools.length, { s with pools := s.pools ++ [p] })

def pool? (s : Storage) (number : Nat) : Option BufferPool := s.pools[number]?

def setPool (s : Storage) (p : BufferPool) : Storage :=
  { s with pools := s.pools.set p.number p }

def acquire (s : Storage) (number : Nat) (info : FrameInfo) : Result FrameBuffer × Storage :=
  match s.pool? number with
  | none => (refuse (.bufferUnavailable 0), s)
  | some p =>
    let (r, p) := p.acquire info
    (r, s.setPool p)

/-! ### Disposal -/

def giveBack (s : Storage) (lender : Lender) (region : Region) (handle : Option Nat) : Storage :=
  match lender with
  | .keeper => { s with kept := s.kept ++ [(region, handle)] }
  | .pool n =>
    match s.pool? n with
    | none => s
    | some p => s.setPool (p.recycle region handle)

/-- Dispose of a buffer that nobody refers to any more. -/
def dispose (s : Storage) (b : FrameBuffer) : Storage :=
  match b.disposal with
  | .free => s
  | .giveBack lender => s.giveBack lender b.region b.handle

/-! ### References -/

def refCount (s : Storage) (f : Frame) : Nat := (s.counts.lookup f.id).getD 0

/-- Set the number of references to a frame. -/
def setCount (s : Storage) (id n : Nat) : Storage :=
  { s with counts := s.counts.map fun c => if c.1 == id then (id, n) else c }

def share (s : Storage) (b : FrameBuffer) : Frame × Storage :=
  (⟨s.next, b⟩, { s with next := s.next + 1, counts := (s.next, 1) :: s.counts })

def retain (s : Storage) (f : Frame) : Storage := s.setCount f.id (s.refCount f + 1)

/-- Forget a frame without disposing of its buffer. -/
def forget (s : Storage) (f : Frame) : Storage :=
  { s with counts := s.counts.filter fun c => c.1 != f.id }

/-- Release a reference; with the last one the buffer is disposed of. -/
def release (s : Storage) (f : Frame) : Storage :=
  match s.refCount f with
  | 0 => s
  | 1 => (s.forget f).dispose f.buffer
  | n + 2 => s.setCount f.id (n + 1)

def releaseAll (s : Storage) (fs : List Frame) : Storage := fs.foldl release s

/-- Take the buffer back out of its only reference. -/
def unwrap? (s : Storage) (f : Frame) : Option (FrameBuffer × Storage) :=
  if s.refCount f = 1 then some (f.buffer, s.forget f) else none

def describe (s : Storage) (f : Frame) : String :=
  "Frame \x7b " ++ s!"info: {f.buffer.info.describe}, refs: {s.refCount f}" ++ " \x7d"

end Storage

end FrameGraph
