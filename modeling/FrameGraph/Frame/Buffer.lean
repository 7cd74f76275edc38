import FrameGraph.Frame.Info

/-!
# Frame buffers

A region is a stretch of bytes of a fixed capacity. A frame buffer owns a region and binds it to a
geometry; only the first bytes of the region, as many as the payload takes, are its data. Each
buffer knows what becomes of its region at the end: it is freed, or it goes back to whoever lent
it.
-/

namespace FrameGraph

/-! ### Regions -/

/-- Bytes of a fixed capacity. -/
structure Region where
  bytes : List UInt8
  deriving DecidableEq, Repr, Inhabited

namespace Region

/-- The size of the address space: no region can be larger. -/
def addressSpace : Nat := 0x800000000000

def capacity (r : Region) : Nat := r.bytes.length

def allocate (capacity : Nat) : Except Error Region :=
  if capacity ≤ addressSpace then .ok ⟨List.replicate capacity 0⟩
  else .error (.allocation capacity)

/-- Replace the bytes from `offset` on, as far as both the region and the new bytes go. -/
def write (r : Region) (offset : Nat) (new : List UInt8) : Region :=
  ⟨r.bytes.take offset ++ new.take (r.capacity - offset) ++ r.bytes.drop (offset + new.length)⟩

def describe (r : Region) : String :=
  "AlignedRegion \x7b " ++ s!"capacity: {r.capacity}" ++ " \x7d"

@[simp] theorem capacity_write (r : Region) (offset : Nat) (new : List UInt8) :
    (r.write offset new).capacity = r.capacity := by
  simp only [write, capacity, List.length_append, List.length_take, List.length_drop]
  omega

end Region

/-! ### Buffers -/

/-- Whoever lends regions and takes them back. -/
inductive Lender
  | pool (number : Nat)
  | keeper
  deriving DecidableEq, Repr

/-- What becomes of a region when its last frame is gone. -/
inductive Disposal
  | free
  | giveBack (lender : Lender)
  deriving DecidableEq, Repr

/-- A region with a geometry. The handle names a lent region and outlives every binding. -/
structure FrameBuffer where
  region : Region
  info : FrameInfo := {}
  size : Nat := 0
  disposal : Disposal := .free
  handle : Option Nat := none
  deriving DecidableEq, Repr

/-- One plane of a frame. -/
structure Plane where
  data : List UInt8
  stride : UInt32
  deriving DecidableEq, Repr

namespace FrameBuffer

def capacity (b : FrameBuffer) : Nat := b.region.capacity

def isValid (b : FrameBuffer) : Bool := b.size ≤ b.capacity

/-- Whether the region goes back to a lender at the end. -/
def isRecycled (b : FrameBuffer) : Bool := b.disposal != .free

def planeCount (b : FrameBuffer) : Nat := b.info.format.planeCount

/-! ### Binding -/

def new (capacity : Nat) : Except Error FrameBuffer :=
  (Region.allocate capacity).map fun region => { region }

def lent (region : Region) (lender : Lender) : FrameBuffer :=
  { region, disposal := .giveBack lender }

/-- Bind a geometry whose payload fits. The handle stays the one of the storage. -/
def bind (b : FrameBuffer) (info : FrameInfo) : Result FrameBuffer := do
  let needed ← info.frameSize.lift
  if b.capacity < needed then refuse (.capacityExceeded needed b.capacity)
  else return { b with size := needed, info := { info with hardware := b.handle } }

/-- A new buffer that is just large enough. -/
def forInfo (info : FrameInfo) : Result FrameBuffer := do
  let size ← info.frameSize.lift
  if size = 0 then
    let text ← info.display.lift
    refuse (.config s!"cannot create frame for {text}: empty payload")
  else match new size with
    | .error e => refuse e
    | .ok b => b.bind info

def reset (b : FrameBuffer) : FrameBuffer :=
  { b with size := 0, info := { hardware := b.handle } }

/-- Note the time of capture and the number in the sequence. -/
def stamp (b : FrameBuffer) (timestamp sequence : Nat) : FrameBuffer :=
  { b with info := { b.info with timestamp, sequence } }

def markHardware (b : FrameBuffer) (handle : Nat) : FrameBuffer :=
  { b with handle := some handle, info := { b.info with hardware := some handle } }

/-! ### Bytes -/

def data (b : FrameBuffer) : List UInt8 := b.region.bytes.take b.size

/-- Replace the first bytes of the payload. -/
def writeData (b : FrameBuffer) (new : List UInt8) : FrameBuffer :=
  { b with region := b.region.write 0 (new.take b.size) }

/-- Where a plane lies, when the payload reaches that far. -/
def layout (b : FrameBuffer) (plane : Nat) : Checked (Option PlaneLayout) := do
  match ← b.info.format.planeLayout b.info.width b.info.height plane with
  | none => return none
  | some l => return if l.offset + l.length ≤ b.size then some l else none

def slice (b : FrameBuffer) (l : PlaneLayout) : List UInt8 :=
  (b.region.bytes.drop l.offset).take l.length

def plane (b : FrameBuffer) (index : Nat) : Checked (Option Plane) := do
  return (← b.layout index).map fun l => ⟨b.slice l, l.stride⟩

def writePlane (b : FrameBuffer) (l : PlaneLayout) (new : List UInt8) : FrameBuffer :=
  { b with region := b.region.write l.offset (new.take l.length) }

/-! ### Copies -/

/-- Copy the planes `i, …, i + count - 1` as far as both buffers have them. -/
def copyPlanes (source : FrameBuffer) : (count i : Nat) → FrameBuffer → Checked Unit × FrameBuffer
  | 0, _, target => (.ok (), target)
  | count + 1, i, target =>
    match source.layout i, target.layout i with
    | .ok (some s), .ok (some t) =>
      copyPlanes source count (i + 1)
        (target.writePlane t ((source.slice s).take t.length))
    | .ok _, .ok _ => copyPlanes source count (i + 1) target
    | .error p, _ => (.error p, target)
    | _, .error p => (.error p, target)

/-- Copy metadata and planes. A target that is too small stays as it is. -/
def copyInto (source target : FrameBuffer) : Result Unit × FrameBuffer :=
  if target.capacity < source.size then
    (refuse (.capacityExceeded source.size target.capacity), target)
  else match target.bind source.info with
    | .error f => (.error f, target)
    | .ok bound =>
      let (r, copied) := source.copyPlanes (min source.planeCount bound.planeCount) 0 bound
      (r.lift, copied)

def duplicate (b : FrameBuffer) : Result FrameBuffer :=
  match new (max b.capacity b.size) with
  | .error e => refuse e
  | .ok fresh =>
    let (r, copy) := b.copyInto fresh
    r.map fun _ => copy

def describe (b : FrameBuffer) : String :=
  "FrameBuffer \x7b " ++ s!"info: {b.info.describe}, size: {b.size}, "
    ++ s!"capacity: {b.capacity}, recycled: {b.isRecycled}" ++ " \x7d"

end FrameBuffer

end FrameGraph
