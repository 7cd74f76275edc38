import FrameGraph.Block.Hooks
import FrameGraph.Pattern.Picture

/-!
# The generator of test pictures
-/

namespace FrameGraph

/-- Draws test pictures, in regions of the pool or in storage of their own. -/
structure TestPattern where
  picture : Picture := {}
  usePool : Bool := false
  seed : UInt64 := 0x9e3779b97f4a7c15
  deriving DecidableEq, Repr

namespace TestPattern

def ofKind (kind : PatternKind) : TestPattern := { picture := { kind } }

/-- The formats that pictures are drawn in. -/
def supports (_ : TestPattern) : PixelFormat → Bool
  | .rgb24 | .bgr24 | .rgba32 | .bgra32 | .yuv420p | .yuyv => true
  | _ => false

/-! ### Configuration -/

def setKind (g : TestPattern) (kind : PatternKind) : TestPattern :=
  { g with picture := { g.picture with kind } }

def setColor (g : TestPattern) (color : Color) : TestPattern :=
  { g with picture := { g.picture with color } }

/-- Read the kind of picture, its colour and the use of the pool, in this order, and count frames
from zero again. -/
def configure (g : TestPattern) (params : Params) : Except Error Unit × TestPattern :=
  match params.read "pattern" (Params.worded PatternKind.read) with
  | .error e => (.error e, g)
  | .ok kind? =>
    let g := kind?.elim g g.setKind
    match (params.nonBlank? "color").mapM Color.read with
    | .error e => (.error e, g)
    | .ok color? =>
      let g := color?.elim g g.setColor
      match params.readBool "use_pool" with
      | .error e => (.error e, g)
      | .ok pool? =>
        (.ok (), { g with
          usePool := pool?.getD g.usePool
          picture := { g.picture with counter := 0 } })

/-! ### Frames -/

/-- Mix the bits of a state into a random word. -/
def mix (z : UInt64) : UInt64 :=
  let z := (z ^^^ (z >>> 30)) * 0xbf58476d1ce4e5b9
  let z := (z ^^^ (z >>> 27)) * 0x94d049bb133111eb
  z ^^^ (z >>> 31)

def randomBytes : Nat → UInt64 → List UInt8 × UInt64
  | 0, seed => ([], seed)
  | n + 1, seed =>
    let (bytes, last) := randomBytes n (seed + 0x9e3779b97f4a7c15)
    ((mix seed).toUInt8 :: bytes, last)

def render (g : TestPattern) (b : FrameBuffer) : Checked FrameBuffer × TestPattern :=
  if g.picture.kind = .noise then
    let (bytes, seed) := randomBytes b.size g.seed
    (.ok (b.writeData bytes), { g with seed })
  else (g.picture.draw b, g)

def advance (g : TestPattern) : Checked TestPattern :=
  (Checked.add Checked.word64 g.picture.counter 1).map fun counter =>
    { g with picture := { g.picture with counter } }

def obtain (g : TestPattern) (info : FrameInfo) (pool : BufferPool) :
    Result FrameBuffer × BufferPool :=
  if g.usePool then pool.acquire info else (FrameBuffer.forInfo info, pool)

def finish (g : TestPattern) (b : FrameBuffer) :
    Checked (FrameBuffer × TestPattern) × TestPattern :=
  match g.render b with
  | (.error p, g) => (.error p, g)
  | (.ok b, g) => (g.advance.map (b, ·), g)

/-- Make the next frame. A region whose drawing was aborted goes back to the pool. -/
def generate (g : TestPattern) (info : FrameInfo) (pool : BufferPool) : Generated TestPattern :=
  match g.obtain info pool with
  | (.error f, pool) => ⟨.error f, g, pool⟩
  | (.ok b, pool) =>
    match g.finish b with
    | (.ok (b, g), _) => ⟨.ok (some b), g, pool⟩
    | (.error p, g) =>
      ⟨.error (.panic p), g, if g.usePool then pool.recycle b.region b.handle else pool⟩

instance : Generator TestPattern where
  supports := supports
  configure g params _ :=
    let (r, g) := g.configure params
    (r.mapError .error, g)
  generate := generate

end TestPattern

end FrameGraph
