import FrameGraph.Block.Hooks

/-!
# Reporting frames

A report says for each frame that it came. It wants frames of a known format.
-/

namespace FrameGraph

/-- How frames are reported, and how many were. -/
structure ConsoleReport where
  verbose : Bool := false
  showPixels : Bool := false
  maxPixels : Nat := 16
  frames : Nat := 0
  deriving DecidableEq, Repr

namespace ConsoleReport

/-- Read the parameters in order; those before a bad one are taken over. -/
def configure (c : ConsoleReport) (params : Params) : Except Error Unit × ConsoleReport :=
  match params.readBool "verbose" with
  | .error e => (.error e, c)
  | .ok verbose? =>
    let c := { c with verbose := verbose?.getD c.verbose }
    match params.readBool "show_pixels" with
    | .error e => (.error e, c)
    | .ok show? =>
      let c := { c with showPixels := show?.getD c.showPixels }
      match params.read "max_pixels" Params.word64 with
      | .error e => (.error e, c)
      | .ok max? => (.ok (), { c with maxPixels := max?.getD c.maxPixels })

def process (c : ConsoleReport) (b : FrameBuffer) : Except Error Unit × ConsoleReport :=
  if !b.isValid || b.info.format == .unknown then (.error (.frame "invalid frame"), c)
  else (.ok (), { c with frames := c.frames + 1 })

end ConsoleReport

/-! ### Discarding -/

/-- Takes frames and does nothing with them, after a delay in milliseconds. -/
structure Discard where
  delay : Nat := 0
  deriving DecidableEq, Repr

def Discard.configure (d : Discard) (params : Params) : Except Error Unit × Discard :=
  match params.read "delay_ms" Params.word64 with
  | .error e => (.error e, d)
  | .ok delay? => (.ok (), ⟨delay?.getD d.delay⟩)

end FrameGraph
