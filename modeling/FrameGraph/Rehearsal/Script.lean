import FrameGraph.Block.Hooks
import FrameGraph.Text.Split

/-!
# Scripted sources

For rehearsing a graph, a generator follows a script: a list of cues, one for each call. A pause
lasts until the source is started again. After the last cue nothing more comes.
-/

namespace FrameGraph

/-- What a scripted generator does when it is called. -/
inductive Cue
  | frame (v : UInt8)
  | pooled (v : UInt8)
  | unbound
  | error (reason : String)
  | allocation (bytes : Nat)
  | abort (reason : String)
  | nothing
  | pause
  deriving DecidableEq, Repr

/-- A generator that follows a script. -/
structure Script where
  cues : List Cue := []
  /-- Whether the pause at the head of the script has begun. -/
  pausing : Bool := false
  formats : Option (List PixelFormat) := none
  deriving DecidableEq, Repr

/-! ### Reading -/

/-- The number in a text, zero if there is none. -/
def Cue.number (s : String) : Nat :=
  match Decimal.readNat (0xffffffffffffffff) s with
  | .ok n => n
  | .error _ => 0

/-- Read a cue: a word, and for some words a colon and an argument. -/
def Cue.read (cs : List Char) : Cue :=
  let (word, argument) :=
    match Text.splitOnce? ':' cs with
    | some (w, a) => (String.ofList w, String.ofList a)
    | none => (String.ofList cs, "")
  match word with
  | "frame" => .frame (UInt8.ofNat (number argument))
  | "pool" => .pooled (UInt8.ofNat (number argument))
  | "empty" => .unbound
  | "err" => .error argument
  | "alloc" => .allocation (number argument)
  | "panic" => .abort argument
  | "pause" => .pause
  | _ => .nothing

def readFormats (p : Params) : Option (List PixelFormat) :=
  (p.nonBlank? "formats").map fun s =>
    (Text.splitAll ',' s.toList).filterMap fun cs =>
      PixelFormat.ofLabel? (String.ofList (Text.trimChars cs))

/-- Whether a format is in a list; a list that is missing holds every format. -/
def inFormats (formats : Option (List PixelFormat)) (f : PixelFormat) : Bool :=
  formats.elim true (·.contains f)

def wantedRefusal (p : Params) : Except Error Unit :=
  match p.nonBlank? "fail_configure" with
  | some reason => .error (.config reason)
  | none => .ok ()

namespace Script

/-- Read the script and start at its first cue. -/
def configure (s : Script) (p : Params) : Except Error Unit × Script :=
  match wantedRefusal p with
  | .error e => (.error e, s)
  | .ok () =>
    (.ok (), {
      cues := (Text.splitAll ';' (p.text "script").toList).map Cue.read
      formats := readFormats p })

/-! ### Following -/

def opened (s : Script) : Script :=
  if s.pausing then { s with cues := s.cues.drop 1, pausing := false } else s

def resting (s : Script) : Bool := s.cues.isEmpty || s.pausing

def filled (v : UInt8) (b : FrameBuffer) : FrameBuffer := b.writeData (b.data.map fun _ => v)

def play (c : Cue) (info : FrameInfo) (pool : BufferPool) :
    Result (Option FrameBuffer) × BufferPool :=
  match c with
  | .frame v => ((FrameBuffer.forInfo info).map fun b => some (filled v b), pool)
  | .pooled v =>
    let (r, pool) := pool.acquire info
    (r.map fun b => some (filled v b), pool)
  | .unbound => (((FrameBuffer.new 16).mapError .error).map some, pool)
  | .error reason => (refuse (.frame reason), pool)
  | .allocation bytes => (refuse (.allocation bytes), pool)
  | .abort reason => (.error (.panic (.said reason)), pool)
  | .nothing | .pause => (.ok none, pool)

def generate (s : Script) (info : FrameInfo) (pool : BufferPool) : Generated Script :=
  match s.cues with
  | [] => ⟨.ok none, s, pool⟩
  | .pause :: _ => ⟨.ok none, { s with pausing := true }, pool⟩
  | c :: cues =>
    let (outcome, pool) := play c info pool
    ⟨outcome, { s with cues }, pool⟩

instance : Generator Script where
  supports s := inFormats s.formats
  configure s p _ :=
    let (r, s) := s.configure p
    (r.mapError .error, s)
  opened := opened
  generate := generate
  resting := resting

end Script

end FrameGraph
