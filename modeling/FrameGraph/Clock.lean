/-!
# Time and stopping

Times are microseconds of a clock that never goes back. A stop signal is a flag on which a thread
sleeps: whoever sleeps is woken when the flag is raised.
-/

namespace FrameGraph

def ageOf (now stamp : Nat) : Nat := now - stamp

/-- A flag that asks a thread to stop. -/
structure StopSignal where
  raised : Bool := false
  deriving DecidableEq, Repr

namespace StopSignal

def stop (_ : StopSignal) : StopSignal := ⟨true⟩

def reset (_ : StopSignal) : StopSignal := ⟨false⟩

/-- What a sleeper learns when its time is over: whether a stop was requested. -/
def wait (s : StopSignal) : Bool := s.raised

end StopSignal

end FrameGraph
