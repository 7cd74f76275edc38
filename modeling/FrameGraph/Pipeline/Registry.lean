import FrameGraph.Dict
import FrameGraph.Error
import FrameGraph.Text.Quoted

/-!
# Registries

A registry knows how to make blocks of the types that were registered. Of several constructors for
one type the last one counts. Making a block does not change the registry, whatever the constructor
does.
-/

namespace FrameGraph

/-- Makes a value, with an effect on the state around it. -/
abbrev Constructor (σ β : Type) := σ → Result β × σ

/-- Constructors by the name of the type. -/
structure Registry (σ β : Type) where
  constructors : Dict (Constructor σ β) := .empty

namespace Registry

variable {σ β : Type}

def register (r : Registry σ β) (type : String) (c : Constructor σ β) : Registry σ β :=
  ⟨r.constructors.insert type c⟩

def registerAll (r : Registry σ β) (cs : List (String × Constructor σ β)) : Registry σ β :=
  ⟨r.constructors.insertAll cs⟩

def isRegistered (r : Registry σ β) (type : String) : Bool := r.constructors.contains type

/-- Remove the constructor for a type; the result tells whether there was one. -/
def unregister (r : Registry σ β) (type : String) : Bool × Registry σ β :=
  (r.isRegistered type, ⟨r.constructors.erase type⟩)

/-- Remove all constructors. -/
def clear (_ : Registry σ β) : Registry σ β := {}

/-- The registered types in ascending order. -/
def types (r : Registry σ β) : List String := r.constructors.keys

def size (r : Registry σ β) : Nat := r.constructors.size

def isEmpty (r : Registry σ β) : Bool := r.size == 0

/-- Make a value of a type. The abort of a constructor is a failure like any other. -/
def create (r : Registry σ β) (type : String) (s : σ) : Except Error β × σ :=
  match r.constructors.get? type with
  | none => (.error (.unknownBlockType type), s)
  | some c =>
    match c s with
    | (.ok b, s) => (.ok b, s)
    | (.error (.error e), s) => (.error e, s)
    | (.error (.panic p), s) =>
      (.error (.block type s!"constructor panicked: {p.message}"), s)

/-- Make a value of a type and give it a name; `rename` is how values take their names. -/
def createNamed (rename : String → β → β) (r : Registry σ β) (type name : String) (s : σ) :
    Except Error β × σ :=
  match r.create type s with
  | (.ok b, s) => (.ok (rename name b), s)
  | (.error e, s) => (.error e, s)

def describe (r : Registry σ β) : String :=
  "BlockRegistry \x7b types: " ++ Text.quotedList r.types ++ " \x7d"

end Registry

end FrameGraph
