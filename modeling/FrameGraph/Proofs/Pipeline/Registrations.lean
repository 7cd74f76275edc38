import FrameGraph.Pipeline.Registry
import FrameGraph.Proofs.Dictionaries
import Mathlib.Data.List.Basic
import Mathlib.Data.List.Induction

/-!
# What stands in a registry

A registry is used by one call after the other. The registration that stands for a type is the
latest one, if the type was not removed after it. To see which constructors run, each of them is
registered together with a note that it makes when it runs.
-/

namespace FrameGraph.Registry

variable {σ β : Type}

/-! ### Calls -/

/-- What can be asked of a registry. -/
inductive Call (σ β : Type)
  | register (type : String) (c : Constructor σ β)
  | unregister (type : String)
  | clear
  | create (type : String)
  | createNamed (type name : String)

/-- What a registry answers. -/
inductive Reply (β : Type)
  | done
  | removed (was : Bool)
  | made (result : Except Error β)

/-- The constructor, which notes that it runs. -/
def noted (c : Constructor σ β) : Constructor (σ × List (Constructor σ β)) β := fun (s, ran) =>
  let (result, s) := c s
  (result, s, ran ++ [c])

/-- A registry at work: the state that the constructors act on, and those that ran, in order. -/
structure Site (σ β : Type) where
  registry : Registry (σ × List (Constructor σ β)) β := {}
  state : σ
  ran : List (Constructor σ β) := []

/-- A result was made; the registry is still the same. -/
def Site.made (d : Site σ β) (result : Except Error β × σ × List (Constructor σ β)) :
    Reply β × Site σ β :=
  (.made result.1, { d with state := result.2.1, ran := result.2.2 })

/-- One call. -/
def Site.perform (rename : String → β → β) (d : Site σ β) : Call σ β → Reply β × Site σ β
  | .register type c => (.done, { d with registry := d.registry.register type (noted c) })
  | .unregister type =>
    let (was, registry) := d.registry.unregister type
    (.removed was, { d with registry })
  | .clear => (.done, { d with registry := d.registry.clear })
  | .create type => d.made (d.registry.create type (d.state, d.ran))
  | .createNamed type name => d.made (d.registry.createNamed rename type name (d.state, d.ran))

/-- An empty registry after some calls. -/
def after (rename : String → β → β) (calls : List (Call σ β)) (s : σ) : Site σ β :=
  calls.foldl (fun d call => (d.perform rename call).2) { state := s }

/-- The call decides what is registered for the type. -/
def Call.Touches (type : String) : Call σ β → Prop
  | .register type' _ => type' = type
  | .unregister type' => type' = type
  | .clear => True
  | .create _ => False
  | .createNamed .. => False

/-- The constructor was registered for the type, and no later call replaced or removed it. -/
def Stands (calls : List (Call σ β)) (type : String) (c : Constructor σ β) : Prop :=
  ∃ before later, calls = before ++ .register type c :: later ∧
    ∀ call ∈ later, ¬ call.Touches type

/-- What comes of a constructor: the value, or its error as it is, or its abort as a failure of the
type. -/
def outcome (type : String) : Result β → Except Error β
  | .ok b => .ok b
  | .error (.error e) => .error e
  | .error (.panic p) => .error (.block type ("constructor panicked: " ++ p.message))

variable {rename : String → β → β} {r : Registry σ β} {d : Site σ β} {calls : List (Call σ β)}
  {call : Call σ β} {type : String} {c : Constructor σ β} {s : σ}

/-! ### Making -/

lemma create_of_some (h : r.constructors.get? type = some c) (s : σ) :
    r.create type s = (outcome type (c s).1, (c s).2) := by
  simp only [create, h]
  rcases c s with ⟨(e | p) | b, s'⟩ <;> rfl

lemma create_of_none (h : r.constructors.get? type = none) (s : σ) :
    r.create type s = (.error (.unknownBlockType type), s) := by
  rw [create, h]

/-- A name is given to what is made without one; otherwise nothing is different. -/
lemma createNamed_eq (r : Registry σ β) (type name : String) (s : σ) :
    r.createNamed rename type name s =
      ((r.create type s).1.map (rename name), (r.create type s).2) := by
  rw [createNamed]
  rcases r.create type s with ⟨e | b, s'⟩ <;> rfl

/-! ### Standing -/

lemma not_stands_nil : ¬ Stands ([] : List (Call σ β)) type c := by
  rintro ⟨before, later, h, -⟩
  exact List.cons_ne_nil _ _ (List.append_eq_nil_iff.1 h.symm).2

/-- A registration stands if it is the last call, or if it stood and the last call is about
something else. -/
lemma stands_concat : Stands (calls ++ [call]) type c ↔
    call = .register type c ∨ ¬ call.Touches type ∧ Stands calls type c := by
  constructor
  · rintro ⟨before, later, heq, hlater⟩
    obtain rfl | ⟨later, last, rfl⟩ := List.eq_nil_or_concat' later
    · exact .inl (List.singleton_inj.1 (List.append_inj' heq rfl).2)
    · rw [← List.cons_append, ← List.append_assoc] at heq
      obtain ⟨hcalls, hlast⟩ := List.append_inj' heq rfl
      obtain rfl := List.singleton_inj.1 hlast
      exact .inr ⟨hlater call (by simp), before, later, hcalls,
        fun call' h => hlater call' (List.mem_append_left _ h)⟩
  · rintro (rfl | ⟨hcall, before, later, rfl, hlater⟩)
    · exact ⟨calls, [], rfl, fun _ h => absurd h List.not_mem_nil⟩
    · refine ⟨before, later ++ [call], by simp, fun call' h => ?_⟩
      obtain h | h := List.mem_append.1 h
      · exact hlater call' h
      · exact List.mem_singleton.1 h ▸ hcall

lemma after_concat (rename : String → β → β) (calls : List (Call σ β)) (call : Call σ β) (s : σ) :
    after rename (calls ++ [call]) s = ((after rename calls s).perform rename call).2 :=
  List.foldl_append

/-- A call about something else leaves a type as it is. In particular no call that makes a value
changes what is registered. -/
lemma get?_perform_of_not_touches (h : ¬ call.Touches type) :
    (d.perform rename call).2.registry.constructors.get? type =
      d.registry.constructors.get? type := by
  cases call with
  | register type' c =>
    exact (Dict.get?_insert ..).trans (if_neg fun heq => h heq.symm)
  | unregister type' =>
    exact (Dict.get?_erase ..).trans (if_neg fun heq => h heq.symm)
  | clear => exact absurd trivial h
  | create type' => rfl
  | createNamed type' name => rfl

/-- After a call about a type, the type has the constructor that the call brings, if any. -/
lemma get?_perform_of_touches {f : Constructor (σ × List (Constructor σ β)) β}
    (h : call.Touches type) :
    (d.perform rename call).2.registry.constructors.get? type = some f ↔
      ∃ c, call = .register type c ∧ noted c = f := by
  cases call with
  | register type' c =>
    obtain rfl : type' = type := h
    simp [Site.perform, register]
  | unregister type' =>
    obtain rfl : type' = type := h
    simp [Site.perform, unregister]
  | clear => simp [Site.perform, clear]
  | create type' => exact h.elim
  | createNamed type' name => exact h.elim

/-- What is registered for a type is what stands for it. -/
theorem get?_after {f : Constructor (σ × List (Constructor σ β)) β} :
    (after rename calls s).registry.constructors.get? type = some f ↔
      ∃ c, Stands calls type c ∧ noted c = f := by
  induction calls using List.reverseRecOn with
  | nil => simp [after, not_stands_nil]
  | append_singleton calls call ih =>
    rw [after_concat]
    by_cases h : call.Touches type
    · simp [get?_perform_of_touches h, stands_concat, h]
    · have hother : ∀ c, call ≠ .register type c := fun c heq => h (heq ▸ rfl)
      simp [get?_perform_of_not_touches h, ih, stands_concat, h, hother]

lemma exists_get?_after : (∃ f, (after rename calls s).registry.constructors.get? type = some f) ↔
    ∃ c, Stands calls type c := by
  simp [get?_after]

lemma get?_after_of_stands (h : Stands calls type c) :
    (after rename calls s).registry.constructors.get? type = some (noted c) :=
  get?_after.2 ⟨c, h, rfl⟩

lemma get?_after_of_not_stands (h : ∀ c, ¬ Stands calls type c) :
    (after rename calls s).registry.constructors.get? type = none :=
  Option.eq_none_iff_forall_ne_some.2 fun _ hf =>
    let ⟨c, hc, _⟩ := get?_after.1 hf
    h c hc

/-! ### Answers -/

/-- The constructor ran once, and nothing else happened. -/
def Site.ranOnce (d : Site σ β) (c : Constructor σ β) : Site σ β :=
  { d with state := (c d.state).2, ran := d.ran ++ [c] }

lemma perform_create_of_some (h : d.registry.constructors.get? type = some (noted c)) :
    d.perform rename (.create type) = (.made (outcome type (c d.state).1), d.ranOnce c) := by
  rw [Site.perform, create_of_some h]
  rfl

lemma perform_createNamed_of_some (h : d.registry.constructors.get? type = some (noted c))
    (name : String) : d.perform rename (.createNamed type name) =
      (.made ((outcome type (c d.state).1).map (rename name)), d.ranOnce c) := by
  rw [Site.perform, createNamed_eq, create_of_some h]
  rfl

lemma perform_create_of_none (h : d.registry.constructors.get? type = none) :
    d.perform rename (.create type) = (.made (.error (.unknownBlockType type)), d) := by
  rw [Site.perform, create_of_none h]
  rfl

lemma perform_createNamed_of_none (h : d.registry.constructors.get? type = none) (name : String) :
    d.perform rename (.createNamed type name) =
      (.made (.error (.unknownBlockType type)), d) := by
  rw [Site.perform, createNamed_eq, create_of_none h]
  rfl

/-- After any calls, a value is made by the constructor that stands for the type. It runs once; its
error comes back as it is, and its abort as a failure of the type. Where none stands, the type is
unknown and none runs. Either way the registry stays as it is. Removing tells whether a constructor
stood, and the listing, the count and the tests agree on the types for which one does. -/
theorem registrations_spec (rename : String → β → β) (calls : List (Call σ β)) (s : σ)
    (type : String) :
    let d := after rename calls s
    (∀ c, Stands calls type c →
      d.perform rename (.create type) = (.made (outcome type (c d.state).1), d.ranOnce c) ∧
      ∀ name, d.perform rename (.createNamed type name) =
        (.made ((outcome type (c d.state).1).map (rename name)), d.ranOnce c)) ∧
    ((∀ c, ¬ Stands calls type c) →
      d.perform rename (.create type) = (.made (.error (.unknownBlockType type)), d) ∧
      ∀ name, d.perform rename (.createNamed type name) =
        (.made (.error (.unknownBlockType type)), d)) ∧
    (∃ was, (d.perform rename (.unregister type)).1 = .removed was ∧
      (was = true ↔ ∃ c, Stands calls type c)) ∧
    (d.registry.isRegistered type = true ↔ ∃ c, Stands calls type c) ∧
    (type ∈ d.registry.types ↔ ∃ c, Stands calls type c) ∧
    d.registry.types.Pairwise (· < ·) ∧
    d.registry.size = d.registry.types.length ∧
    (d.registry.isEmpty = true ↔ d.registry.types = []) := by
  intro d
  have hregistered : d.registry.isRegistered type = true ↔ ∃ c, Stands calls type c :=
    Dict.contains_iff.trans exists_get?_after
  have hsize : d.registry.size = d.registry.types.length := (Dict.length_keys _).symm
  refine ⟨fun c h => ?_, fun h => ?_, ⟨_, rfl, hregistered⟩, hregistered,
    Dict.mem_keys_iff.trans exists_get?_after, Dict.pairwise_keys _, hsize, ?_⟩
  · have hstands : d.registry.constructors.get? type = some (noted c) := get?_after_of_stands h
    exact ⟨perform_create_of_some hstands, perform_createNamed_of_some hstands⟩
  · have hnone : d.registry.constructors.get? type = none := get?_after_of_not_stands h
    exact ⟨perform_create_of_none hnone, perform_createNamed_of_none hnone⟩
  · rw [isEmpty, hsize, beq_iff_eq, List.length_eq_zero_iff]

/-- Lamps by number. -/
def lamp : Constructor Nat String := fun n => (.ok s!"lamp {n}", n + 1)

/-- A constructor that breaks off half-way. -/
def dropped : Constructor Nat String := fun n => (.error (.panic (.said "no bulb")), n + 1)

/-- A type is registered twice, and another one is removed again. -/
def workday : List (Call Nat String) :=
  [.register "Lamp" lamp, .create "Lamp", .register "Lamp" dropped, .register "Door" lamp] ++
    [.unregister "Door"]

theorem registrations_spec_workday :
    let d := after (fun name _ => name) workday 0
    (d.perform (fun name _ => name) (.create "Lamp")).1 =
        .made (.error (.block "Lamp" "constructor panicked: no bulb")) ∧
      (d.perform (fun name _ => name) (.createNamed "Door" "front")).1 =
        .made (.error (.unknownBlockType "Door")) ∧
      d.registry.isRegistered "Lamp" = true ∧ d.registry.types = ["Lamp"] ∧ d.state = 1 := by
  intro d
  have hlamp : Stands workday "Lamp" dropped :=
    ⟨[.register "Lamp" lamp, .create "Lamp"], [.register "Door" lamp, .unregister "Door"], rfl,
      by simp [Call.Touches]⟩
  have hdoor : ∀ c, ¬ Stands workday "Door" c := fun c h => by
    simpa [Call.Touches] using stands_concat.1 h
  obtain ⟨hmade, -, -, hregistered, -⟩ := registrations_spec (fun name _ => name) workday 0 "Lamp"
  obtain ⟨-, hunknown, -⟩ := registrations_spec (fun name _ => name) workday 0 "Door"
  exact ⟨congrArg Prod.fst (hmade _ hlamp).1, congrArg Prod.fst ((hunknown hdoor).2 "front"),
    hregistered.2 ⟨_, hlamp⟩, by decide, rfl⟩

end FrameGraph.Registry
