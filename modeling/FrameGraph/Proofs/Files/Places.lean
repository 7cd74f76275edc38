import FrameGraph.Files.Tree
import FrameGraph.Proofs.Dictionaries
import Mathlib.Tactic.Common

/-!
# Places in a tree of files

Writing a file does not turn a directory into anything else, so whatever led somewhere goes on to
lead there. A file can be made where a path leads to a place that is not a directory, and is found
there afterwards.
-/

namespace FrameGraph.FileTree

variable {t t' : FileTree} {path name : String} {place q : List String} {node : FileNode}
  {bytes : List UInt8}

/-! ### Nodes -/

@[simp] lemma home_put : (t.put place node).home = t.home := rfl

lemma node?_put_self (h : place ≠ []) : (t.put place node).node? place = some node := by
  simp [node?, put, h]

lemma node?_put_of_ne (h : q ≠ place) : (t.put place node).node? q = t.node? q := by
  have hne : (q == place) = false := by simp [h]
  simp only [node?, put, List.lookup_cons, hne, Dict.lookup_filter_key, if_neg h]

@[simp] lemma put_put {node' : FileNode} :
    (t.put place node).put place node' = t.put place node' := by
  simp [put, List.filter_filter]

/-- Bytes that are written behind all others follow them. -/
lemma writeAt_end (h : t.node? place = some (.file bytes)) (new : List UInt8) :
    t.writeAt place bytes.length new = t.put place (.file (bytes ++ new)) := by
  have hrest : bytes.drop (bytes.length + new.length) = [] :=
    List.drop_eq_nil_of_le (Nat.le_add_right _ _)
  simp [writeAt, read?, h, hrest]

/-! ### Ways -/

/-- Relative paths start from where they did, and no directory went away. -/
structure Keeps (t t' : FileTree) : Prop where
  home : t'.home = t.home
  directory : ∀ place, t.node? place = some .directory → t'.node? place = some .directory

lemma keeps_put (h : t.node? place ≠ some .directory) : t.Keeps (t.put place node) where
  home := rfl
  directory q hq := by
    have hne : q ≠ place := by
      rintro rfl
      exact h hq
    rwa [node?_put_of_ne hne]

lemma Keeps.enter (h : t.Keeps t') (henter : t.enter place name = .ok q) :
    t'.enter place name = .ok q := by
  unfold FileTree.enter at henter ⊢
  split_ifs at henter ⊢ <;> try exact henter
  split at henter
  · rename_i hnode
    rwa [h.directory _ hnode]
  · cases henter
  · cases henter

lemma Keeps.foldlM_enter (h : t.Keeps t') {names : List String}
    (henter : names.foldlM t.enter place = .ok q) : names.foldlM t'.enter place = .ok q := by
  induction names generalizing place with
  | nil => exact henter
  | cons name names ih =>
    rw [List.foldlM_cons] at henter ⊢
    cases hname : t.enter place name with
    | error f => simp [hname, bind, Except.bind] at henter
    | ok next =>
      simp only [hname, bind, Except.bind] at henter
      simp only [h.enter hname, bind, Except.bind]
      exact ih henter

/-- A path that leads to a name in a directory can be spelled, and the name is its last part. -/
lemma locate_eq_ok_iff {directory : List String} :
    t.locate path = .ok (directory, some name) ↔
      '\x00' ∉ path.toList ∧ path ≠ "" ∧
        (Path.parts path).getLast? = some name ∧
        (Path.parts path).dropLast.foldlM t.enter (t.start path) = .ok directory ∧
        name ≠ "." ∧ name ≠ ".." ∧ name.utf8ByteSize ≤ maxName := by
  constructor
  · intro h
    unfold locate at h
    by_cases hzero : '\x00' ∈ path.toList
    · simp [hzero, throw, throwThe, MonadExceptOf.throw, bind, Except.bind] at h
    by_cases hempty : path = ""
    · simp [hempty, throw, throwThe, MonadExceptOf.throw, bind, Except.bind] at h
    cases hlast : (Path.parts path).getLast? with
    | none => simp [hzero, hempty, hlast, pure, Except.pure] at h
    | some last =>
      cases hway : (Path.parts path).dropLast.foldlM t.enter (t.start path) with
      | error f => simp [hzero, hempty, hlast, hway, bind, Except.bind] at h
      | ok above =>
        by_cases hdots : last = "." ∨ last = ".."
        · cases henter : t.enter above last <;>
            simp [hzero, hempty, hlast, hway, hdots, henter, bind, Except.bind, pure,
              Except.pure] at h
        · by_cases hlong : maxName < last.utf8ByteSize
          · simp [hzero, hempty, hlast, hway, hdots, hlong, bind, Except.bind, throw, throwThe,
              MonadExceptOf.throw] at h
          · obtain ⟨rfl, rfl⟩ : above = directory ∧ last = name := by
              simpa [hzero, hempty, hlast, hway, hdots, hlong, bind, Except.bind, pure,
                Except.pure] using h
            rw [not_or] at hdots
            exact ⟨hzero, hempty, rfl, rfl, hdots.1, hdots.2, Nat.not_lt.1 hlong⟩
  · rintro ⟨hzero, hempty, hlast, hway, hdot, hdots, hshort⟩
    simp [locate, hzero, hempty, hlast, hway, hdot, hdots, Nat.not_lt.2 hshort, bind, Except.bind,
      pure, Except.pure]

lemma Keeps.locate (h : t.Keeps t') {directory : List String}
    (hlocate : t.locate path = .ok (directory, some name)) :
    t'.locate path = .ok (directory, some name) := by
  have hstart : t'.start path = t.start path := by simp only [start, h.home]
  obtain ⟨hzero, hempty, hlast, hway, hname⟩ := locate_eq_ok_iff.1 hlocate
  exact locate_eq_ok_iff.2 ⟨hzero, hempty, hlast, hstart ▸ h.foldlM_enter hway, hname⟩

/-! ### Files -/

/-- A path leads to where a file is, or where one can be made. -/
structure Leads (t : FileTree) (path : String) (place : List String) : Prop where
  way : ∃ directory name, t.locate path = .ok (directory, some name) ∧ place = directory ++ [name]
  closed : Path.endsOpen path = false
  free : t.node? place ≠ some .directory

lemma createFile_of_located {directory : List String}
    (hlocate : t.locate path = .ok (directory, some name)) :
    t.createFile path =
      if Path.endsOpen path ∨ t.node? (directory ++ [name]) = some .directory then
        .error .isDirectory
      else .ok (directory ++ [name], t.put (directory ++ [name]) (.file [])) := by
  cases hopen : Path.endsOpen path <;> cases hnode : t.node? (directory ++ [name]) with
  | none => simp [createFile, hlocate, hopen, hnode, bind, Except.bind, pure, Except.pure, throw,
      throwThe, MonadExceptOf.throw]
  | some node => cases node <;> simp [createFile, hlocate, hopen, hnode, bind, Except.bind, pure,
      Except.pure, throw, throwThe, MonadExceptOf.throw]

lemma createFile_eq_ok_iff : t.createFile path = .ok (place, t') ↔
    t.Leads path place ∧ t' = t.put place (.file []) := by
  constructor
  · intro h
    cases hlocate : t.locate path with
    | error f => simp [createFile, hlocate, bind, Except.bind] at h
    | ok found =>
      obtain ⟨directory, _ | name⟩ := found
      · simp [createFile, hlocate, bind, Except.bind, throw, throwThe, MonadExceptOf.throw] at h
      · rw [createFile_of_located hlocate] at h
        split_ifs at h with hfault
        rw [not_or, Bool.not_eq_true] at hfault
        cases h
        exact ⟨⟨⟨directory, name, hlocate, rfl⟩, hfault.1, hfault.2⟩, rfl⟩
  · rintro ⟨⟨⟨directory, name, hlocate, rfl⟩, hclosed, hfree⟩, rfl⟩
    rw [createFile_of_located hlocate, if_neg (by simp [hclosed, hfree])]

variable (hleads : t.Leads path place)

include hleads

lemma Leads.ne_nil : place ≠ [] := by
  obtain ⟨directory, name, -, rfl⟩ := hleads.way
  simp

/-- The last part of a path is the name of the file. -/
lemma Leads.getLast? : place.getLast? = (Path.parts path).getLast? := by
  obtain ⟨directory, name, hlocate, rfl⟩ := hleads.way
  obtain ⟨-, -, hlast, -⟩ := locate_eq_ok_iff.1 hlocate
  simp [hlast]

/-- Other files do not get in the way. -/
lemma Leads.put_file (hq : t.node? q ≠ some .directory) :
    (t.put q (.file bytes)).Leads path place where
  way := by
    obtain ⟨directory, name, hlocate, hplace⟩ := hleads.way
    exact ⟨directory, name, (keeps_put hq).locate hlocate, hplace⟩
  closed := hleads.closed
  free := by
    by_cases hplace : place = q
    · simp [← hplace, node?_put_self hleads.ne_nil]
    · rw [node?_put_of_ne hplace]
      exact hleads.free

lemma Leads.find? (hnode : t.node? place = some (.file bytes)) :
    t.find? path = some (.file bytes) := by
  obtain ⟨directory, name, hlocate, rfl⟩ := hleads.way
  simp [FileTree.find?, hlocate, hnode, hleads.closed]

end FrameGraph.FileTree
