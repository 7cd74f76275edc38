import FrameGraph.Pipeline.ConfigText
import FrameGraph.Proofs.Text.LetterCase

/-!
# Finding settings

The keys of a loaded document are lower-cased with all of Unicode, while a setting is looked up, and
added, under a key in which the ASCII letters alone are folded. So every setting of a document is
found under its key in lower case, and under any other form of its key only if that differs in ASCII
letters alone. A setting that was added is found under the key that it was added with.
-/

namespace FrameGraph

open Text (lower asciiLower)

/-! ### Dictionaries -/

namespace Dict

variable {α : Type}

/-- Entries with distinct keys are all found, before what was there. -/
lemma get?_insertAll {l : List (String × α)} (hl : (l.map Prod.fst).Nodup) (d : Dict α)
    (k : String) : (d.insertAll l).get? k = (l.lookup k).or (d.get? k) := by
  induction l generalizing d with
  | nil => rfl
  | cons e l ih =>
    obtain ⟨hnew, hl⟩ := List.nodup_cons.1 hl
    rw [insertAll, List.foldl_cons, ← insertAll, ih hl, get?_insert, lookup_cons_eq]
    split
    · rename_i hk
      have hnone : l.lookup k = none := by
        rw [List.lookup_eq_none_iff]
        rintro e' he'
        simpa [hk] using fun h : e.1 = e'.1 => hnew (h ▸ List.mem_map_of_mem he')
      rw [hnone]
      rfl
    · rfl

lemma get?_ofList {l : List (String × α)} (hl : (l.map Prod.fst).Nodup) (k : String) :
    (ofList l).get? k = l.lookup k := by
  rw [ofList, get?_insertAll hl, get?_empty, Option.or_none]

lemma lookup_of_mem {l : List (String × α)} (hl : (l.map Prod.fst).Nodup) {e : String × α}
    (he : e ∈ l) : l.lookup e.1 = some e.2 := by
  induction l with
  | nil => cases he
  | cons e' l ih =>
    obtain ⟨hnew, hl⟩ := List.nodup_cons.1 hl
    rw [lookup_cons_eq]
    rcases List.mem_cons.1 he with rfl | he
    · exact if_pos rfl
    · rw [if_neg fun h : e.1 = e'.1 => hnew (h ▸ List.mem_map_of_mem he), ih hl he]

lemma mem_of_get? {d : Dict α} {k : String} {v : α} (h : d.get? k = some v) :
    (k, v) ∈ d.entries := by
  obtain ⟨l, l', hentries, -⟩ := List.lookup_eq_some_iff.1 h
  exact hentries ▸ List.mem_append_right _ List.mem_cons_self

lemma nodup_keys (d : Dict α) : (d.entries.map Prod.fst).Nodup :=
  List.pairwise_map.2 (d.ascending.imp fun h => String.ne_of_lt h)

lemma mem_insertAll {l : List (String × α)} {d : Dict α} {e : String × α}
    (h : e ∈ (d.insertAll l).entries) : e ∈ d.entries ∨ e ∈ l := by
  induction l generalizing d with
  | nil => exact .inl h
  | cons e' l ih =>
    rcases ih h with hd | hl
    · rcases mem_insertEntry hd with rfl | hd
      · exact .inr List.mem_cons_self
      · exact .inl hd
    · exact .inr (List.mem_cons_of_mem e' hl)

lemma mem_ofList {l : List (String × α)} {e : String × α} (h : e ∈ (ofList l).entries) : e ∈ l :=
  (mem_insertAll h).resolve_left List.not_mem_nil

end Dict

/-! ### The tree of settings -/

namespace ConfigTree

variable {d settings : Dict Json} {entries : List (String × Json)}

/-- A value as it is kept: the keys of a table are lower-cased. -/
def kept : Json → Json
  | .object members => storeAll members (.object [])
  | value => value

lemma store_of_new {key : String} (value : Json) (h : d.get? (lower key) = none) :
    store key value (.object d.entries) = .object (d.insert (lower key) (kept value)).entries := by
  have hmember : Json.member? (.object d.entries) (lower key) = none := h
  cases value <;> simp [store, asTable, setMember, kept, hmember, Json.members, Dict.insert]

/-- An entry of a table as it is stored. -/
def stored (e : String × Json) : String × Json := (lower e.1, kept e.2)

lemma storeAll_of_new (hdistinct : (entries.map fun e => lower e.1).Nodup)
    (hnew : ∀ e ∈ entries, d.get? (lower e.1) = none) :
    storeAll entries (.object d.entries) = .object (d.insertAll (entries.map stored)).entries := by
  induction entries generalizing d with
  | nil => rfl
  | cons e entries ih =>
    obtain ⟨hfirst, hdistinct⟩ := List.nodup_cons.1 hdistinct
    rw [storeAll, store_of_new _ (hnew e List.mem_cons_self), ih hdistinct]
    · rfl
    · intro e' he'
      have hne : lower e'.1 ≠ lower e.1 := fun h => hfirst (List.mem_map.2 ⟨e', he', h⟩)
      rw [Dict.get?_insert, if_neg hne, hnew e' (List.mem_cons_of_mem e he')]

lemma storeAll_eq_object (entries members : List (String × Json)) :
    ∃ members', storeAll entries (.object members) = .object members' := by
  induction entries generalizing members with
  | nil => exact ⟨members, rfl⟩
  | cons e entries ih =>
    have hstore : ∃ members', store e.1 e.2 (.object members) = .object members' := by
      cases e.2 <;> exact ⟨_, rfl⟩
    obtain ⟨members', h⟩ := hstore
    rw [storeAll, h]
    exact ih members'

/-! ### Members of a document -/

/-- A path starts with a name that is part of the key. -/
lemma head_of_path {key : String} {path : List Step} (h : path? key = some path) :
    ∃ name rest, path = .member name :: rest ∧ ∀ c ∈ name.toList, c ∈ key.toList := by
  unfold path? name? at h
  dsimp only at h
  split at h
  · cases h
  · simp only [Option.bind_eq_bind, Option.bind_some, pure, Option.bind_eq_some_iff,
      Option.some.injEq] at h
    obtain ⟨rest, -, rfl⟩ := h
    refine ⟨_, rest, rfl, fun c hc => ?_⟩
    rw [String.toList_ofList] at hc
    exact (List.takeWhile_prefix _).subset hc

/-- The settings that a member of a document writes, as far as it writes them in tables: it is a
table of settings, or its key is a path to one setting, or it has nothing to do with them. -/
def settingsOf (m : String × Json) : Option (List (String × Json)) :=
  match path? (lower m.1), m.2 with
  | some [.member "settings"], .object entries => some entries
  | some [.member "settings", .member key], value => some [(key, value)]
  | some (.member "settings" :: _), _ => none
  | _, _ => some []

/-- The table of settings that was gathered so far. -/
def Holds (d settings : Dict Json) : Prop :=
  d.get? "settings" = some (.object settings.entries) ∨
    d.get? "settings" = none ∧ settings = .empty

/-- A member that has nothing to do with settings leaves them as they are. -/
lemma assign_other {m : String × Json} {target : Json}
    (hpath : ∀ rest, path? (lower m.1) ≠ some (.member "settings" :: rest))
    (h : assign (.object d.entries) m = .ok target) :
    ∃ d' : Dict Json, target = .object d'.entries ∧ d'.get? "settings" = d.get? "settings" := by
  have hinsert (key : String) (value : Json) (hkey : "settings" ≠ key) :
      ∃ d' : Dict Json, setMember key value (.object d.entries) = .object d'.entries ∧
        d'.get? "settings" = d.get? "settings" :=
    ⟨d.insert key value, rfl, by rw [Dict.get?_insert, if_neg hkey]⟩
  have hstore (key : String) (value : Json) (hkey : "settings" ≠ lower key) :
      ∃ d' : Dict Json, store key value (.object d.entries) = .object d'.entries ∧
        d'.get? "settings" = d.get? "settings" := by
    cases value <;> exact hinsert (lower key) _ hkey
  unfold assign at h
  cases hp : path? (lower m.1) with
  | none =>
    rw [hp] at h
    cases h
    refine hstore _ _ fun hkey => ?_
    rw [← hkey] at hp
    exact absurd hp (by decide)
  | some path =>
    obtain ⟨name, rest, rfl, hsub⟩ := head_of_path hp
    have hname : lower name = name :=
      Text.lower_of_settled fun c hc => Text.settled_lower _ c (hsub c hc)
    have hother : "settings" ≠ name := by
      rintro rfl
      exact hpath rest hp
    rw [hp] at h
    cases rest with
    | nil =>
      cases h
      exact hstore _ _ (hname.symm ▸ hother)
    | cons step rest =>
      dsimp only [place] at h
      cases hplace : place m.2 (step :: rest) ((asTable (.object d.entries)).field name) with
      | error a => simp [hplace, bind, Except.bind] at h
      | ok value =>
        simp only [hplace, bind, Except.bind, pure, Except.pure, Except.ok.injEq] at h
        rw [← h]
        exact hinsert name value hother

lemma holds_insert (d settings : Dict Json) :
    Holds (d.insert "settings" (.object settings.entries)) settings :=
  .inl (by rw [Dict.get?_insert, if_pos rfl])

lemma Holds.member (h : Holds d settings) :
    (Json.member? (.object d.entries) "settings").getD (.object []) = .object settings.entries := by
  rcases h with hsome | ⟨hnone, rfl⟩
  · exact congrArg (Option.getD · _) hsome
  · exact congrArg (Option.getD · _) hnone

/-- What is no table counts as an empty one. -/
lemma Holds.store_field (h : Holds d settings) (key : String) (value : Json) :
    store key value ((asTable (.object d.entries)).field "settings") =
      store key value (.object settings.entries) := by
  rcases h with hsome | ⟨hnone, rfl⟩
  · exact congrArg (fun o : Option Json => store key value (o.getD .null)) hsome
  · have hnull : store key value .null = store key value (.object []) := by cases value <;> rfl
    exact (congrArg (fun o : Option Json => store key value (o.getD .null)) hnone).trans hnull

/-- A member adds the settings that it writes. -/
lemma Holds.assign {m : String × Json} {target : Json} (hd : Holds d settings)
    (hm : settingsOf m = some entries) (hdistinct : (entries.map fun e => lower e.1).Nodup)
    (hnew : ∀ e ∈ entries, settings.get? (lower e.1) = none)
    (h : ConfigTree.assign (.object d.entries) m = .ok target) :
    ∃ d' : Dict Json, target = .object d'.entries ∧
      Holds d' (settings.insertAll (entries.map stored)) := by
  obtain ⟨key, value⟩ := m
  by_cases hpath : ∃ rest, path? (lower key) = some (.member "settings" :: rest)
  · obtain ⟨rest, hpath⟩ := hpath
    have hlower : lower "settings" = "settings" := by decide +kernel
    simp only [settingsOf, hpath] at hm
    simp only [ConfigTree.assign, hpath] at h
    match rest, value, hm, h with
    | [], .object entries', hm, h =>
      cases hm
      cases h
      simp only [store, hlower, asTable, hd.member, storeAll_of_new hdistinct hnew]
      exact ⟨_, rfl, holds_insert ..⟩
    | [.member key'], value, hm, h =>
      cases hm
      simp only [place, Bind.bind, Except.bind, pure, Except.pure, hd.store_field,
        store_of_new value (hnew _ List.mem_cons_self), Except.ok.injEq] at h
      rw [← h]
      exact ⟨_, rfl, holds_insert ..⟩
  · rw [not_exists] at hpath
    obtain ⟨d', rfl, hsame⟩ := assign_other (m := (key, value)) hpath h
    have hnone : entries = [] := by
      unfold settingsOf at hm
      split at hm
      · rename_i hsettings _
        exact absurd hsettings (hpath _)
      · rename_i hsettings
        exact absurd hsettings (hpath _)
      · cases hm
      · cases hm
        rfl
    subst hnone
    refine ⟨d', rfl, ?_⟩
    unfold Holds
    rw [hsame]
    exact hd

/-- All members together write the settings that each of them writes. -/
lemma Holds.foldlM {members : List (String × Json)} {tables : List (List (String × Json))}
    {root : Json} (hd : Holds d settings) (htables : members.mapM settingsOf = some tables)
    (hdistinct : (tables.flatten.map fun e => lower e.1).Nodup)
    (hnew : ∀ e ∈ tables.flatten, settings.get? (lower e.1) = none)
    (h : members.foldlM ConfigTree.assign (.object d.entries) = .ok root) :
    ∃ d' : Dict Json, root = .object d'.entries ∧
      Holds d' (settings.insertAll (tables.flatten.map stored)) := by
  induction members generalizing d settings tables with
  | nil =>
    cases htables
    cases h
    exact ⟨d, rfl, hd⟩
  | cons m members ih =>
    simp only [List.mapM_cons, Option.bind_eq_bind, Option.bind_eq_some_iff, pure,
      Option.some.injEq] at htables
    obtain ⟨entries, hm, tables, htables, rfl⟩ := htables
    simp only [List.flatten_cons, List.map_append] at hdistinct hnew ⊢
    obtain ⟨hfirst, hrest, hapart⟩ := List.nodup_append.1 hdistinct
    cases htarget : ConfigTree.assign (.object d.entries) m with
    | error a => simp [htarget, bind, Except.bind] at h
    | ok target =>
      simp only [List.foldlM_cons, htarget, bind, Except.bind] at h
      obtain ⟨d', rfl, hd'⟩ := hd.assign hm hfirst
        (fun e he => hnew e (List.mem_append_left _ he)) htarget
      have hnew' : ∀ e ∈ tables.flatten,
          (settings.insertAll (entries.map stored)).get? (lower e.1) = none := by
        intro e he
        have hkeys : ((entries.map stored).map Prod.fst).Nodup := by rwa [List.map_map]
        rw [Dict.get?_insertAll hkeys, hnew e (List.mem_append_right _ he), Option.or_none,
          List.lookup_eq_none_iff]
        intro p hp
        obtain ⟨e', he', rfl⟩ := List.mem_map.1 hp
        exact bne_iff_ne.2 (hapart _ (List.mem_map_of_mem he') _ (List.mem_map_of_mem he)).symm
      obtain ⟨d'', rfl, hd''⟩ := ih hd' htables hrest hnew' h
      exact ⟨d'', rfl, by rwa [Dict.insertAll, List.foldl_append]⟩

/-- The settings that a document writes, as far as it writes them in tables. -/
def settings? (members : List (String × Json)) : Option (List (String × Json)) :=
  (members.mapM settingsOf).map List.flatten

end ConfigTree

/-! ### Reading -/

namespace ConfigReader

/-- The texts of a table are those of its values, in the same order. -/
lemma lookup_of_mapM {read : Json → Option String} {l : List (String × Json)}
    {texts : List (String × String)} (h : l.mapM (fun e => (read e.2).map (e.1, ·)) = some texts) :
    texts.map Prod.fst = l.map Prod.fst ∧ (∀ e ∈ l, (read e.2).isSome) ∧
      ∀ k, texts.lookup k = (l.lookup k).bind read := by
  induction l generalizing texts with
  | nil =>
    cases h
    exact ⟨rfl, by simp, fun _ => rfl⟩
  | cons e l ih =>
    simp only [List.mapM_cons, Option.bind_eq_bind, Option.bind_eq_some_iff, Option.map_eq_some_iff,
      pure, Option.some.injEq] at h
    obtain ⟨-, ⟨text, hread, rfl⟩, texts, htexts, rfl⟩ := h
    obtain ⟨hkeys, hsome, hlookup⟩ := ih htexts
    refine ⟨by rw [List.map_cons, hkeys, List.map_cons], ?_, fun k => ?_⟩
    · rintro e' (_ | ⟨_, he'⟩)
      · rw [hread]
        rfl
      · exact hsome e' he'
    · rw [Dict.lookup_cons_eq, Dict.lookup_cons_eq, hlookup]
      split
      · exact hread.symm
      · rfl

/-- A table of texts has the texts of the values under the same keys. -/
lemma dict?_spec {r : ConfigReader} {d : Dict Json} {texts : Dict String}
    (h : r.dict? (.object d.entries) = some texts) :
    (∀ k, texts.get? k = (d.get? k).bind r.text?) ∧ (∀ e ∈ d.entries, (r.text? e.2).isSome) ∧
      ∀ e ∈ texts.entries, e.1 ∈ d.entries.map Prod.fst := by
  simp only [dict?, Option.bind_eq_bind, Option.bind_eq_some_iff, pure, Option.some.injEq] at h
  obtain ⟨l, hl, rfl⟩ := h
  obtain ⟨hkeys, hsome, hlookup⟩ := lookup_of_mapM hl
  refine ⟨fun k => ?_, hsome, fun e he => ?_⟩
  · rw [Dict.get?_ofList (hkeys ▸ d.nodup_keys)]
    exact hlookup k
  · exact hkeys ▸ List.mem_map_of_mem (Dict.mem_ofList he)

/-- The settings of a description are the table of that name, if there is one. -/
lemma settings_of_graph {r : ConfigReader} {d : Dict Json} {c : GraphConfig}
    (h : r.graph? (.object d.entries) = some c) :
    optional r.dict? .empty (d.get? "settings") = some c.settings := by
  simp only [graph?, fields?, List.map_cons, List.map_nil, Option.bind_eq_bind, Option.bind_some,
    Option.bind_eq_some_iff, pure, Option.some.injEq] at h
  obtain ⟨_, -, _, -, _, -, settings, hsettings, rfl⟩ := h
  exact hsettings

/-- A table stands for no text. -/
lemma scalarText?_kept (value : Json) :
    scalarText? (ConfigTree.kept value) = scalarText? value := by
  cases value with
  | object members =>
    obtain ⟨members', h⟩ := ConfigTree.storeAll_eq_object members []
    rw [ConfigTree.kept, h]
    rfl
  | _ => rfl

end ConfigReader

/-! ### Loading -/

namespace GraphConfig

open ConfigReader (scalarText? lenient)
open ConfigTree (stored)

variable {c : GraphConfig} {members entries : List (String × Json)}

/-- Keys in lower case are not changed again. -/
lemma get?_normalizeSettings (h : ∀ e ∈ c.settings.entries, asciiLower e.1 = e.1) (k : String) :
    c.normalizeSettings.settings.get? k = c.settings.get? k := by
  have hsame : (c.settings.entries.map fun e => (asciiLower e.1, e.2)) = c.settings.entries := by
    conv_rhs => rw [← List.map_id c.settings.entries]
    exact List.map_congr_left fun e he => Prod.ext (h e he) rfl
  change (Dict.ofList (c.settings.entries.map fun e => (asciiLower e.1, e.2))).get? k = _
  rw [hsame, Dict.get?_ofList c.settings.nodup_keys]
  rfl

lemma ofMembers_of_ofText {text : String} {format : ConfigFormat}
    (h : ofText text format = .ok c) (hmembers : format.members? text = some members) :
    ofMembers members = .ok (some c) := by
  simp only [ofText, hmembers] at h
  cases hc : ofMembers members with
  | error a => simp [hc, Checked.lift, bind, Except.bind] at h
  | ok c' =>
    rw [hc] at h
    cases c' with
    | none => cases h
    | some c' =>
      cases h
      rfl

/-- The settings of a loaded description are those that its document writes, under keys in lower
case. -/
lemma settings_ofMembers (h : ofMembers members = .ok (some c))
    (hentries : ConfigTree.settings? members = some entries)
    (hdistinct : (entries.map fun e => lower e.1).Nodup) :
    (∀ e ∈ entries, (scalarText? e.2).isSome) ∧
      ∀ k, c.settings.get? k = ((entries.map stored).lookup k).bind scalarText? := by
  obtain ⟨tables, htables, rfl⟩ := Option.map_eq_some_iff.1 hentries
  have hkeys : ((tables.flatten.map stored).map Prod.fst).Nodup := by rwa [List.map_map]
  cases hroot : ConfigTree.gather members with
  | error a => simp [ofMembers, hroot, bind, Except.bind] at h
  | ok root =>
    simp only [ofMembers, hroot, bind, Except.bind, pure, Except.pure, Except.ok.injEq,
      Option.map_eq_some_iff] at h
    obtain ⟨c, hgraph, rfl⟩ := h
    obtain ⟨d, rfl, hholds⟩ := ConfigTree.Holds.foldlM (.inr ⟨Dict.get?_empty _, rfl⟩) htables
      hdistinct (fun _ _ => Dict.get?_empty _) hroot
    have hread := ConfigReader.settings_of_graph hgraph
    have hdict : lenient.dict? (.object (Dict.ofList (tables.flatten.map stored)).entries) =
        some c.settings := by
      rcases hholds with hsome | ⟨hnone, hempty⟩
      · rwa [hsome] at hread
      · rw [hnone] at hread
        rw [Dict.ofList, hempty]
        exact hread
    obtain ⟨hget, hsome, hmem⟩ := ConfigReader.dict?_spec hdict
    refine ⟨fun e he => ?_, fun k => ?_⟩
    · have hstored : stored e ∈ (Dict.ofList (tables.flatten.map stored)).entries :=
        Dict.mem_of_get? ((Dict.get?_ofList hkeys _).trans
          (Dict.lookup_of_mem hkeys (List.mem_map_of_mem he)))
      rw [← ConfigReader.scalarText?_kept]
      exact hsome _ hstored
    · have hlower : ∀ e ∈ c.settings.entries, asciiLower e.1 = e.1 := by
        intro e he
        obtain ⟨e', he', hkey⟩ := List.mem_map.1 (hmem e he)
        obtain ⟨e'', -, rfl⟩ := List.mem_map.1 (Dict.mem_ofList he')
        rw [← hkey, stored, Text.asciiLower_lower]
      rw [get?_normalizeSettings hlower, hget, Dict.get?_ofList hkeys]
      rfl

/-- A loaded description has the settings of the document, and a setting is found under every form
of its key that differs from the lower-case one in ASCII letters alone. Under any other form it is
not found, not even under the one that is written. A setting that is added in the program is found
under the key that it was added with. -/
theorem setting?_spec {text : String} {format : ConfigFormat} {c : GraphConfig}
    {members entries : List (String × Json)} (hload : ofText text format = .ok c)
    (hmembers : format.members? text = some members)
    (hentries : ConfigTree.settings? members = some entries)
    (hdistinct : (entries.map fun e => lower e.1).Nodup) :
    (∀ e ∈ entries, ∃ value, scalarText? e.2 = some value ∧
      ∀ key, lower key = lower e.1 →
        c.setting? key = if asciiLower key = lower e.1 then some value else none) ∧
      ∀ (c : GraphConfig) (key value : String),
        (c.withSetting key value).setting? key = some value := by
  refine ⟨fun e he => ?_, fun c key value => ?_⟩
  · obtain ⟨hscalar, hget⟩ := settings_ofMembers (ofMembers_of_ofText hload hmembers) hentries
      hdistinct
    obtain ⟨value, hvalue⟩ := Option.isSome_iff_exists.1 (hscalar e he)
    refine ⟨value, hvalue, fun key hkey => ?_⟩
    rw [setting?, hget]
    split
    · rename_i hform
      have hlookup : (entries.map stored).lookup (lower e.1) = some (ConfigTree.kept e.2) :=
        Dict.lookup_of_mem (by rwa [List.map_map]) (List.mem_map_of_mem (f := stored) he)
      rw [hform, hlookup, Option.bind_some, ConfigReader.scalarText?_kept, hvalue]
    · rename_i hform
      -- an ASCII form that is the key of any setting would be in lower case already
      have hnone : (entries.map stored).lookup (asciiLower key) = none := by
        rw [List.lookup_eq_none_iff]
        intro p hp
        obtain ⟨e', -, rfl⟩ := List.mem_map.1 hp
        refine bne_iff_ne.2 fun hsame : asciiLower key = lower e'.1 => hform ?_
        rw [← hkey, ← Text.lower_asciiLower, hsame, Text.lower_lower]
      rw [hnone, Option.bind_none]
  · rw [setting?, withSetting, Dict.get?_insert, if_pos rfl]

/-! ### A letter outside ASCII -/

/-- A document whose only setting has a capital letter with an accent for its key. -/
def accented : String := "\x7b\"settings\":\x7b\"É\":\"1\"\x7d\x7d"

/-- Whether a document consists of one setting. -/
def isSetting (key value : String) : Option (List (String × Json)) → Bool
  | some [(table, .object [(k, .string v)])] => table == "settings" && k == key && v == value
  | _ => false

lemma eq_of_isSetting {key value : String} {document : Option (List (String × Json))}
    (h : isSetting key value document = true) :
    document = some [("settings", .object [(key, .string value)])] := by
  unfold isSetting at h
  split at h
  · simp only [Bool.and_eq_true, beq_iff_eq] at h
    obtain ⟨⟨rfl, rfl⟩, rfl⟩ := h
    rfl
  · cases h

lemma members_accented : ConfigFormat.json.members? accented =
    some [("settings", .object [("É", .string "1")])] :=
  eq_of_isSetting (by decide +kernel)

lemma ofText_accented :
    ofText accented .json = .ok { settings := Dict.empty.insert "é" "1" } := by
  decide +kernel

/-- The setting is not found under its key as it is written. -/
theorem not_found_accented :
    ConfigFormat.json.members? accented = some [("settings", .object [("É", .string "1")])] ∧
      ∃ c, ofText accented .json = .ok c ∧ c.setting? "É" = none :=
  ⟨members_accented, _, ofText_accented, by decide +kernel⟩

/-- It is found under the key in lower case. -/
theorem setting?_spec_accented :
    ∃ c, ofText accented .json = .ok c ∧ c.setting? "é" = some "1" := by
  have hentries : ConfigTree.settings? [("settings", .object [("É", .string "1")])] =
      some [("É", .string "1")] := rfl
  obtain ⟨hfound, -⟩ := setting?_spec ofText_accented members_accented hentries (by decide)
  obtain ⟨value, hvalue, hkey⟩ := hfound _ List.mem_cons_self
  cases hvalue
  exact ⟨_, ofText_accented, (hkey "é" (by decide +kernel)).trans (if_pos (by decide +kernel))⟩

end GraphConfig

end FrameGraph
