import FrameGraph.Proofs.Dictionaries
import FrameGraph.Proofs.Json.Rendering
import FrameGraph.Proofs.Pipeline.Settings
import FrameGraph.Proofs.Text.Splitting

/-!
# Descriptions that were written down

The description of a graph is read from its JSON form as it was, whatever texts it is made of: no
part of it is taken for an endpoint again. It can also be loaded from the text of that form, if the
keys of its settings are in lower case; for loading rewrites the keys of nested tables, but not
those inside arrays.
-/

namespace FrameGraph

open Text (lower asciiLower)

/-! ### Dictionaries -/

namespace Dict

variable {α β : Type}

/-- The dictionary with other values under the same keys. -/
def map (f : α → β) (d : Dict α) : Dict β :=
  ⟨d.entries.map fun e => (e.1, f e.2), List.pairwise_map.2 d.ascending⟩

end Dict

/-! ### Reading -/

namespace ConfigReader

variable {r : ConfigReader}

/-- A reader takes texts as they are. -/
def ReadsTexts (r : ConfigReader) : Prop := ∀ s, r.text? (.string s) = some s

lemma list?_map {α : Type} {write : α → Json} {read : Json → Option α}
    (h : ∀ a, read (write a) = some a) (l : List α) :
    list? read (.array (l.map write)) = some l :=
  Text.mapM_map_eq_some h l

namespace ReadsTexts

lemma dict? (h : r.ReadsTexts) (d : Dict String) : r.dict? d.toJson = some d := by
  have hentry (e : String × String) :
      (r.text? (Json.string e.2)).map (e.1, ·) = some e := by simp [h e.2]
  have hentries : (d.entries.map fun e => (e.1, Json.string e.2)).mapM
      (fun e => (r.text? e.2).map (e.1, ·)) = some d.entries :=
    Text.mapM_map_eq_some hentry d.entries
  simp only [ConfigReader.dict?, Dict.toJson, Option.bind_eq_bind]
  rw [hentries]
  exact congrArg some d.ofList_entries

lemma pipelineInfo? (h : r.ReadsTexts) (p : PipelineInfo) : r.pipelineInfo? p.toJson = some p := by
  simp [ConfigReader.pipelineInfo?, PipelineInfo.toJson, fields?, optional, List.lookup_cons,
    h p.name, h p.platform]

lemma blockDef? (h : r.ReadsTexts) (b : BlockDef) : r.blockDef? b.toJson = some b := by
  simp [ConfigReader.blockDef?, BlockDef.toJson, fields?, optional, List.lookup_cons, parameters?,
    Json.member?, h b.name, h b.type, h.dict? b.parameters]

/-- An object is no pair of endpoints: its texts are taken as they are. -/
lemma connection?_toJson (c : Connection) : connection? c.toJson = some c := by
  simp [connection?, Connection.toJson, optional, List.lookup_cons, plainText?]

lemma graph? (h : r.ReadsTexts) (c : GraphConfig) : r.graph? c.toJson = some c := by
  simp [ConfigReader.graph?, GraphConfig.toJson, fields?, optional, List.lookup_cons,
    h.pipelineInfo? c.pipeline, list?_map h.blockDef?, list?_map connection?_toJson,
    h.dict? c.settings]

end ReadsTexts

lemma readsTexts_strict : strict.ReadsTexts := fun _ => rfl

lemma readsTexts_lenient : lenient.ReadsTexts := fun _ => rfl

end ConfigReader

/-! ### Gathering -/

namespace ConfigTree

/-- A member of a document that loading does not change. -/
def Plain (m : String × Json) : Prop := stored m = m

/-- Members under plain names are gathered as the members of a table are. -/
lemma foldlM_assign {members : List (String × Json)}
    (h : ∀ m ∈ members, path? (lower m.1) = some [.member m.1]) (target : Json) :
    members.foldlM assign target = .ok (storeAll members target) := by
  induction members generalizing target with
  | nil => rfl
  | cons m members ih =>
    have hassign : assign target m = .ok (store m.1 m.2 target) := by
      simp only [assign, h m List.mem_cons_self, place]
    rw [List.foldlM_cons, hassign, storeAll]
    exact ih (fun m' hm' => h m' (List.mem_cons_of_mem m hm')) _

lemma storeAll_plain {d : Dict Json} (h : ∀ m ∈ d.entries, Plain m) :
    storeAll d.entries (.object []) = .object d.entries := by
  have hstored : d.entries.map stored = d.entries := by
    conv_rhs => rw [← List.map_id d.entries]
    exact List.map_congr_left h
  have hkeys : (d.entries.map fun m => lower m.1).Nodup := by
    have hkeys := d.nodup_keys
    rwa [← hstored, List.map_map] at hkeys
  have hall := storeAll_of_new (d := .empty) hkeys fun m _ => Dict.get?_empty (lower m.1)
  rwa [hstored, ← Dict.ofList, Dict.ofList_entries] at hall

lemma plain_table {key : String} {d : Dict Json} (hkey : lower key = key)
    (h : ∀ m ∈ d.entries, Plain m) : Plain (key, .object d.entries) :=
  Prod.ext hkey (storeAll_plain h)

lemma plain_text {key : String} (hkey : lower key = key) (s : String) : Plain (key, .string s) :=
  Prod.ext hkey rfl

/-- The keys inside an array are kept. -/
lemma plain_array {key : String} (hkey : lower key = key) (items : List Json) :
    Plain (key, .array items) :=
  Prod.ext hkey rfl

lemma plain_texts {key : String} (hkey : lower key = key) {d : Dict String}
    (h : ∀ k ∈ d.keys, lower k = k) : Plain (key, d.toJson) := by
  refine plain_table hkey (d := d.map Json.string) fun m hm => ?_
  obtain ⟨e, he, rfl⟩ := List.mem_map.1 hm
  exact plain_text (h e.1 (List.mem_map_of_mem he)) e.2

end ConfigTree

/-! ### Writing -/

section Writing

variable {depth : Nat}

lemma Dict.sorted_toJson (d : Dict String) : d.toJson.sorted = d.toJson := by
  have hsorted : d.entries.map (fun e => (e.1, (Json.string e.2).sorted)) =
      (d.map Json.string).entries := by
    simp only [Json.sorted, Dict.map]
  rw [Dict.toJson, Json.sorted, Json.sortedMembers_eq_map, List.map_map]
  exact congrArg Json.ofMembers hsorted |>.trans (by rw [Json.ofMembers, ofList_entries]; rfl)

lemma Dict.textual_toJson (d : Dict String) : d.toJson.Textual (depth + 1) := by
  refine .object fun e he => ?_
  obtain ⟨e, -, rfl⟩ := List.mem_map.1 he
  exact .string e.2

namespace BlockDef

/-- The written form of a block, with its fields in the order of their declaration. -/
def record (b : BlockDef) : Json :=
  .object [("name", .string b.name), ("type", .string b.type), ("parameters", b.parameters.toJson)]

lemma sorted_record (b : BlockDef) : b.record.sorted = b.toJson := by
  simp only [record, toJson, Json.sorted, Json.sortedMembers, b.parameters.sorted_toJson,
    Json.ofMembers, Dict.entries_ofList, List.foldl_cons, List.foldl_nil, Dict.insertEntry,
    String.reduceLT, ↓reduceIte]

lemma textual_record (b : BlockDef) : b.record.Textual (depth + 2) := by
  refine .object ?_
  simp only [List.forall_mem_cons]
  exact ⟨.string _, .string _, b.parameters.textual_toJson, by simp⟩

end BlockDef

namespace Connection

/-- The written form of a connection, with its fields in the order of their declaration. -/
def record (c : Connection) : Json :=
  .object [("source", .string c.source), ("source_output", .string c.sourceOutput),
    ("sink", .string c.sink), ("sink_input", .string c.sinkInput)]

lemma sorted_record (c : Connection) : c.record.sorted = c.toJson := by
  simp only [record, toJson, Json.sorted, Json.sortedMembers, Json.ofMembers, Dict.entries_ofList,
    List.foldl_cons, List.foldl_nil, Dict.insertEntry, String.reduceLT, ↓reduceIte]

lemma textual_record (c : Connection) : c.record.Textual (depth + 1) := by
  refine .object ?_
  simp only [List.forall_mem_cons]
  exact ⟨.string _, .string _, .string _, .string _, by simp⟩

end Connection

namespace PipelineInfo

lemma ascending (p : PipelineInfo) : [("name", Json.string p.name),
    ("platform", Json.string p.platform)].Pairwise fun a b => a.1 < b.1 := by
  refine List.pairwise_map.1 (?_ : ["name", "platform"].Pairwise (· < ·))
  decide

lemma sorted_toJson (p : PipelineInfo) : p.toJson.sorted = p.toJson :=
  congrArg (fun d : Dict Json => Json.object d.entries) (Dict.ofList_entries ⟨_, p.ascending⟩)

lemma textual_toJson (p : PipelineInfo) : p.toJson.Textual (depth + 1) := by
  refine .object ?_
  simp only [List.forall_mem_cons]
  exact ⟨.string _, .string _, by simp⟩

end PipelineInfo

namespace GraphConfig

/-- The written form of a description, with the fields of all its parts in the order of their
declaration. -/
def record (c : GraphConfig) : Json :=
  .object [("pipeline", c.pipeline.toJson), ("blocks", .array (c.blocks.map BlockDef.record)),
    ("connections", .array (c.connections.map Connection.record)), ("settings", c.settings.toJson)]

lemma sorted_record (c : GraphConfig) : c.record.sorted = c.toJson := by
  have hblocks : Json.sorted ∘ BlockDef.record = BlockDef.toJson := funext BlockDef.sorted_record
  have hconnections : Json.sorted ∘ Connection.record = Connection.toJson :=
    funext Connection.sorted_record
  simp only [record, toJson, Json.sorted, Json.sortedMembers, Json.sortedItems_eq_map,
    List.map_map, hblocks, hconnections, c.pipeline.sorted_toJson, c.settings.sorted_toJson,
    Json.ofMembers, Dict.entries_ofList, List.foldl_cons, List.foldl_nil, Dict.insertEntry,
    String.reduceLT, ↓reduceIte]

lemma textual_record (c : GraphConfig) : c.record.Textual (depth + 4) := by
  refine .object ?_
  simp only [List.forall_mem_cons]
  refine ⟨c.pipeline.textual_toJson, .array fun j hj => ?_, .array fun j hj => ?_,
    c.settings.textual_toJson, by simp⟩
  · obtain ⟨b, -, rfl⟩ := List.mem_map.1 hj
    exact b.textual_record
  · obtain ⟨e, -, rfl⟩ := List.mem_map.1 hj
    exact e.textual_record

/-- Reading the text of a description gives its JSON form. -/
lemma parse?_record (c : GraphConfig) : Json.parse? c.record.render = some c.toJson := by
  have htextual : c.record.Textual (123 + 4) := c.textual_record
  rw [Json.parse?_render htextual, sorted_record]

end GraphConfig

end Writing

/-! ### Loading -/

namespace GraphConfig

variable {c : GraphConfig}

/-- The members of the JSON form of a description. -/
def members (c : GraphConfig) : Dict Json where
  entries := [("blocks", .array (c.blocks.map BlockDef.toJson)),
    ("connections", .array (c.connections.map Connection.toJson)),
    ("pipeline", c.pipeline.toJson), ("settings", c.settings.toJson)]
  ascending := by
    refine List.pairwise_map.1
      (?_ : ["blocks", "connections", "pipeline", "settings"].Pairwise (· < ·))
    decide

lemma plain_members (h : ∀ k ∈ c.settings.keys, lower k = k) :
    ∀ m ∈ c.members.entries, ConfigTree.Plain m := by
  have hinfo : ∀ k ∈ ["name", "platform"], lower k = k := by decide +kernel
  have hroot : ∀ k ∈ ["blocks", "connections", "pipeline", "settings"], lower k = k := by
    decide +kernel
  simp only [List.forall_mem_cons] at hinfo hroot
  obtain ⟨hname, hplatform, -⟩ := hinfo
  obtain ⟨hblocks, hconnections, hpipeline, hsettings, -⟩ := hroot
  simp only [members, List.forall_mem_cons]
  refine ⟨ConfigTree.plain_array hblocks _, ConfigTree.plain_array hconnections _, ?_,
    ConfigTree.plain_texts hsettings h, by simp⟩
  refine ConfigTree.plain_table hpipeline (d := ⟨_, c.pipeline.ascending⟩) ?_
  simp only [List.forall_mem_cons]
  exact ⟨ConfigTree.plain_text hname _, ConfigTree.plain_text hplatform _, by simp⟩

/-- The document that was written is gathered as it is. -/
lemma gather_members (h : ∀ k ∈ c.settings.keys, lower k = k) :
    ConfigTree.gather c.members.entries = .ok c.toJson := by
  have hpaths : ∀ m ∈ c.members.entries,
      ConfigTree.path? (lower m.1) = some [.member m.1] := by
    simp only [members, List.forall_mem_cons]
    exact ⟨by decide +kernel, by decide +kernel, by decide +kernel, by decide +kernel, by simp⟩
  rw [ConfigTree.gather, ConfigTree.foldlM_assign hpaths,
    ConfigTree.storeAll_plain (plain_members h)]
  rfl

lemma normalizeSettings_eq_self (h : ∀ k ∈ c.settings.keys, lower k = k) :
    c.normalizeSettings = c := by
  have hsame : c.settings.entries.map (fun e => (asciiLower e.1, e.2)) = c.settings.entries := by
    conv_rhs => rw [← List.map_id c.settings.entries]
    refine List.map_congr_left fun e he => Prod.ext ?_ rfl
    have hkey := h e.1 (List.mem_map_of_mem he)
    exact (congrArg asciiLower hkey.symm).trans ((Text.asciiLower_lower e.1).trans hkey)
  have hsettings : Dict.ofList (c.settings.entries.map fun e => (asciiLower e.1, e.2)) =
      c.settings := by
    rw [hsame, Dict.ofList_entries]
  exact congrArg (fun settings => { c with settings := settings }) hsettings

/-- A text that holds the JSON form of a description is loaded as that description. -/
lemma ofText_of_parse? (h : ∀ k ∈ c.settings.keys, lower k = k) {text : String}
    (htext : Json.parse? text = some c.toJson) : ofText text .json = .ok c := by
  have hmembers : ConfigFormat.json.members? text = some c.members.entries := by
    simp only [ConfigFormat.members?, htext]
    rfl
  have hload : ofMembers c.members.entries = .ok (some c) := by
    simp only [ofMembers, gather_members h, bind, Except.bind, pure, Except.pure,
      ConfigReader.readsTexts_lenient.graph? c, Option.map_some, normalizeSettings_eq_self h]
  simp only [ofText, hmembers, hload, Checked.lift, bind, Except.bind, pure, Except.pure]

/-- A description is read from its JSON form, and from the text of that form, as it was. If the keys
of its settings are in lower case, it is also loaded from any text that holds the form. -/
theorem round_trip (c : GraphConfig) :
    ofJson? c.toJson = some c ∧ (Json.parse? c.record.render).bind ofJson? = some c ∧
      ((∀ k ∈ c.settings.keys, lower k = k) →
        ofText c.record.render .json = .ok c ∧
          ∀ text, Json.parse? text = some c.toJson → ofText text .json = .ok c) := by
  have hread : ofJson? c.toJson = some c := ConfigReader.readsTexts_strict.graph? c
  refine ⟨hread, ?_, fun hkeys => ⟨?_, fun text htext => ?_⟩⟩
  · rw [parse?_record, Option.bind_some, hread]
  · exact ofText_of_parse? hkeys c.parse?_record
  · exact ofText_of_parse? hkeys htext

/-- A description whose names have dots, whose labels and block types are empty, and whose setting
has a key outside ASCII. -/
def dotted : GraphConfig where
  pipeline := { name := "a.b", platform := "" }
  blocks := [{ name := "cam.0", type := "", parameters := Dict.empty.insert "A.B" "" }]
  connections := [{ source := "cam.0", sourceOutput := "", sink := "", sinkInput := "in.1" }]
  settings := Dict.empty.insert "é.[x" "É"

theorem round_trip_dotted :
    (∀ k ∈ dotted.settings.keys, lower k = k) ∧ ofText dotted.record.render .json = .ok dotted :=
  have hkeys : ∀ k ∈ dotted.settings.keys, lower k = k := by decide +kernel
  ⟨hkeys, ((round_trip dotted).2.2 hkeys).1⟩

end GraphConfig

end FrameGraph
