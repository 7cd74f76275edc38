import FrameGraph.Json.Parser
import FrameGraph.Json.Printer
import Mathlib.Tactic.Common

/-!
# Reading what was written

A JSON value that is made of texts, arrays and objects is read from its written form as it was, with
the members of its objects in the order of their keys. The written form of a value says where it
ends, so it may stand in front of anything.
-/

namespace FrameGraph.Json

variable {c : Char} {cs rest : List Char} {fuel depth : Nat} {j : Json} {items : List Json}
  {members : List (String × Json)}

/-! ### Characters -/

lemma skipSpace_cons (h : isSpace c = false) : skipSpace (c :: cs) = c :: cs := by
  simp [skipSpace, h]

/-- A control character is written with the digits of its number. -/
lemma unit?_hexDigit : ∀ n < 0x20,
    unit? '0' '0' (hexDigit (n / 16)) (hexDigit (n % 16)) = some n := by decide

/-- The written form of a character is not empty, and no quote that could close a string. -/
lemma exists_escapeChar (c : Char) : ∃ d ds, escapeChar c = d :: ds ∧ d ≠ '"' := by
  unfold escapeChar
  split
  case h_8 hquote _ _ _ _ _ _ =>
    split
    · exact ⟨_, _, rfl, by decide⟩
    · exact ⟨_, _, rfl, hquote⟩
  all_goals exact ⟨_, _, rfl, by decide⟩

lemma stringChar?_of_plain (hcontrol : ¬ c.toNat < 0x20) (hslash : c ≠ '\\') :
    stringChar? (c :: rest) = some (c, rest) := by
  unfold stringChar?
  split
  case h_3 heq =>
    obtain ⟨rfl, rfl⟩ : c = _ ∧ rest = _ := by simpa using heq
    simp [hcontrol, hslash]
  case h_4 heq => cases heq
  all_goals
    rename_i heq
    simp [hslash] at heq

/-- A character is read from its written form. -/
lemma stringChar?_escapeChar (c : Char) (rest : List Char) :
    stringChar? (escapeChar c ++ rest) = some (c, rest) := by
  unfold escapeChar
  split
  case h_8 hslash _ _ _ _ _ =>
    split
    · rename_i hcontrol
      have hunit := unit?_hexDigit c.toNat hcontrol
      have hlow : ¬ 0xd800 ≤ c.toNat := by omega
      have hhigh : ¬ 0xdc00 ≤ c.toNat := by omega
      simp [stringChar?, hunit, hlow, hhigh]
    · rename_i hcontrol
      exact stringChar?_of_plain hcontrol hslash
  all_goals rfl

/-! ### Strings -/

lemma stringBody?_succ {read : List Char} (h : c ≠ '"') :
    stringBody? (fuel + 1) read (c :: cs) =
      (stringChar? (c :: cs)).bind fun p => stringBody? fuel (p.1 :: read) p.2 := by
  rw [stringBody?]
  · rfl
  · intro rest heq
    simp [h] at heq

/-- The characters of a string are read one after the other. -/
lemma stringBody?_flatMap (s read rest : List Char) (h : s.length ≤ fuel) :
    stringBody? fuel read (s.flatMap escapeChar ++ '"' :: rest) =
      some (String.ofList (read.reverse ++ s), rest) := by
  induction s generalizing fuel read with
  | nil => cases fuel <;> simp [stringBody?]
  | cons c s ih =>
    obtain ⟨fuel, rfl⟩ : ∃ n, fuel = n + 1 :=
      Nat.exists_eq_add_one.2 (Nat.lt_of_lt_of_le (by simp) h)
    obtain ⟨d, ds, hd, hquote⟩ := exists_escapeChar c
    have hread := stringChar?_escapeChar c (s.flatMap escapeChar ++ '"' :: rest)
    rw [hd, List.cons_append] at hread
    rw [List.flatMap_cons, hd, List.append_assoc, List.cons_append, stringBody?_succ hquote, hread,
      Option.bind_some, ih (c :: read) (by simpa using h)]
    simp

lemma length_le_flatMap (s : List Char) : s.length ≤ (s.flatMap escapeChar).length := by
  induction s with
  | nil => simp
  | cons c s ih =>
    obtain ⟨d, ds, hd, -⟩ := exists_escapeChar c
    simp only [List.flatMap_cons, hd, List.length_append, List.length_cons]
    omega

/-- A string is read from its written form, the quote that opens it aside. -/
lemma string?_flatMap (s : String) (rest : List Char) :
    string? (s.toList.flatMap escapeChar ++ '"' :: rest) = some (s, rest) := by
  rw [string?, stringBody?_flatMap]
  · simp
  · have hlength := length_le_flatMap s.toList
    rw [List.length_append]
    omega

/-! ### Values made of texts -/

/-- A value of texts, arrays and objects that are nested at most `depth` deep. -/
inductive Textual : (depth : Nat) → Json → Prop
  | string {d} (s : String) : Textual d (.string s)
  | array {d vs} (h : ∀ v ∈ vs, Textual d v) : Textual (d + 1) (.array vs)
  | object {d ms} (h : ∀ e ∈ ms, Textual d e.2) : Textual (d + 1) (.object ms)

mutual

/-- A value with the members of its objects in the order of their keys. -/
def sorted : Json → Json
  | array items => array (sortedItems items)
  | object members => ofMembers (sortedMembers members)
  | v => v

def sortedItems : List Json → List Json
  | [] => []
  | v :: rest => v.sorted :: sortedItems rest

/-- The members of an object, each with its value sorted. -/
def sortedMembers : List (String × Json) → List (String × Json)
  | [] => []
  | (k, v) :: rest => (k, v.sorted) :: sortedMembers rest

end

lemma sortedItems_eq_map (items : List Json) : sortedItems items = items.map sorted := by
  induction items with
  | nil => rfl
  | cons v items ih => rw [sortedItems, ih, List.map_cons]

lemma sortedMembers_eq_map (members : List (String × Json)) :
    sortedMembers members = members.map fun e => (e.1, e.2.sorted) := by
  induction members with
  | nil => rfl
  | cons e members ih => rw [sortedMembers, ih, List.map_cons]

/-- The first character of a written value tells which kind it is. -/
lemma Textual.head (h : j.Textual depth) :
    ∃ c cs, j.renderChars = c :: cs ∧ isSpace c = false ∧ c ≠ ']' := by
  cases h with
  | string s => exact ⟨_, _, rfl, by decide, by decide⟩
  | array h => exact ⟨_, _, by rw [renderChars], by decide, by decide⟩
  | object h => exact ⟨_, _, by rw [renderChars], by decide, by decide⟩

/-- A value can be read from its written form. -/
def Reads (depth : Nat) (j : Json) : Prop :=
  ∀ fuel rest, j.renderChars.length ≤ fuel →
    value? fuel depth (j.renderChars ++ rest) = some (j.sorted, rest)

lemma reads_string (s : String) : Reads depth (.string s) := by
  intro fuel rest hfuel
  obtain ⟨fuel, rfl⟩ : ∃ n, fuel = n + 1 :=
    Nat.exists_eq_add_one.2 (Nat.lt_of_lt_of_le (by simp [renderChars, renderString]) hfuel)
  simp only [renderChars, renderString, List.cons_append, List.append_assoc, List.nil_append,
    value?, skipSpace_cons (c := '"') rfl, string?_flatMap, Option.map_some, sorted]

/-- Items that can be read one by one can be read as the items of an array. -/
lemma items?_renderItems (hitems : items ≠ []) (hreads : ∀ v ∈ items, Reads depth v)
    (read : List Json) (rest : List Char) (hfuel : (renderItems items).length < fuel) :
    items? fuel depth read (renderItems items ++ ']' :: rest) =
      some (read.reverse ++ sortedItems items, rest) := by
  induction items generalizing fuel read with
  | nil => exact absurd rfl hitems
  | cons v items ih =>
    obtain ⟨fuel, rfl⟩ : ∃ n, fuel = n + 1 := Nat.exists_eq_add_one.2 (Nat.zero_lt_of_lt hfuel)
    have hv := hreads v List.mem_cons_self
    cases items with
    | nil =>
      rw [renderItems] at hfuel ⊢
      rw [items?, hv fuel _ (by omega)]
      simp [skipSpace_cons (c := ']') rfl, sortedItems]
    | cons w items =>
      simp only [renderItems, List.length_append, List.length_cons] at hfuel
      simp only [renderItems, List.append_assoc, List.cons_append]
      rw [items?, hv fuel _ (by omega)]
      simp only [Option.bind_eq_bind, Option.bind_some, skipSpace_cons (c := ',') rfl]
      rw [ih (by simp) (fun u hu => hreads u (List.mem_cons_of_mem v hu)) (v.sorted :: read)
        (by omega)]
      simp [sortedItems]

lemma reads_array (hreads : ∀ v ∈ items, Reads depth v)
    (htextual : ∀ v ∈ items, v.Textual depth) : Reads (depth + 1) (.array items) := by
  intro fuel rest hfuel
  obtain ⟨fuel, rfl⟩ : ∃ n, fuel = n + 1 :=
    Nat.exists_eq_add_one.2 (Nat.lt_of_lt_of_le (by simp [renderChars]) hfuel)
  simp only [renderChars, List.length_cons, List.length_append, List.length_nil] at hfuel
  simp only [renderChars, List.cons_append, List.append_assoc, List.nil_append, value?,
    skipSpace_cons (c := '[') rfl]
  cases items with
  | nil => simp [renderItems, skipSpace_cons (c := ']') rfl, sorted, sortedItems]
  | cons v others =>
    -- the first item does not look like the end of the array
    obtain ⟨c, cs, hhead, hspace, hclose⟩ := (htextual v List.mem_cons_self).head
    obtain ⟨cs, hfirst⟩ : ∃ cs, renderItems (v :: others) = c :: cs := by
      cases others <;> simp [renderItems, hhead]
    have hread : items? fuel depth [] (renderItems (v :: others) ++ ']' :: rest) =
        some (sortedItems (v :: others), rest) :=
      items?_renderItems (by simp) hreads [] rest (by omega)
    rw [hfirst, List.cons_append] at hread ⊢
    rw [skipSpace_cons hspace]
    split
    · rename_i hdepth
      cases hdepth
    · rename_i heq _
      simp [hclose] at heq
    · rename_i hdepth _
      cases hdepth
      simp [hread, sorted]

/-- Members whose values can be read one by one can be read as the members of an object. -/
lemma members?_renderMembers (hmembers : members ≠ []) (hreads : ∀ e ∈ members, Reads depth e.2)
    (read : List (String × Json)) (rest : List Char)
    (hfuel : (renderMembers members).length < fuel) :
    members? fuel depth read (renderMembers members ++ '\x7d' :: rest) =
      some (read.reverse ++ sortedMembers members, rest) := by
  induction members generalizing fuel read with
  | nil => exact absurd rfl hmembers
  | cons e members ih =>
    obtain ⟨k, v⟩ := e
    obtain ⟨fuel, rfl⟩ : ∃ n, fuel = n + 1 := Nat.exists_eq_add_one.2 (Nat.zero_lt_of_lt hfuel)
    have hv : Reads depth v := hreads (k, v) List.mem_cons_self
    cases members with
    | nil =>
      simp only [renderMembers, renderString, List.cons_append, List.length_cons,
        List.length_append, List.append_assoc, List.nil_append] at hfuel ⊢
      simp only [members?, skipSpace_cons (c := '"') rfl, string?_flatMap, Option.bind_eq_bind,
        Option.bind_some, skipSpace_cons (c := ':') rfl]
      rw [hv fuel _ (by omega)]
      simp [skipSpace_cons (c := '\x7d') rfl, sortedMembers]
    | cons m members =>
      simp only [renderMembers, renderString, List.cons_append, List.length_cons,
        List.length_append, List.append_assoc, List.nil_append] at hfuel ⊢
      simp only [members?, skipSpace_cons (c := '"') rfl, string?_flatMap, Option.bind_eq_bind,
        Option.bind_some, skipSpace_cons (c := ':') rfl]
      rw [hv fuel _ (by omega)]
      simp only [Option.bind_some, skipSpace_cons (c := ',') rfl]
      rw [ih (by simp) (fun u hu => hreads u (List.mem_cons_of_mem _ hu)) ((k, v.sorted) :: read)
        (by omega)]
      simp [sortedMembers]

lemma reads_object (hreads : ∀ e ∈ members, Reads depth e.2) :
    Reads (depth + 1) (.object members) := by
  intro fuel rest hfuel
  obtain ⟨fuel, rfl⟩ : ∃ n, fuel = n + 1 :=
    Nat.exists_eq_add_one.2 (Nat.lt_of_lt_of_le (by simp [renderChars]) hfuel)
  simp only [renderChars, List.length_cons, List.length_append, List.length_nil] at hfuel
  simp only [renderChars, List.cons_append, List.append_assoc, List.nil_append, value?,
    skipSpace_cons (c := '\x7b') rfl]
  cases members with
  | nil =>
    simp only [renderMembers, List.nil_append, skipSpace_cons (c := '\x7d') rfl, sorted,
      sortedMembers]
    rfl
  | cons e others =>
    obtain ⟨cs, hfirst⟩ : ∃ cs, renderMembers (e :: others) = '"' :: cs := by
      cases others <;> simp [renderMembers, renderString]
    have hread : members? fuel depth [] (renderMembers (e :: others) ++ '\x7d' :: rest) =
        some (sortedMembers (e :: others), rest) :=
      members?_renderMembers (by simp) hreads [] rest (by omega)
    rw [hfirst, List.cons_append] at hread ⊢
    rw [skipSpace_cons (c := '"') rfl]
    simp [hread, sorted]

/-! ### The round trip -/

theorem Textual.reads (h : j.Textual depth) : Reads depth j := by
  induction h with
  | string s => exact reads_string s
  | array h ih => exact reads_array ih h
  | object h ih => exact reads_object ih

/-- A value of texts is read from its written form, with its members in order. -/
theorem parse?_render (h : j.Textual maxDepth) : parse? j.render = some j.sorted := by
  have hlength : j.renderChars.length ≤ 2 * j.renderChars.length + 2 := by omega
  have hread := h.reads _ [] hlength
  rw [List.append_nil] at hread
  simp [parse?, render, hread, skipSpace]

/-- Braces, quotes and controls in a text do not end it, and the members are put in order. -/
example : (parse? (render (.object [("b", .array [.string "]\"\n"]), ("a", .string "")]))).map
    render = some "\x7b\"a\":\"\",\"b\":[\"]\\\"\\n\"]\x7d" := by
  decide +kernel

end FrameGraph.Json
