import Mathlib
import RuleGraph.Config
import RuleGraph.Engine.Loading

/-!
# Which value a parameter has

A node is made from values of three levels: those for all nodes, those for its type and those
written in the rule. The value of a name is that of the highest level which has the name, and in a
rule the one written last. Tables have every name once, and so have the configurations that are
loaded from a file or filled by hand.
-/
namespace RuleGraph

namespace Table

variable {α β : Type} {table : Table α} {key : String}

/-- The names grow along the table, so that none comes twice. -/
def Ordered (table : Table α) : Prop := table.Pairwise fun e f => e.1 < f.1

theorem ordered_nil : Ordered ([] : Table α) := .nil

theorem ordered_singleton (e : String × α) : Ordered [e] := List.pairwise_singleton _ e

theorem mem_insert {value : α} {e : String × α} (h : e ∈ insert key value table) :
    e = (key, value) ∨ e ∈ table := by
  induction table with
  | nil => exact .inl (List.mem_singleton.mp h)
  | cons f rest ih =>
    obtain ⟨k, v⟩ := f
    rw [insert] at h
    split at h
    · obtain rfl | h := List.mem_cons.mp h
      · exact .inl rfl
      · exact .inr (List.mem_cons_of_mem _ h)
    · split at h
      · exact List.mem_cons.mp h
      · obtain rfl | h := List.mem_cons.mp h
        · exact .inr List.mem_cons_self
        · exact (ih h).imp_right (List.mem_cons_of_mem _)

theorem Ordered.insert (h : Ordered table) (key : String) (value : α) :
    Ordered (Table.insert key value table) := by
  induction table with
  | nil => exact ordered_singleton _
  | cons f rest ih =>
    obtain ⟨k, v⟩ := f
    obtain ⟨hfirst, hrest⟩ := List.pairwise_cons.mp h
    rw [Table.insert]
    split
    · rename_i heq
      exact List.pairwise_cons.mpr ⟨heq ▸ hfirst, hrest⟩
    · split
      · rename_i hlt
        refine List.pairwise_cons.mpr ⟨fun e he => ?_, h⟩
        obtain rfl | he := List.mem_cons.mp he
        · exact hlt
        · exact hlt.trans (hfirst e he)
      · rename_i hne hnlt
        refine List.pairwise_cons.mpr ⟨fun e he => ?_, ih hrest⟩
        obtain rfl | he := mem_insert he
        · exact (lt_or_gt_of_ne hne).resolve_left hnlt
        · exact hfirst e he

theorem insertAll_concat (table : Table α) (entries : List (String × α)) (e : String × α) :
    insertAll table (entries ++ [e]) = Table.insert e.1 e.2 (insertAll table entries) :=
  List.foldl_append

theorem mem_of_mem_ofList {entries : List (String × α)} {e : String × α} (h : e ∈ ofList entries) :
    e ∈ entries := by
  induction entries using List.reverseRecOn with
  | nil => exact h
  | append_singleton entries f ih =>
    rw [ofList, insertAll_concat] at h
    obtain rfl | h := mem_insert h
    · exact List.mem_append_right _ List.mem_cons_self
    · exact List.mem_append_left _ (ih h)

theorem Ordered.insertAll (h : Ordered table) (entries : List (String × α)) :
    Ordered (Table.insertAll table entries) := by
  induction entries using List.reverseRecOn with
  | nil => exact h
  | append_singleton entries e ih => exact insertAll_concat table entries e ▸ ih.insert e.1 e.2

theorem ordered_ofList (entries : List (String × α)) : Ordered (ofList entries) :=
  ordered_nil.insertAll entries

theorem Ordered.map (h : Ordered table) (f : α → β) :
    Ordered (List.map (fun e => (e.1, f e.2)) table) :=
  List.pairwise_map.mpr h

/-! ### Looking up names -/

theorem get?_map (f : α → β) (table : Table α) (key : String) :
    get? (table.map fun e => (e.1, f e.2)) key = (get? table key).map f := by
  induction table with
  | nil => rfl
  | cons e rest ih =>
    rw [List.map_cons, get?, get?, ih]
    split <;> rfl

theorem get?_eq_none_iff : get? table key = none ↔ key ∉ keys table := by
  induction table with
  | nil => simp [get?, keys]
  | cons e rest ih =>
    obtain ⟨k, v⟩ := e
    rw [get?]
    split
    · rename_i heq
      simp [keys, heq]
    · rename_i hne
      rw [ih]
      simp [keys, hne]

theorem mem_keys_iff : key ∈ keys table ↔ ∃ value, get? table key = some value := by
  rw [← Option.ne_none_iff_exists', Ne, get?_eq_none_iff, not_not]

/-- The value that a name was given last in a list. -/
def lastOf (key : String) (entries : List (String × α)) : Option α :=
  (entries.filter fun e => e.1 = key).getLast?.map Prod.snd

theorem lastOf_append (key : String) (entries more : List (String × α)) :
    lastOf key (entries ++ more) = (lastOf key more).or (lastOf key entries) := by
  rw [lastOf, List.filter_append, List.getLast?_append, Option.map_or]
  rfl

theorem get?_ofList (entries : List (String × α)) (key : String) :
    get? (ofList entries) key = lastOf key entries := by
  induction entries using List.reverseRecOn with
  | nil => rfl
  | append_singleton entries e ih =>
    rw [ofList, insertAll_concat, get?_insert, ← ofList, ih, lastOf_append]
    by_cases h : key = e.1
    · simp [lastOf, h]
    · simp [lastOf, h, Ne.symm h]

/-- In a table the last value of a name is the only one. -/
theorem Ordered.lastOf_eq (h : Ordered table) (key : String) :
    lastOf key table = get? table key := by
  induction table with
  | nil => rfl
  | cons e rest ih =>
    obtain ⟨k, v⟩ := e
    obtain ⟨hfirst, hrest⟩ := List.pairwise_cons.mp h
    have hcons : lastOf key ((k, v) :: rest) = (get? rest key).or (lastOf key [(k, v)]) := by
      rw [← ih hrest, ← lastOf_append]
      rfl
    rw [hcons, get?]
    split
    · rename_i heq
      have hnone : get? rest key = none := by
        rw [get?_eq_none_iff]
        intro hmem
        obtain ⟨f, hf, rfl⟩ := List.mem_map.mp hmem
        exact (hfirst f hf).ne' heq
      rw [hnone, Option.none_or]
      simp [lastOf, heq]
    · rename_i hne
      simp [lastOf, Ne.symm hne]

end Table

theorem Params.values_ofList (entries : List (String × String)) :
    (Params.ofList entries).values = Table.ofList entries := by
  induction entries using List.reverseRecOn with
  | nil => rfl
  | append_singleton entries e ih =>
    rw [Params.ofList, List.foldl_append, ← Params.ofList, Table.ofList, Table.insertAll_concat,
      ← Table.ofList, ← ih]
    rfl

theorem Params.get?_ofList (entries : List (String × String)) (key : String) :
    (Params.ofList entries).get? key = Table.lastOf key entries := by
  rw [Params.get?, Params.values_ofList, Table.get?_ofList]

namespace Config

open Table (Ordered)

/-! ### Configurations -/

/-- Each of the tables of a configuration is one. -/
structure Proper (c : Config) : Prop where
  custom : Ordered c.custom
  nodes : Ordered c.nodes
  values : ∀ e ∈ c.nodes, Ordered e.2

variable {c : Config}

theorem proper_empty : empty.Proper := ⟨.nil, .nil, by simp [empty]⟩

theorem Proper.withCustom (h : c.Proper) (key : String) (value : Toml.Value) :
    (c.withCustom key value).Proper :=
  ⟨h.custom.insert key value, h.nodes, h.values⟩

/-- The values for the nodes of one type. -/
theorem Proper.ordered_values (h : c.Proper) (type : String) :
    Ordered ((Table.get? c.nodes type).getD []) := by
  have hmem (nodes : Table (Table Toml.Value)) (hall : ∀ e ∈ nodes, Ordered e.2) :
      Ordered ((Table.get? nodes type).getD []) := by
    induction nodes with
    | nil => exact .nil
    | cons e rest ih =>
      obtain ⟨hfirst, hrest⟩ := List.forall_mem_cons.mp hall
      rw [Table.get?]
      split
      · exact hfirst
      · exact ih hrest
  exact hmem c.nodes h.values

theorem Proper.withNodeValue (h : c.Proper) (type key : String) (value : Toml.Value) :
    (c.withNodeValue type key value).Proper := by
  refine ⟨h.custom, h.nodes.insert _ _, fun e he => ?_⟩
  obtain rfl | he := Table.mem_insert he
  · exact (h.ordered_values type).insert key value
  · exact h.values e he

theorem Proper.rebase (h : c.Proper) (base : Path) : (c.rebase base).Proper :=
  ⟨h.custom, h.nodes, h.values⟩

theorem ordered_of_entries? {v : Toml.Value} {table : Table Toml.Value}
    (h : v.entries? = some table) : Ordered table := by
  unfold Toml.Value.entries? at h
  split at h
  · cases h
    exact Table.ordered_singleton _
  · obtain ⟨entries, -, rfl⟩ := Option.map_eq_some_iff.mp h
    exact Table.ordered_ofList entries
  · cases h

/-- Each entry that was read is one that the reader gave. -/
theorem exists_of_mem_eachEntry {β : Type} {read : Toml.Value → Option β}
    {entries : List (String × Toml.Value)} {found : List (String × β)}
    (h : eachEntry read entries = some found) : ∀ e ∈ found, ∃ v, read v = some e.2 := by
  induction entries generalizing found with
  | nil =>
    cases h
    simp
  | cons f rest ih =>
    simp only [eachEntry, Option.bind_eq_bind, Option.bind_eq_some_iff] at h
    obtain ⟨a, ha, more, hmore, hfound⟩ := h
    cases hfound
    exact List.forall_mem_cons.mpr ⟨⟨f.2, ha⟩, ih hmore⟩

/-- What holds of a default and of all that the reader gives holds of the entry that was read. -/
theorem of_readEntry {β : Type} {P : β → Prop} {table : List (String × Toml.Value)} {name : String}
    {missing b : β} {read : Toml.Value → Option β} (hmissing : P missing)
    (hread : ∀ v b, read v = some b → P b) (h : readEntry table name missing read = some b) :
    P b := by
  unfold readEntry at h
  split at h
  · cases h
    exact hmissing
  · exact hread _ _ h

theorem proper_of_ofTable? {table : List (String × Toml.Value)} (h : ofTable? table = some c) :
    c.Proper := by
  unfold ofTable? at h
  split at h
  · simp only [Option.bind_eq_bind, Option.bind_eq_some_iff] at h
    obtain ⟨⟨level, directory⟩, -, rules, -, custom, hcustom, nodes, hnodes, hc⟩ := h
    cases hc
    have hcustom' : Ordered custom := of_readEntry .nil (fun _ _ => ordered_of_entries?) hcustom
    have hnodes' : Ordered nodes ∧ ∀ e ∈ nodes, Ordered e.2 := by
      refine of_readEntry (P := fun nodes => Ordered nodes ∧ ∀ e ∈ nodes, Ordered e.2)
        ⟨.nil, by simp⟩ (fun v nodes hread => ?_) hnodes
      obtain ⟨entries, hentries, rfl⟩ := Option.map_eq_some_iff.mp hread
      obtain ⟨typed, -, heach⟩ := Option.bind_eq_some_iff.mp hentries
      refine ⟨Table.ordered_ofList entries, fun e he => ?_⟩
      obtain ⟨v, hv⟩ := exists_of_mem_eachEntry heach e (Table.mem_of_mem_ofList he)
      exact ordered_of_entries? hv
    exact ⟨hcustom', hnodes'.1, hnodes'.2⟩
  · cases h

/-- A configuration that is read from a text is a proper one. -/
theorem proper_of_parse {source : String} (h : parse source = .ok c) : c.Proper := by
  unfold parse at h
  split at h
  · rename_i config hconfig
    cases h
    obtain ⟨table, -, htable⟩ := Option.bind_eq_some_iff.mp hconfig
    exact proper_of_ofTable? htable
  · cases h

/-- A configuration that is loaded from a file is a proper one. -/
theorem proper_of_load {source : Source} {file : Path} (h : load source file = .ok c) :
    c.Proper := by
  unfold load at h
  split at h
  · cases h
  · split at h
    · cases h
    · rename_i config hconfig
      have hproper := proper_of_parse hconfig
      split at h
      · split_ifs at h <;> cases h
        · exact hproper
        · exact hproper.rebase _
      · cases h
        exact hproper

/-! ### Three levels -/

/-- The value that a rule gives to a name: of several the last one. -/
def writtenValue? (written : List Param) (key : String) : Option ParamValue :=
  (written.filter fun p => p.name = key).getLast?.map Param.value

/-- The value for the nodes of one type. -/
def typeValue? (c : Config) (type key : String) : Option Toml.Value :=
  (Table.get? c.nodes type).bind fun values => Table.get? values key

theorem lastOf_paramTexts (written : List Param) (key : String) :
    Table.lastOf key (paramTexts written) = (writtenValue? written key).map ParamValue.render := by
  rw [Table.lastOf, paramTexts, List.filter_map, List.getLast?_map, writtenValue?, Option.map_map,
    Option.map_map]
  rfl

theorem lastOf_entryTexts {table : Table Toml.Value} (h : Ordered table) (key : String) :
    Table.lastOf key (entryTexts table) = (Table.get? table key).map Toml.Value.text :=
  ((h.map Toml.Value.text).lastOf_eq key).trans (Table.get?_map Toml.Value.text table key)

theorem get?_values (c : Config) (type key : String) :
    Table.get? ((Table.get? c.nodes type).getD []) key = c.typeValue? type key := by
  rw [typeValue?]
  cases Table.get? c.nodes type <;> rfl

theorem nodeParams_get? (h : c.Proper) (type : String) (written : List Param) (key : String) :
    (c.nodeParams type written).get? key =
      ((writtenValue? written key).map ParamValue.render).or
        (((c.typeValue? type key).map Toml.Value.text).or
          ((Table.get? c.custom key).map Toml.Value.text)) := by
  rw [nodeParams, Params.get?_ofList, Table.lastOf_append, Table.lastOf_append,
    lastOf_paramTexts, lastOf_entryTexts (h.ordered_values type), lastOf_entryTexts h.custom,
    get?_values]

theorem mem_keys_nodeParams (h : c.Proper) (type : String) (written : List Param) (key : String) :
    key ∈ Table.keys (c.nodeParams type written).values ↔
      (∃ p ∈ written, p.name = key) ∨ (∃ v, c.typeValue? type key = some v) ∨
        key ∈ Table.keys c.custom := by
  have hwritten : (∃ p ∈ written, p.name = key) ↔ ∃ v, writtenValue? written key = some v := by
    rw [← Option.isSome_iff_exists, writtenValue?, Option.isSome_map, List.getLast?_isSome, Ne,
      List.filter_eq_nil_iff]
    simp
  rw [Table.mem_keys_iff, ← Params.get?, nodeParams_get? h, hwritten, Table.mem_keys_iff]
  simp only [← Option.isSome_iff_exists, Option.isSome_or, Option.isSome_map, Bool.or_eq_true]

/-- A node has for each name the value that was written last in its rule, or else the one for the
nodes of its type, or else the one for all nodes. It has no other names, and none of them twice.
What is configured for other types makes no difference. -/
theorem nodeParams_by_level (h : c.Proper) (type : String) (written : List Param) :
    (∀ key, (c.nodeParams type written).get? key =
      ((writtenValue? written key).map ParamValue.render).or
        (((c.typeValue? type key).map Toml.Value.text).or
          ((Table.get? c.custom key).map Toml.Value.text))) ∧
    (Ordered (c.nodeParams type written).values ∧
      ∀ key, key ∈ Table.keys (c.nodeParams type written).values ↔
        (∃ p ∈ written, p.name = key) ∨ (∃ v, c.typeValue? type key = some v) ∨
          key ∈ Table.keys c.custom) ∧
    ∀ nodes, Table.get? nodes type = Table.get? c.nodes type →
      { c with nodes := nodes }.nodeParams type written = c.nodeParams type written := by
  refine ⟨nodeParams_get? h type written,
    ⟨?_, mem_keys_nodeParams h type written⟩, fun nodes hnodes => ?_⟩
  · rw [nodeParams, Params.values_ofList]
    exact Table.ordered_ofList _
  · rw [nodeParams, hnodes, nodeParams]

/-- A name that is written twice, and others that stand on each of the levels. -/
theorem nodeParams_by_level_timer :
    let forAll := (empty.withCustom "freq" (.string "10s")).withCustom "region" (.string "eu")
    let forTimers := (forAll.withNodeValue "timer" "freq" (.string "2s")).withNodeValue
      "timer" "count" (.integer 5)
    let c := forTimers.withNodeValue "echo" "prefix" (.string "never")
    let params := c.nodeParams "timer" [⟨"count", .text "7"⟩, ⟨"count", .text "3"⟩]
    c.Proper ∧ params.get? "count" = some "3" ∧ params.get? "freq" = some "2s" ∧
      params.get? "region" = some "eu" ∧ params.get? "prefix" = none := by
  intro forAll forTimers c params
  have hall : forAll.Proper := (proper_empty.withCustom _ _).withCustom _ _
  have htimers : forTimers.Proper := (hall.withNodeValue _ _ _).withNodeValue _ _ _
  have hc : c.Proper := htimers.withNodeValue _ _ _
  have hget := (nodeParams_by_level hc "timer" [⟨"count", .text "7"⟩, ⟨"count", .text "3"⟩]).1
  exact ⟨hc, (hget "count").trans rfl, (hget "freq").trans rfl, (hget "region").trans rfl,
    (hget "prefix").trans rfl⟩

end Config
end RuleGraph
