import Mathlib.Tactic.Common
import ReadThrough.Config.Document
import ReadThrough.Yaml.Document

/-!
# The keys of mappings

No mapping of a document has a key twice: a key that is written again replaces
the earlier entry.  This holds for all values that are read, and for those that
anchors stand for.
-/

namespace ReadThrough.Yaml

open ReadThrough.Yaml.Source

/-- A value in which no mapping has a key twice. -/
inductive Value.Distinct : Value → Prop where
  | null : Distinct .null
  | bad : Distinct .bad
  | bool (value : Bool) : Distinct (.bool value)
  | int (value : Int) : Distinct (.int value)
  | real (source : String) : Distinct (.real source)
  | str (text : String) : Distinct (.str text)
  | array {items : List Value} (all : ∀ item ∈ items, Distinct item) : Distinct (.array items)
  | hash {entries : List (Value × Value)} (nodup : (entries.map Prod.fst).Nodup)
      (keys : ∀ entry ∈ entries, Distinct entry.1)
      (values : ∀ entry ∈ entries, Distinct entry.2) : Distinct (.hash entries)

namespace Value

/-! ## Values made of others -/

structure DistinctEntries (entries : List (Value × Value)) : Prop where
  nodup : (entries.map Prod.fst).Nodup
  keys : ∀ entry ∈ entries, entry.1.Distinct
  values : ∀ entry ∈ entries, entry.2.Distinct

/-- What is found in a value has distinct keys, too. -/
theorem Distinct.field {value : Value} (distinct : value.Distinct) (name : String) :
    (value.field name).Distinct := by
  cases distinct with
  | hash nodup keys values =>
      rw [Value.field]
      cases found : List.find? (fun entry : Value × Value => entry.1 = .str name) _ with
      | none => exact .bad
      | some entry => exact values entry (List.mem_of_find?_eq_some found)
  | _ => exact .bad

theorem DistinctEntries.insertEntry {entries : List (Value × Value)}
    (distinct : DistinctEntries entries) {key value : Value} (own : key.Distinct)
    (given : value.Distinct) : DistinctEntries (insertEntry key value entries) := by
  rw [Value.insertEntry]
  refine ⟨?_, fun entry present => ?_, fun entry present => ?_⟩
  · have remaining : key ∉ (entries.filter fun entry => entry.1 ≠ key).map Prod.fst := by
      simp
    rw [List.map_append, List.map_singleton, List.nodup_append]
    refine ⟨distinct.nodup.sublist (List.filter_sublist.map _), List.pairwise_singleton _ _,
      fun other present last own same => remaining ?_⟩
    rw [same, List.mem_singleton.mp own] at present
    exact present
  · rcases List.mem_append.mp present with old | new
    · exact distinct.keys entry (List.mem_filter.mp old).1
    · exact List.mem_singleton.mp new ▸ own
  · rcases List.mem_append.mp present with old | new
    · exact distinct.values entry (List.mem_filter.mp old).1
    · exact List.mem_singleton.mp new ▸ given

theorem distinct_mappingFrom {entries : List (Value × Value)} (distinct : DistinctEntries entries)
    {key : Value} (own : key.Distinct) {nodes : List Value}
    (all : ∀ node ∈ nodes, node.Distinct) : (mappingFrom entries key nodes).Distinct := by
  induction nodes generalizing entries key with
  | nil => exact .hash distinct.nodup distinct.keys distinct.values
  | cons node rest ih =>
      obtain ⟨first, others⟩ := List.forall_mem_cons.mp all
      rw [mappingFrom]
      split
      · exact ih distinct first others
      · exact ih (distinct.insertEntry own first) .bad others

theorem distinct_mapping {nodes : List Value} (all : ∀ node ∈ nodes, node.Distinct) :
    (mapping nodes).Distinct :=
  have nothing : DistinctEntries [] :=
    ⟨List.Pairwise.nil, List.forall_mem_nil _, List.forall_mem_nil _⟩
  distinct_mappingFrom nothing .bad all

/-! ## Scalars -/

theorem distinct_plain (text : String) : (Resolution.plain text).Distinct := by
  rw [Resolution.plain]
  split
  · exact .int _
  · split_ifs <;> constructor

theorem distinct_typed (name text : String) : (Resolution.typed name text).Distinct := by
  unfold Resolution.typed
  split
  · split_ifs <;> constructor
  · cases Resolution.integer? 10 text.toList <;> constructor
  · split_ifs <;> constructor
  · split_ifs <;> constructor
  · exact .str text

theorem distinct_scalarValue (plain : Bool) (tag : Option (String × String)) (text : String) :
    (scalarValue plain tag text).Distinct := by
  unfold scalarValue
  split
  · exact .str text
  · split
    · exact distinct_plain text
    · split
      · exact distinct_typed _ text
      · exact .str text

end Value

/-! ## Readers -/

/-- Whether all values that anchors stand for have distinct keys. -/
def Source.Sound (source : Source) : Prop :=
  ∀ entry ∈ source.values, entry.2.Distinct

/-- Whether a reader keeps the source sound and gives nothing but results with a property. -/
def Yields {α : Type} (reader : Reader α) (good : α → Prop) : Prop :=
  ∀ source : Source, source.Sound → ∀ result next, reader source = some (result, next) →
    good result ∧ next.Sound

section

variable {α β : Type} {good : α → Prop} {fine : β → Prop}

theorem Yields.bind {reader : Reader α} {next : α → Reader β} (first : Yields reader good)
    (later : ∀ result, good result → Yields (next result) fine) :
    Yields (reader >>= next) fine := by
  intro source sound final last read
  obtain ⟨⟨result, middle⟩, firstRead, laterRead⟩ := Option.bind_eq_some_iff.mp read
  obtain ⟨reached, kept⟩ := first source sound result middle firstRead
  exact later result reached middle kept final last laterRead

theorem Yields.pure {result : α} (reached : good result) :
    Yields (pure result : Reader α) good := by
  intro source sound other next read
  cases read
  exact ⟨reached, sound⟩

theorem yields_failure : Yields (failure : Reader α) good := by
  intro source sound result next read
  cases read

theorem Yields.ite {condition : Prop} [Decidable condition] {first second : Reader α}
    (whenTrue : Yields first good) (whenFalse : Yields second good) :
    Yields (if condition then first else second) good := by
  split
  · exact whenTrue
  · exact whenFalse

/-- A reader that is sometimes preceded by another one. -/
theorem Yields.preceded {condition : Prop} [Decidable condition] {first : Reader Unit}
    {before : Unit → Prop} {next : Unit → Reader α} (passed : Yields first before)
    (later : ∀ result, Yields (next result) good) :
    Yields (if condition then (do next (← first)) else next ()) good :=
  .ite (passed.bind fun result _ => later result) (later ())

end

def anything {α : Type} (_ : α) : Prop := True

theorem yields_get : Yields (get : Reader Source) Source.Sound := by
  intro source sound result next read
  cases read
  exact ⟨sound, sound⟩

theorem yields_modify {change : Source → Source}
    (kept : ∀ source : Source, source.Sound → (change source).Sound) :
    Yields (modify change : Reader Unit) anything := by
  intro source sound result next read
  cases read
  exact ⟨True.intro, kept source sound⟩

theorem yields_peek : Yields peek anything :=
  yields_get.bind fun _ _ => .pure True.intro

theorem yields_skip : Yields skip anything :=
  yields_modify fun _ sound => sound

theorem yields_skipAll (tokens : List Token) : Yields (skipAll tokens) anything :=
  yields_modify fun _ sound => sound

theorem yields_newAnchor (name : String) : Yields (newAnchor name) anything := by
  intro source sound result next read
  cases read
  exact ⟨True.intro, sound⟩

theorem yields_skipAny (tokens : List Token) : Yields (skipAny tokens) anything := by
  refine yields_peek.bind fun next _ => ?_
  cases next with
  | none => exact .pure True.intro
  | some token =>
      exact .ite (yields_skip.bind fun _ _ => .pure True.intro) (.pure True.intro)

theorem yields_isNext (tokens : List Token) : Yields (isNext tokens) anything :=
  yields_peek.bind fun _ _ => .pure True.intro

theorem yields_expect (token : Token) : Yields (expect token) anything :=
  (yields_skipAny [token]).bind fun _ _ => .ite (.pure True.intro) yields_failure

/-- What an anchor stands for was read before, or is not complete. -/
theorem yields_aliased (name : String) : Yields (aliased name) Value.Distinct := by
  refine yields_get.bind fun source sound => ?_
  split
  next node _ =>
    refine .pure ?_
    cases found : source.values.lookup node with
    | none => exact .bad
    | some value =>
        obtain ⟨before, after, written, -⟩ := List.lookup_eq_some_iff.mp found
        exact sound (node, value) (by simp [written])
  next => exact yields_failure

/-- A value is kept for the anchor of its node. -/
theorem yields_complete (properties : Properties) {value : Value} (distinct : value.Distinct) :
    Yields (complete properties value) Value.Distinct := by
  rw [complete]
  split
  next node _ =>
    refine Yields.bind (yields_modify fun source sound => ?_) fun _ _ => .pure distinct
    exact List.forall_mem_cons.mpr ⟨distinct, sound⟩
  next =>
    have passed : Yields (pure () : Reader Unit) anything := .pure True.intro
    exact passed.bind fun _ _ => .pure distinct

theorem yields_anchor? : Yields anchor? anything := by
  refine yields_peek.bind fun next _ => ?_
  split
  · exact yields_skip.bind fun _ _ => (yields_newAnchor _).bind fun _ _ => .pure True.intro
  · exact .pure True.intro

theorem yields_tag? : Yields tag? anything := by
  refine yields_peek.bind fun next _ => ?_
  split
  · exact yields_skip.bind fun _ _ => .pure True.intro
  · exact .pure True.intro

theorem yields_properties : Yields properties anything := by
  refine yields_anchor?.bind fun anchor _ => ?_
  cases anchor with
  | some anchor => exact yields_tag?.bind fun _ _ => .pure True.intro
  | none =>
      refine yields_tag?.bind fun tag _ => ?_
      cases tag with
      | some tag => exact yields_anchor?.bind fun _ _ => .pure True.intro
      | none => exact .pure True.intro

/-! ## Nodes -/

def AllDistinct (values : List Value) : Prop := ∀ value ∈ values, value.Distinct

theorem yields_nothing : Yields (pure []) AllDistinct := .pure (List.forall_mem_nil _)

theorem item_cons {readRest : Reader (List Value)} (rest : Yields readRest AllDistinct)
    {item : Value} (distinct : item.Distinct) :
    Yields (do return item :: (← readRest)) AllDistinct :=
  rest.bind fun _ all => .pure (List.forall_mem_cons.mpr ⟨distinct, all⟩)

/-- A key, its value, and the other keys and values. -/
theorem pair_cons {readValue : Reader Value} {readRest : Reader (List Value)}
    (value : Yields readValue Value.Distinct) (rest : Yields readRest AllDistinct) {key : Value}
    (distinct : key.Distinct) :
    Yields (do return key :: (← readValue) :: (← readRest)) AllDistinct :=
  value.bind fun _ given => rest.bind fun _ all =>
    .pure (List.forall_mem_cons.mpr ⟨distinct, List.forall_mem_cons.mpr ⟨given, all⟩⟩)

/-- What the readers of nodes give, if they read no deeper than the limit. -/
structure YieldsDistinct (limit : Nat) : Prop where
  node : ∀ block indentless, Yields (node limit block indentless) Value.Distinct
  content : ∀ block indentless properties,
    Yields (content limit block indentless properties) Value.Distinct
  nodeUnless : ∀ block indentless tokens,
    Yields (nodeUnless limit block indentless tokens) Value.Distinct
  valueUnless : ∀ block indentless tokens,
    Yields (valueUnless limit block indentless tokens) Value.Distinct
  blockItems : Yields (blockItems limit) AllDistinct
  indentlessItems : Yields (indentlessItems limit) AllDistinct
  blockPairs : Yields (blockPairs limit) AllDistinct
  flowItems : ∀ isFirst, Yields (flowItems limit isFirst) AllDistinct
  flowPairs : ∀ isFirst, Yields (flowPairs limit isFirst) AllDistinct

namespace YieldsDistinct

theorem zero : YieldsDistinct 0 := by
  constructor <;> intros <;> exact yields_failure

variable {limit : Nat} (below : YieldsDistinct limit)

include below

theorem node_succ (block indentless : Bool) :
    Yields (Yaml.node (limit + 1) block indentless) Value.Distinct := by
  rw [Yaml.node]
  refine yields_peek.bind fun next _ => ?_
  split
  · exact yields_skip.bind fun _ _ => yields_aliased _
  · refine yields_properties.bind fun properties _ => ?_
    exact (below.content block indentless properties).bind fun value distinct =>
      yields_complete properties distinct

theorem content_succ (block indentless : Bool) (properties : Properties) :
    Yields (Yaml.content (limit + 1) block indentless properties) Value.Distinct := by
  rw [Yaml.content]
  refine yields_peek.bind fun next _ => ?_
  split
  · exact yields_skip.bind fun _ _ => .pure (Value.distinct_scalarValue _ _ _)
  · exact yields_skip.bind fun _ _ => (below.flowItems true).bind fun items all =>
      .pure (.array all)
  · exact yields_skip.bind fun _ _ => (below.flowPairs true).bind fun nodes all =>
      .pure (Value.distinct_mapping all)
  · exact yields_skip.bind fun _ _ => below.blockItems.bind fun items all =>
      .pure (.array all)
  · exact yields_skip.bind fun _ _ => below.blockPairs.bind fun nodes all =>
      .pure (Value.distinct_mapping all)
  · exact below.indentlessItems.bind fun items all => .pure (.array all)
  · exact .ite (.pure (Value.distinct_scalarValue _ _ _)) yields_failure

theorem nodeUnless_succ (block indentless : Bool) (tokens : List Token) :
    Yields (Yaml.nodeUnless (limit + 1) block indentless tokens) Value.Distinct := by
  rw [Yaml.nodeUnless]
  exact (yields_isNext tokens).bind fun _ _ => .ite (.pure .null) (below.node block indentless)

theorem valueUnless_succ (block indentless : Bool) (tokens : List Token) :
    Yields (Yaml.valueUnless (limit + 1) block indentless tokens) Value.Distinct := by
  rw [Yaml.valueUnless]
  exact (yields_skipAny [.value]).bind fun _ _ =>
    .ite (below.nodeUnless block indentless tokens) (.pure .null)

theorem blockItems_succ : Yields (Yaml.blockItems (limit + 1)) AllDistinct := by
  rw [Yaml.blockItems]
  refine (yields_skipAny [.blockEnd]).bind fun _ _ => .ite yields_nothing ?_
  refine (yields_expect .blockEntry).bind fun _ _ => ?_
  exact (below.nodeUnless true false _).bind fun item distinct =>
    item_cons below.blockItems distinct

theorem indentlessItems_succ : Yields (Yaml.indentlessItems (limit + 1)) AllDistinct := by
  rw [Yaml.indentlessItems]
  refine (yields_skipAny [.blockEntry]).bind fun _ _ => .ite ?_ yields_nothing
  exact (below.nodeUnless true false _).bind fun item distinct =>
    item_cons below.indentlessItems distinct

theorem blockPairs_succ : Yields (Yaml.blockPairs (limit + 1)) AllDistinct := by
  rw [Yaml.blockPairs]
  refine (yields_skipAny [.blockEnd]).bind fun _ _ => .ite yields_nothing ?_
  have others {key : Value} (distinct : key.Distinct) :=
    pair_cons (below.valueUnless true true [.key, .value, .blockEnd]) below.blockPairs distinct
  refine (yields_skipAny [.key]).bind fun _ _ => (yields_isNext [.value]).bind fun _ _ => ?_
  refine Yields.ite ?_ (.ite ?_ ?_)
  · exact (below.nodeUnless true true _).bind fun key distinct => others distinct
  · exact others .null
  · exact yields_failure.bind fun key distinct => others distinct

theorem flowItems_succ (isFirst : Bool) :
    Yields (Yaml.flowItems (limit + 1) isFirst) AllDistinct := by
  rw [Yaml.flowItems]
  refine (yields_skipAny [.flowSequenceEnd]).bind fun _ _ => .ite yields_nothing ?_
  refine Yields.preceded (yields_expect .flowEntry) fun _ => ?_
  refine (yields_skipAny [.flowSequenceEnd]).bind fun _ _ => .ite yields_nothing ?_
  have others {item : Value} (distinct : item.Distinct) :=
    item_cons (below.flowItems false) distinct
  -- An item that begins with a key is a mapping with a single entry.
  have pair {key : Value} (distinct : key.Distinct) {value : Value} (given : value.Distinct) :
      (mapping [key, value]).Distinct :=
    Value.distinct_mapping
      (List.forall_mem_cons.mpr ⟨distinct, List.forall_mem_singleton.mpr given⟩)
  refine (yields_skipAny [.key]).bind fun _ _ => Yields.ite ?_ ?_
  · refine (yields_skipAny _).bind fun _ _ => Yields.ite ?_ ?_
    · exact (below.valueUnless false false _).bind fun value given => others (pair .null given)
    · exact (below.node false false).bind fun key distinct =>
        (below.valueUnless false false _).bind fun value given => others (pair distinct given)
  · exact (below.node false false).bind fun item distinct => others distinct

theorem flowPairs_succ (isFirst : Bool) :
    Yields (Yaml.flowPairs (limit + 1) isFirst) AllDistinct := by
  rw [Yaml.flowPairs]
  refine (yields_skipAny [.flowMappingEnd]).bind fun _ _ => .ite yields_nothing ?_
  refine Yields.preceded (yields_expect .flowEntry) fun _ => ?_
  refine (yields_skipAny [.flowMappingEnd]).bind fun _ _ => .ite yields_nothing ?_
  have others {key : Value} (distinct : key.Distinct) :=
    pair_cons (below.valueUnless false false [.flowEntry, .flowMappingEnd])
      (below.flowPairs false) distinct
  refine (yields_skipAny [.key]).bind fun _ _ => Yields.ite ?_ ?_
  · exact (below.nodeUnless false false _).bind fun key distinct => others distinct
  · refine (yields_isNext [.value]).bind fun _ _ => Yields.ite ?_ ?_
    · exact others .null
    · exact (below.node false false).bind fun key distinct =>
        pair_cons (.pure .null) (below.flowPairs false) distinct

theorem succ : YieldsDistinct (limit + 1) where
  node := below.node_succ
  content := below.content_succ
  nodeUnless := below.nodeUnless_succ
  valueUnless := below.valueUnless_succ
  blockItems := below.blockItems_succ
  indentlessItems := below.indentlessItems_succ
  blockPairs := below.blockPairs_succ
  flowItems := below.flowItems_succ
  flowPairs := below.flowPairs_succ

end YieldsDistinct

/-- Nodes are read with distinct keys, however deep they are. -/
theorem yieldsDistinct (limit : Nat) : YieldsDistinct limit := by
  induction limit with
  | zero => exact .zero
  | succ limit ih => exact ih.succ

/-! ## Documents -/

theorem yields_explicitDocument (limit : Nat) :
    Yields (explicitDocument limit) Value.Distinct := by
  rw [explicitDocument]
  refine (yields_skipAll [.directive]).bind fun _ _ => ?_
  refine (yields_expect .documentStart).bind fun _ _ => ?_
  refine yields_peek.bind fun _ _ => .ite (.pure .null) ?_
  exact (yieldsDistinct limit).nodeUnless true false _

theorem yields_documents (limit : Nat) (isFirst : Bool) :
    Yields (documents limit isFirst) AllDistinct := by
  induction limit generalizing isFirst with
  | zero => exact yields_failure
  | succ limit ih =>
      rw [documents]
      refine Yields.preceded (yields_skipAll [.documentEnd]) fun _ => ?_
      have forgets : Yields (modify fun source => { source with anchors := [] }) anything :=
        yields_modify fun _ sound => sound
      refine forgets.bind fun _ _ => ?_
      refine yields_peek.bind fun _ _ => .ite yields_nothing ?_
      have others {document : Value} (distinct : document.Distinct) :
          Yields (do let _ ← skipAny [.documentEnd]; return document :: (← documents limit false))
            AllDistinct :=
        (yields_skipAny _).bind fun _ _ => item_cons (ih false) distinct
      refine (yields_isNext _).bind fun _ _ => Yields.ite ?_ ?_
      · exact (yields_explicitDocument limit).bind fun document distinct => others distinct
      · exact ((yieldsDistinct limit).node true false).bind fun document distinct =>
          others distinct

/-- No mapping in a stream has a key twice. -/
theorem distinct_of_ofText? {text : String} {values : List Value}
    (read : ofText? text = some values) : AllDistinct values := by
  rw [ofText?] at read
  obtain ⟨tokens, -, read⟩ := Option.bind_eq_some_iff.mp read
  obtain ⟨⟨found, rest⟩, ran, same⟩ := Option.bind_eq_some_iff.mp read
  cases same
  have fresh : Source.Sound ⟨tokens, [], [], 0⟩ := List.forall_mem_nil _
  exact (yields_documents _ true _ fresh _ rest ran).1

end ReadThrough.Yaml

namespace ReadThrough.Config

open Yaml (Value)

/-- No mapping of a configuration has a key twice. -/
theorem distinct_of_parse? {text : String} {document : Value}
    (parsed : parse? text = some document) : document.Distinct := by
  obtain ⟨values, read, rfl⟩ := Option.map_eq_some_iff.mp parsed
  have all := Yaml.distinct_of_ofText? read
  unfold documentOf
  split
  next => exact all _ List.mem_cons_self
  next => exact .hash List.Pairwise.nil (List.forall_mem_nil _) (List.forall_mem_nil _)

theorem distinct_query {document : Value} (distinct : document.Distinct) (path : String) :
    (query document path).Distinct := by
  rw [query]
  induction pathNames path generalizing document with
  | nil => exact distinct
  | cons name rest ih => exact ih (distinct.field name)

end ReadThrough.Config
