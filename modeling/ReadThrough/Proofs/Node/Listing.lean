import Mathlib.Data.List.Nodup
import ReadThrough.Node.Listing
import ReadThrough.Proofs.Ordered
import ReadThrough.Proofs.Size
import ReadThrough.Proofs.Yaml.Distinct

/-!
# Groups from the configuration

The listed groups are set up exactly if each entry has a name and a budget that
can be read.  Otherwise those before the first other entry are, and nothing else
changes.  A listed group finds the texts and the numbers among its records.
-/

namespace ReadThrough.Node

open ReadThrough.Group (Hosted)
open Config (query)
open Yaml (Value)

/-! ## Budgets -/

/-- A setting tells a number of bytes; without it there are none. -/
inductive Measures : Value → Nat → Prop where
  | absent : Measures .bad 0
  | null : Measures .null 0
  | number (bytes : Nat) : Measures (.int bytes) bytes
  | expression {text : String} {exponent number : Nat}
      (legible : Quantity.Legible Size.units text exponent number)
      (fits : number * 1024 ^ exponent < 2 ^ 64) :
      Measures (.str text) (number * 1024 ^ exponent)

/-- An expression is read as a size exactly if it tells a number of bytes. -/
theorem ofText_eq_ok_iff {text : String} {bytes : Nat} :
    Size.ofText text = .ok bytes ↔ Measures (.str text) bytes := by
  rw [Size.ofText_eq, Size.knows_units.readWith_eq_iff (by simp) (by simp)]
  constructor
  · rintro ⟨exponent, number, legible, amounts⟩
    obtain ⟨fits, rfl⟩ := Size.amount_eq_ok_iff.mp amounts
    exact .expression legible fits
  · intro measured
    cases measured with
    | expression legible fits =>
        exact ⟨_, _, legible, Size.amount_eq_ok_iff.mpr ⟨fits, rfl⟩⟩

/-- A setting of a size is read exactly if it tells a number of bytes. -/
theorem size_eq_ok_iff {value : Value} {bytes : Nat} :
    Config.Setting.size value Listing.unlimited = .ok bytes ↔ Measures value bytes := by
  cases value with
  | bad =>
      constructor
      · rintro ⟨⟩
        exact .absent
      · rintro ⟨⟩
        rfl
  | null =>
      constructor
      · rintro ⟨⟩
        exact .null
      · rintro ⟨⟩
        rfl
  | int value =>
      rw [Config.Setting.size, Config.Setting.read]
      split
      next negative =>
        refine iff_of_false nofun fun measured => ?_
        cases measured
        omega
      next natural =>
        obtain ⟨bytes, rfl⟩ := Int.eq_ofNat_of_zero_le (Int.not_lt.mp natural)
        constructor
        · rintro ⟨⟩
          exact .number bytes
        · rintro ⟨⟩
          rfl
  | str text =>
      rw [← ofText_eq_ok_iff, Config.Setting.size, Config.Setting.read]
      cases Size.ofText text with
      | ok number => rw [Except.mapError, Except.ok.injEq, Except.ok.injEq]
      | error cause => exact iff_of_false nofun nofun
  | _ => exact iff_of_false nofun nofun

/-! ## Records -/

/-- What a group finds for a key among its records: texts and numbers, as they were written. -/
def recordOf (records : Value) (key : String) : Except Causes Bytes :=
  match records.field key with
  | .str text => .ok (Utf8.encode text)
  | .int number => .ok (Utf8.encode (toString number))
  | .real source => .ok (Utf8.encode source)
  | _ => .error [key ++ " not exist"]

theorem recordOf_eq (records : Value) (key : String) :
    recordOf records key =
      match Listing.recordText? (records.field key) with
      | some text => .ok (Utf8.encode text)
      | none => .error [key ++ " not exist"] := by
  rw [recordOf]
  cases records.field key <;> rfl

theorem field_cons (own value : Value) (rest : List (Value × Value)) (key : String) :
    (Value.hash ((own, value) :: rest)).field key =
      if own = .str key then value else (Value.hash rest).field key := by
  rw [Value.field, Value.field, List.find?_cons]
  by_cases same : own = .str key <;> simp [same]

theorem field_of_not_mem {entries : List (Value × Value)} {key : String}
    (absent : .str key ∉ entries.map Prod.fst) : (Value.hash entries).field key = .bad := by
  induction entries with
  | nil => rfl
  | cons entry rest ih =>
      obtain ⟨different, others⟩ := List.ne_and_not_mem_of_not_mem_cons absent
      rw [field_cons, if_neg (Ne.symm different), ih others]

theorem record?_str (key : String) (value : Value) :
    Listing.record? (.str key, value) =
      (Listing.recordText? value).map fun text => (key, .ok (Utf8.encode text)) := by
  simp only [Listing.record?]
  cases Listing.recordText? value <;> rfl

theorem record?_eq_none {own : Value} (mistyped : own.asText? = none) (value : Value) :
    Listing.record? (own, value) = none := by
  simp only [Listing.record?, mistyped]
  cases Listing.recordText? value <;> rfl

/-- A record is found under its key, if no other one has the same key. -/
theorem lookup_records {entries : List (Value × Value)}
    (distinct : (entries.map Prod.fst).Nodup) (key : String) :
    (entries.filterMap Listing.record?).lookup key =
      (Listing.recordText? ((Value.hash entries).field key)).map fun text =>
        .ok (Utf8.encode text) := by
  induction entries with
  | nil => rfl
  | cons entry rest ih =>
      obtain ⟨own, value⟩ := entry
      rw [List.map_cons, List.nodup_cons] at distinct
      obtain ⟨unique, distinctRest⟩ := distinct
      have others := ih distinctRest
      rw [field_cons, List.filterMap_cons]
      by_cases same : own = .str key
      · rw [same] at unique
        rw [field_of_not_mem unique] at others
        rw [if_pos same, same, record?_str]
        cases Listing.recordText? value with
        | none => exact others
        | some text => exact List.lookup_cons_self
      · rw [if_neg same, ← others]
        cases mistyped : own.asText? with
        | none => rw [record?_eq_none mistyped]
        | some name =>
            obtain rfl : own = .str name := by
              cases own <;> cases mistyped
              rfl
            have different : (key == name) = false :=
              beq_eq_false_iff_ne.mpr fun equal => same (congrArg Value.str equal.symm)
            rw [record?_str]
            cases Listing.recordText? value with
            | none => rfl
            | some text => rw [Option.map_some, List.lookup_cons, different]

/-- A listed group finds its records. -/
theorem lookup_sourceOf {records : Value} (distinct : records.Distinct) (key : String) :
    (Listing.sourceOf records).lookup key = recordOf records key := by
  have found : (Listing.sourceOf records).records.lookup key =
      (Listing.recordText? (records.field key)).map fun text => .ok (Utf8.encode text) := by
    cases distinct with
    | hash nodup keys values => exact lookup_records nodup key
    | _ => rfl
  rw [Source.lookup, found, recordOf_eq]
  cases Listing.recordText? (records.field key) <;> rfl

/-! ## Entries of the list -/

/-- An entry of the list has a name and a budget. -/
def IsListable (entry : Value × Value) : Prop :=
  (∃ name, entry.1 = .str name ∧ name ≠ "") ∧
    ∃ bytes, Measures (entry.2.field "max_memory") bytes

/-- The group that an entry of the list describes. -/
structure Describes (entry : Value × Value) (hosted : Hosted) : Prop where
  name : entry.1 = .str hosted.group.name
  named : hosted.group.name ≠ ""
  budget : Measures (entry.2.field "max_memory") hosted.group.cache.budget
  /-- Nothing happened in the group, and it asks the pool for the node of a key. -/
  fresh : hosted.group =
    { Group.empty hosted.group.name hosted.group.cache.budget with attached := true }
  finds : ∀ key, hosted.source.lookup key = recordOf (entry.2.field "records") key

theorem build_eq_ok_iff {name : String} {budget : Nat} {source : Source} {hosted : Hosted} :
    Hosted.build name budget (some source) = .ok hosted ↔
      name ≠ "" ∧ hosted = ⟨Group.empty name budget, source⟩ := by
  rw [Hosted.build, Group.build]
  by_cases unnamed : name = ""
  · rw [if_pos (by simp [unnamed])]
    exact iff_of_false nofun fun ⟨named, _⟩ => named unnamed
  · rw [if_neg (by simp [unnamed]), if_neg (by simp)]
    constructor
    · rintro ⟨⟩
      exact ⟨unnamed, rfl⟩
    · rintro ⟨-, rfl⟩
      rfl

/-- An entry is read exactly if it has a name and a budget; these make up the group. -/
theorem read_eq_ok_iff {entry : Value × Value} {hosted : Hosted} :
    Listing.read entry = .ok hosted ↔
      ∃ name bytes, entry.1 = .str name ∧ name ≠ "" ∧
        Measures (entry.2.field "max_memory") bytes ∧
        hosted = ⟨{ Group.empty name bytes with attached := true },
          Listing.sourceOf (entry.2.field "records")⟩ := by
  constructor
  · intro read
    rw [Listing.read] at read
    split at read
    next => cases read
    next name text =>
      split at read
      next => cases read
      next bytes size =>
        split at read
        next => cases read
        next built build =>
          cases read
          obtain ⟨named, rfl⟩ := build_eq_ok_iff.mp build
          have own : entry.1 = .str name := by
            cases written : entry.1 <;> rw [written] at text <;> cases text
            rfl
          exact ⟨name, bytes, own, named, size_eq_ok_iff.mp size, rfl⟩
  · rintro ⟨name, bytes, own, named, measured, rfl⟩
    have built : Hosted.build name bytes (some (Listing.sourceOf (entry.2.field "records"))) =
        .ok ⟨Group.empty name bytes, Listing.sourceOf (entry.2.field "records")⟩ :=
      build_eq_ok_iff.mpr ⟨named, rfl⟩
    simp only [Listing.read, own, Value.asText?, size_eq_ok_iff.mpr measured, built]
    rfl

theorem isListable_iff {entry : Value × Value} :
    IsListable entry ↔ ∃ hosted, Listing.read entry = .ok hosted := by
  constructor
  · rintro ⟨⟨name, own, named⟩, bytes, measured⟩
    exact ⟨_, read_eq_ok_iff.mpr ⟨name, bytes, own, named, measured, rfl⟩⟩
  · rintro ⟨hosted, read⟩
    obtain ⟨name, bytes, own, named, measured, -⟩ := read_eq_ok_iff.mp read
    exact ⟨⟨name, own, named⟩, bytes, measured⟩

theorem not_isListable_of_refused {entry : Value × Value} {error : ListingError}
    (refused : Listing.read entry = .error error) : ¬ IsListable entry := by
  intro listable
  obtain ⟨hosted, read⟩ := isListable_iff.mp listable
  rw [refused] at read
  cases read

theorem describes_of_read {entry : Value × Value} {hosted : Hosted}
    (distinct : entry.2.Distinct) (read : Listing.read entry = .ok hosted) :
    Describes entry hosted := by
  obtain ⟨name, bytes, own, named, measured, rfl⟩ := read_eq_ok_iff.mp read
  exact ⟨own, named, measured, rfl, lookup_sourceOf (distinct.field "records")⟩

/-! ## The list -/

theorem distinct_entriesOf {value : Value} (distinct : value.Distinct) :
    Value.DistinctEntries (Listing.entriesOf value) := by
  cases distinct with
  | hash nodup keys values => exact ⟨nodup, keys, values⟩
  | _ => exact ⟨List.Pairwise.nil, List.forall_mem_nil _, List.forall_mem_nil _⟩

/-- Only a mapping has entries. -/
theorem forall_mem_entriesOf {value : Value} {property : Value × Value → Prop} :
    (∀ entry ∈ Listing.entriesOf value, property entry) ↔
      ∀ entries, value = .hash entries → ∀ entry ∈ entries, property entry := by
  cases value with
  | hash entries =>
      constructor
      · rintro all _ ⟨⟩
        exact all
      · intro all
        exact all entries rfl
  | _ => exact iff_of_true (List.forall_mem_nil _) nofun

/-- How far a list was set up: all of it, or up to an entry that cannot be read. -/
inductive SetUp : List (Value × Value) → List Hosted → Except ListingError Unit → Prop where
  | done : SetUp [] [] (.ok ())
  | stopped {entry : Value × Value} {rest : List (Value × Value)} {error : ListingError}
      (refused : Listing.read entry = .error error) : SetUp (entry :: rest) [] (.error error)
  | next {entry : Value × Value} {rest : List (Value × Value)} {hosted : Hosted}
      {groups : List Hosted} {result : Except ListingError Unit}
      (read : Listing.read entry = .ok hosted) (others : SetUp rest groups result) :
      SetUp (entry :: rest) (hosted :: groups) result

theorem setUp_installEntries (registry : Registry) (entries : List (Value × Value)) :
    ∃ groups, SetUp entries groups (Listing.installEntries registry entries).2 ∧
      (Listing.installEntries registry entries).1 = groups.foldl Registry.register registry := by
  induction entries generalizing registry with
  | nil => exact ⟨[], .done, rfl⟩
  | cons entry rest ih =>
      rw [Listing.installEntries]
      cases read : Listing.read entry with
      | error error => exact ⟨[], .stopped read, rfl⟩
      | ok hosted =>
          obtain ⟨groups, others, registered⟩ := ih (registry.register hosted)
          exact ⟨hosted :: groups, .next read others, registered⟩

namespace SetUp

variable {entries : List (Value × Value)} {groups : List Hosted}
  {result : Except ListingError Unit} (setUp : SetUp entries groups result)

include setUp

theorem ok_iff : result = .ok () ↔ ∀ entry ∈ entries, IsListable entry := by
  induction setUp with
  | done => exact iff_of_true rfl (List.forall_mem_nil _)
  | stopped refused =>
      exact iff_of_false nofun fun listable =>
        not_isListable_of_refused refused (listable _ List.mem_cons_self)
  | next read others ih =>
      rw [ih, List.forall_mem_cons]
      exact (and_iff_right (isListable_iff.mpr ⟨_, read⟩)).symm

/-- The groups are those of the entries before the first one that cannot be read. -/
theorem split (distinct : ∀ entry ∈ entries, entry.2.Distinct) :
    ∃ before after, entries = before ++ after ∧ List.Forall₂ Describes before groups ∧
      (result = .ok () → after = []) ∧
      ∀ error, result = .error error → ∃ entry rest, after = entry :: rest ∧
        ¬ IsListable entry ∧ Listing.read entry = .error error := by
  induction setUp with
  | done => exact ⟨[], [], rfl, .nil, fun _ => rfl, nofun⟩
  | @stopped entry rest error refused =>
      refine ⟨[], entry :: rest, rfl, .nil, nofun, ?_⟩
      rintro _ ⟨⟩
      exact ⟨entry, rest, rfl, not_isListable_of_refused refused, refused⟩
  | @next entry rest hosted groups result read others ih =>
      obtain ⟨own, distinctRest⟩ := List.forall_mem_cons.mp distinct
      obtain ⟨before, after, rfl, described, complete, stopped⟩ := ih distinctRest
      exact ⟨entry :: before, after, rfl, .cons (describes_of_read own read) described, complete,
        stopped⟩

end SetUp

/-! ## The registry -/

variable {groups : List Hosted} {name : String}

theorem find?_register (registry : Registry) (hosted : Hosted) (name : String) :
    (registry.register hosted).find? name =
      if name = hosted.group.name then some hosted else registry.find? name :=
  Ordered.get?_put hosted.group.name name hosted registry

/-- What is not among the groups stays as it was. -/
theorem find?_foldl_register_of_ne (registry : Registry)
    (other : ∀ hosted ∈ groups, hosted.group.name ≠ name) :
    (groups.foldl Registry.register registry).find? name = registry.find? name := by
  induction groups generalizing registry with
  | nil => rfl
  | cons hosted rest ih =>
      obtain ⟨different, others⟩ := List.forall_mem_cons.mp other
      rw [List.foldl_cons, ih (registry.register hosted) others, find?_register,
        if_neg different.symm]

/-- Of groups with different names each one is found under its name. -/
theorem find?_foldl_register_of_mem (registry : Registry)
    (distinct : (groups.map fun hosted => hosted.group.name).Nodup) {hosted : Hosted}
    (present : hosted ∈ groups) :
    (groups.foldl Registry.register registry).find? hosted.group.name = some hosted := by
  induction groups generalizing registry with
  | nil => cases present
  | cons first rest ih =>
      rw [List.map_cons, List.nodup_cons] at distinct
      obtain ⟨unique, distinctRest⟩ := distinct
      rcases List.mem_cons.mp present with rfl | later
      · have others : ∀ other ∈ rest, other.group.name ≠ hosted.group.name :=
          fun other among same => unique (List.mem_map.mpr ⟨other, among, same⟩)
        rw [List.foldl_cons, find?_foldl_register_of_ne _ others, find?_register, if_pos rfl]
      · exact ih (registry.register first) distinctRest later

/-- Different entries describe groups with different names. -/
theorem names_nodup {entries : List (Value × Value)} (distinct : (entries.map Prod.fst).Nodup)
    (described : List.Forall₂ Describes entries groups) :
    (groups.map fun hosted => hosted.group.name).Nodup := by
  have same : entries.map Prod.fst = (groups.map fun hosted => hosted.group.name).map .str := by
    induction described with
    | nil => rfl
    | cons own others ih =>
        rw [List.map_cons, List.nodup_cons] at distinct
        rw [List.map_cons, List.map_cons, List.map_cons, own.name, ih distinct.2]
  rw [same] at distinct
  exact List.Nodup.of_map Value.str distinct

/--
The groups of a configuration are set up without an error exactly if each
listed entry has a name and a budget.  In any case the registry is the former
one with some groups put under their names in the order of the list: they are
those that the entries describe, up to the first entry without a name or a
budget, and all of them if there is none.  Each of them is found under its name,
and under all other names the registry is unchanged.
-/
theorem listed_groups_installed {text : String} {document : Value}
    (parsed : Config.parse? text = some document) (registry : Registry) :
    let entries := Listing.entriesOf (query document "groups")
    let installed := (Listing.install registry document).1
    let result := (Listing.install registry document).2
    (result = .ok () ↔
      ∀ listed, query document "groups" = .hash listed → ∀ entry ∈ listed, IsListable entry) ∧
    ∃ before after groups, entries = before ++ after ∧ List.Forall₂ Describes before groups ∧
      installed = groups.foldl Registry.register registry ∧
      (∀ hosted ∈ groups, installed.find? hosted.group.name = some hosted) ∧
      (∀ name, (∀ hosted ∈ groups, hosted.group.name ≠ name) →
        installed.find? name = registry.find? name) ∧
      (result = .ok () → after = []) ∧
      ∀ error, result = .error error → ∃ entry rest, after = entry :: rest ∧
        ¬ IsListable entry ∧ Listing.read entry = .error error := by
  intro entries installed result
  have distinct : Value.DistinctEntries entries :=
    distinct_entriesOf (Config.distinct_query (Config.distinct_of_parse? parsed) "groups")
  obtain ⟨groups, setUp, registered⟩ :
      ∃ groups, SetUp entries groups result ∧
        installed = groups.foldl Registry.register registry :=
    setUp_installEntries registry entries
  obtain ⟨before, after, parts, described, complete, stopped⟩ := setUp.split distinct.values
  have unique : (before.map Prod.fst).Nodup := by
    have whole := distinct.nodup
    rw [parts, List.map_append] at whole
    exact List.Nodup.of_append_left whole
  refine ⟨?_, before, after, groups, parts, described, registered, ?_, ?_, complete, stopped⟩
  · exact setUp.ok_iff.trans forall_mem_entriesOf
  · intro hosted present
    rw [registered]
    exact find?_foldl_register_of_mem registry (names_nodup unique described) present
  · intro name other
    rw [registered]
    exact find?_foldl_register_of_ne registry other

/-- A list whose second entry has no name. -/
def unnamedSecond : Value :=
  .hash [(.str "groups", .hash
    [(.str "scores", .hash
      [(.str "max_memory", .str "2k"), (.str "records", .hash [(.str "Tom", .int 630)])]),
    (.str "", .null)])]

theorem listed_groups_installed_before_unnamed :
    let text :=
      "groups:\n scores:\n  max_memory: 2k\n  records:\n   Tom: 630\n '': null"
    let installed := Listing.install [] unnamedSecond
    Config.parse? text = some unnamedSecond ∧ installed.2 ≠ .ok () ∧
      ∃ hosted, installed.1.find? "scores" = some hosted ∧ hosted.group.cache.budget = 2048 ∧
        hosted.source.lookup "Tom" = .ok (Utf8.encode "630") := by
  intro text installed
  have parsed : Config.parse? text = some unnamedSecond := by decide +kernel
  obtain ⟨complete, before, after, groups, parts, described, -, found, -, whole, stopped⟩ :=
    listed_groups_installed parsed []
  have size : Config.Setting.size (.str "2k") Listing.unlimited = .ok 2048 := by decide +kernel
  refine ⟨parsed, fun success => ?_, ?_⟩
  · have listed : IsListable (.str "", .null) :=
      complete.mp success _ rfl _ (List.mem_cons_of_mem _ List.mem_cons_self)
    obtain ⟨⟨name, own, named⟩, -⟩ := listed
    exact named (Value.str.inj own).symm
  · cases described with
    | nil =>
        cases outcome : (Listing.install [] unnamedSecond).2 with
        | ok =>
            rw [whole outcome] at parts
            cases parts
        | error error =>
            obtain ⟨entry, rest, remaining, refused, -⟩ := stopped error outcome
            rw [remaining] at parts
            cases parts
            exact (refused ⟨⟨"scores", rfl, by decide⟩, 2048, size_eq_ok_iff.mp size⟩).elim
    | @cons entry hosted others rest own later =>
        obtain ⟨rfl, -⟩ := List.cons.inj parts
        have named : "scores" = hosted.group.name := Value.str.inj own.name
        have budget := (size_eq_ok_iff.mpr own.budget).symm.trans size
        refine ⟨hosted, ?_, Except.ok.inj budget, (own.finds "Tom").trans (by decide +kernel)⟩
        rw [named]
        exact found hosted List.mem_cons_self

end ReadThrough.Node
