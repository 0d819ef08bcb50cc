import Mathlib.Data.List.Forall2
import Relmap.Driver.Script
import Relmap.Schema.Introspection
import Relmap.Proofs.Exchanges

/-! Tables as they are read back from a catalog. Whatever rows the catalog has, a table has at most one column that numbers its
rows, and such a column is the whole key. -/

namespace Relmap.Schema

variable {σ α β : Type}

/-- The word occurs in the creating statement, in whatever case it is written. -/
def TellsNumbering (createText : String) : Prop :=
  ∃ word, word <:+: createText.toList ∧ Text.upper word = "AUTOINCREMENT".toList

/-- The column is the whole key, at its first position, and of integer affinity. -/
structure Table.KeyedBy (table : Table) (column : Column) : Prop where
  only : table.columns.filter (·.keyOrdinal ≠ 0) = [column]
  first : column.keyOrdinal = 1
  integer : column.affinity = .integer

theorem tellsNumbering_iff {createText : String} :
    Text.mentions (Text.upper createText.toList) "AUTOINCREMENT".toList = true ↔ TellsNumbering createText := by
  rw [Text.mentions_iff, Text.upper, List.infix_map_iff]
  exact exists_congr fun word => and_congr_right fun _ => eq_comm

namespace Table

theorem primaryKey_single {table : Table} {column : Column} :
    table.primaryKey = [column] ↔ table.columns.filter (·.keyOrdinal ≠ 0) = [column] := by
  have keys : table.columns.filter (·.isKey) = table.columns.filter (·.keyOrdinal ≠ 0) :=
    List.filter_congr fun other _ => decide_eq_decide.mpr UInt32.pos_iff_ne_zero
  rw [primaryKey, keys, ← List.perm_singleton, ← List.perm_singleton]
  have sorted := List.mergeSort_perm (table.columns.filter (·.keyOrdinal ≠ 0)) fun first second =>
    first.keyOrdinal ≤ second.keyOrdinal
  exact ⟨sorted.symm.trans, sorted.trans⟩

theorem autoIncrementCandidate_iff {table : Table} {column : Column} :
    table.autoIncrementCandidate = some column ↔ table.KeyedBy column := by
  unfold autoIncrementCandidate
  constructor
  · intro candidate
    split at candidate
    next only whole =>
      split at candidate
      next fits =>
        cases candidate
        rw [Bool.and_eq_true, beq_iff_eq, beq_iff_eq] at fits
        exact ⟨primaryKey_single.mp whole, fits.1, fits.2⟩
      next => contradiction
    next => contradiction
  · intro ⟨only, first, integer⟩
    rw [primaryKey_single.mpr only]
    simp [first, integer]

end Table

def Column.numbered (column : Column) : Column := { column with autoIncrement := true }

def Column.unnumbered (column : Column) : Column := { column with autoIncrement := false }

/-- What a catalog lists for a table: its name, the statement that created it and the rows of its columns. -/
structure Listing where
  name : String
  createText : String
  rows : List StoredRow

namespace Listing

def columns (listing : Listing) : List Column := listing.rows.map Column.ofStored

def table (listing : Listing) : Table := .ofStored listing.name listing.createText listing.rows

end Listing

/-- A table with the columns that are listed, in their order, of which at most the whole key numbers the rows, and does so
where the creating statement tells it. -/
structure Numbered (listing : Listing) (table : Table) : Prop where
  name : table.name = listing.name
  columns : table.columns.map Column.unnumbered = listing.columns
  single : (table.columns.filter (·.autoIncrement)).length ≤ 1
  keyed : ∀ column ∈ table.columns, column.autoIncrement = true → table.KeyedBy column
  told : ∀ column ∈ table.columns, table.KeyedBy column → (column.autoIncrement = true ↔ TellsNumbering listing.createText)

theorem ofStored_plain (listing : Listing) : ∀ column ∈ listing.columns, column.autoIncrement = false :=
  List.forall_mem_map.mpr fun _ _ => rfl

theorem unnumbered_plain {columns : List Column} (plain : ∀ column ∈ columns, column.autoIncrement = false) :
    columns.map Column.unnumbered = columns := by
  refine (List.map_congr_left fun column member => ?_).trans (List.map_id columns)
  rw [Column.unnumbered, ← plain column member]
  rfl

private theorem flagColumn_split {column : Column} {before after : List Column}
    (new : ∀ other ∈ before, other.name ≠ column.name) :
    flagColumn column.name (before ++ column :: after) = before ++ column.numbered :: after := by
  induction before with
  | nil => simp [flagColumn, Column.numbered]
  | cons head rest ih =>
    obtain ⟨differs, others⟩ := List.forall_mem_cons.mp new
    rw [List.cons_append, flagColumn, if_neg (by simpa using differs), ih others]
    rfl

/-- Without a flag the columns are what is listed. -/
theorem numbered_plain {listing : Listing} (unflagged : ∀ column, (Table.mk listing.name listing.columns).KeyedBy column →
    ¬ TellsNumbering listing.createText) : Numbered listing ⟨listing.name, listing.columns⟩ := by
  have plain := ofStored_plain listing
  constructor
  case name => rfl
  case columns => exact unnumbered_plain plain
  case single =>
    rw [List.filter_eq_nil_iff.mpr fun column member => by simp [plain column member]]
    exact Nat.zero_le 1
  case keyed => exact fun column member flagged => absurd (flagged.symm.trans (plain column member)) (by decide)
  case told =>
    intro column member keyed
    rw [plain column member]
    exact iff_of_false (by decide) (unflagged column keyed)

private theorem numbered_flagged {listing : Listing} (distinct : (listing.columns.map (·.name)).Nodup) {column : Column}
    (keyed : (Table.mk listing.name listing.columns).KeyedBy column) (told : TellsNumbering listing.createText) :
    Numbered listing ⟨listing.name, flagColumn column.name listing.columns⟩ := by
  obtain ⟨only, first, integer⟩ := keyed
  obtain ⟨before, after, split, free, own, others⟩ := List.filter_eq_cons_iff.mp only
  have split : listing.columns = before ++ column :: after := split
  have plain := ofStored_plain listing
  rw [split, List.forall_mem_append, List.forall_mem_cons] at plain
  obtain ⟨plainBefore, plainOwn, plainAfter⟩ := plain
  have new : ∀ other ∈ before, other.name ≠ column.name := by
    intro other member same
    rw [split, List.map_append, List.map_cons] at distinct
    exact (List.nodup_append.mp distinct).2.2 _ (List.mem_map_of_mem member) _ List.mem_cons_self same
  rw [split, flagColumn_split new]
  have whole : (Table.mk listing.name (before ++ column.numbered :: after)).KeyedBy column.numbered := by
    refine ⟨?_, first, integer⟩
    have key : decide (column.numbered.keyOrdinal ≠ 0) = true := own
    rw [List.filter_append, List.filter_eq_nil_iff.mpr free, List.nil_append, List.filter_cons, if_pos key, others]
  have flags : (before ++ column.numbered :: after).filter (·.autoIncrement) = [column.numbered] := by
    rw [List.filter_append, List.filter_cons_of_pos rfl,
      List.filter_eq_nil_iff.mpr fun other member => by simp [plainBefore other member],
      List.filter_eq_nil_iff.mpr fun other member => by simp [plainAfter other member]]
    rfl
  constructor
  case name => rfl
  case columns =>
    rw [split, List.map_append, List.map_cons, unnumbered_plain plainBefore, unnumbered_plain plainAfter,
      Column.numbered, Column.unnumbered, ← plainOwn]
  case single =>
    rw [flags]
    exact Nat.le_refl 1
  case keyed =>
    intro other member flagged
    have chosen := List.mem_filter.mpr ⟨member, flagged⟩
    rw [flags, List.mem_singleton] at chosen
    exact chosen ▸ whole
  case told =>
    intro other member keyed
    obtain rfl : _ = other := List.singleton_inj.mp (whole.only.symm.trans keyed.only)
    exact iff_of_true rfl told

private theorem listing_numbered {listing : Listing} (distinct : (listing.columns.map (·.name)).Nodup) :
    Numbered listing listing.table := by
  change Numbered listing (Table.flagAutoIncrement listing.createText ⟨listing.name, listing.columns⟩)
  unfold Table.flagAutoIncrement
  split
  next mentioned =>
    have told := tellsNumbering_iff.mp mentioned
    split
    next column candidate => exact numbered_flagged distinct (Table.autoIncrementCandidate_iff.mp candidate) told
    next none =>
      refine numbered_plain fun column keyed => ?_
      rw [Table.autoIncrementCandidate_iff.mpr keyed] at none
      contradiction
  next unmentioned => exact numbered_plain fun _ _ told => unmentioned (tellsNumbering_iff.mpr told)

/-- The driver answers the query for the columns of each table in turn, with the rows that are listed. -/
inductive Listed (driver : Driver σ) : List Listing → σ → σ → Prop where
  | done (state : σ) : Listed driver [] state state
  | next {listing : Listing} {rest : List Listing} {before between after : σ}
    (answer : (driver.query columnsQuery 1 (bindings [.text listing.name])).run before =
      (.ok listing.rows, between))
    (others : Listed driver rest between after) : Listed driver (listing :: rest) before after

def named? (row : StoredRow) : Option (String × String) :=
  (row.string? 0).map (·, (row.string? 1).getD "")

/-- The whole catalog as the driver gives it: the rows of the tables, then for each that has a name the rows of its columns. -/
def Catalogued (driver : Driver σ) (before : σ) (listings : List Listing) (after : σ) : Prop :=
  ∃ rows between, (driver.query tablesQuery 0 []).run before = (.ok rows, between) ∧
    listings.map (fun listing => (listing.name, listing.createText)) = rows.filterMap named? ∧ Listed driver listings between after

def readListing (driver : Driver σ) : String × String → Exchange DriverError σ Table :=
  fun (name, createText) => do
    let columns ← ExceptT.mk (driver.query columnsQuery 1 (bindings [.text name]))
    return Table.ofStored name createText columns

private theorem readListing_perform {driver : Driver σ} {name createText : String} {before after : σ} {table : Table} :
    (readListing driver (name, createText)).perform before = (.ok table, after) ↔ ∃ rows,
      (driver.query columnsQuery 1 (bindings [.text name])).run before = (.ok rows, after) ∧
        (Listing.mk name createText rows).table = table := by
  simp only [readListing, Exchange.perform_bind_iff, Exchange.perform_mk, Exchange.perform_pure, Prod.mk.injEq, Except.ok.injEq]
  constructor
  · rintro ⟨rows, _, answer, same, rfl⟩
    exact ⟨rows, answer, same⟩
  · intro ⟨rows, answer, same⟩
    exact ⟨rows, after, answer, same, rfl⟩

private theorem mapM_listed {driver : Driver σ} {named : List (String × String)} {before after : σ}
    {tables : List Table} :
    (named.mapM (readListing driver)).perform before = (.ok tables, after) ↔
      ∃ listings : List Listing, listings.map (fun listing => (listing.name, listing.createText)) = named ∧
        Listed driver listings before after ∧ listings.map (·.table) = tables := by
  induction named generalizing before after tables with
  | nil =>
    rw [List.mapM_nil, Exchange.perform_pure, Prod.mk.injEq, Except.ok.injEq]
    constructor
    · rintro ⟨rfl, rfl⟩
      exact ⟨[], rfl, .done before, rfl⟩
    · rintro ⟨listings, none, listed, rfl⟩
      obtain rfl := List.map_eq_nil_iff.mp none
      cases listed
      exact ⟨rfl, rfl⟩
  | cons head rest ih =>
    obtain ⟨name, createText⟩ := head
    simp only [List.mapM_cons, Exchange.perform_bind_iff, Exchange.perform_pure, Prod.mk.injEq, Except.ok.injEq,
      readListing_perform, ih]
    constructor
    · rintro ⟨_, between, ⟨rows, answer, rfl⟩, _, _, ⟨listings, names, listed, rfl⟩, rfl, rfl⟩
      exact ⟨⟨name, createText, rows⟩ :: listings, by rw [List.map_cons, names], .next answer listed, rfl⟩
    · rintro ⟨listings, names, listed, rfl⟩
      cases listed with
      | done => cases names
      | next answer others =>
        rw [List.map_cons, List.cons.injEq, Prod.mk.injEq] at names
        obtain ⟨⟨rfl, rfl⟩, names⟩ := names
        exact ⟨_, _, ⟨_, answer, rfl⟩, _, _, ⟨_, names, others, rfl⟩, rfl, rfl⟩

theorem introspect_ok {driver : Driver σ} {before after : σ} {tables : List Table} :
    (introspect driver).perform before = (.ok tables, after) ↔
      ∃ listings, Catalogued driver before listings after ∧ listings.map (·.table) = tables := by
  change Exchange.perform (ExceptT.mk (driver.query tablesQuery 0 []) >>= fun rows => (rows.filterMap named?).mapM (readListing driver))
    before = _ ↔ _
  simp only [Exchange.perform_bind_iff, Exchange.perform_mk, mapM_listed, Catalogued]
  constructor
  · intro ⟨rows, between, answer, listings, names, listed, same⟩
    exact ⟨listings, ⟨rows, between, answer, names, listed⟩, same⟩
  · intro ⟨listings, ⟨rows, between, answer, names, listed⟩, same⟩
    exact ⟨rows, between, answer, listings, names, listed, same⟩

/-- Every catalog whose tables have columns of different names gives tables in which only a whole key numbers the rows, and
whatever else introspection gives comes from a catalog too. -/
theorem introspect_settled (driver : Driver σ) (before : σ) :
    (∀ tables after, (introspect driver).perform before = (.ok tables, after) →
      ∃ listings, Catalogued driver before listings after) ∧
    ∀ listings after, Catalogued driver before listings after →
      (∀ listing ∈ listings, (listing.columns.map (·.name)).Nodup) →
      ∃ tables, (introspect driver).perform before = (.ok tables, after) ∧ List.Forall₂ Numbered listings tables := by
  constructor
  · intro tables after read
    obtain ⟨listings, catalogued, -⟩ := introspect_ok.mp read
    exact ⟨listings, catalogued⟩
  · intro listings after catalogued distinct
    refine ⟨listings.map (·.table), introspect_ok.mpr ⟨listings, catalogued, rfl⟩, ?_⟩
    rw [List.forall₂_map_right_iff, List.forall₂_same]
    exact fun listing member => listing_numbered (distinct listing member)

/-- A key with positions that are no words, as no database has them, and a table that nothing is known of. -/
def oddListings : List Listing :=
  [⟨"a", "create table a (id integer primary key AutoIncrement)",
    [[.integer 0, .text "id", .text "integer", .integer 0, .null, .integer 1],
     [.integer 1, .text "far", .text "int", .integer 0, .null, .integer 4294967297],
     [.integer 2, .text "below", .null, .integer 1, .text "0", .integer (-1)],
     [.integer 3, .text "none", .text "text", .null, .null, .null]]⟩,
   ⟨"b", "", []⟩]

def oddCatalog : Script where
  replies := .rows [[.text "a", .text "create table a (id integer primary key AutoIncrement)"], [.null, .null], [.text "b", .null]] ::
    oddListings.map fun listing => .rows listing.rows

theorem introspect_settled_odd : ∃ tables after, Catalogued Script.driver oddCatalog oddListings after ∧
    (∀ listing ∈ oddListings, (listing.columns.map (·.name)).Nodup) ∧
    (introspect Script.driver).perform oddCatalog = (.ok tables, after) ∧ List.Forall₂ Numbered oddListings tables ∧
    tables.map (fun table => table.columns.map (·.autoIncrement)) = [[true, false, false, false], []] := by
  have catalogued : Catalogued Script.driver oddCatalog oddListings ((introspect Script.driver).perform oddCatalog).2 :=
    ⟨_, _, rfl, by decide, .next rfl (.next rfl (.done _))⟩
  have distinct : ∀ listing ∈ oddListings, (listing.columns.map (·.name)).Nodup := by decide
  obtain ⟨tables, read, numbered⟩ := (introspect_settled Script.driver oddCatalog).2 _ _ catalogued distinct
  refine ⟨tables, _, catalogued, distinct, read, numbered, ?_⟩
  have flags : ((introspect Script.driver).perform oddCatalog).1.map (fun tables =>
      tables.map fun table => table.columns.map (·.autoIncrement)) = .ok [[true, false, false, false], []] := by
    decide +kernel
  rw [read] at flags
  exact Except.ok.inj flags

end Relmap.Schema
