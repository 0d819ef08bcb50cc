import Relmap.Proofs.GeneratedModels
import Relmap.Text.Mention
import Mathlib.Data.List.Nodup

/-! Type ids as keys of a registry. Two names may have the same type id, since a capital can stand for several
letters, and then the table that comes first by its name is the only one found. -/

namespace Relmap

namespace Text

private theorem expansions_beyond : ∀ entry ∈ capitalExpansions, 128 ≤ entry.1 := by decide +kernel

private theorem runs_beyond : ∀ run ∈ capitalRuns.tail, 128 ≤ run.first := by decide +kernel

private theorem lower_shifted : ∀ code < 128, 0x61 ≤ code → code ≤ 0x7A →
    (Char.ofNat (code - 32)).toLower = (Char.ofNat code).toLower := by decide

/-- Below 128 only the small letters have capitals, each a single one. -/
theorem lower_capital {c : Char} (ascii : c.toNat < 128) : lower (capital c) = [c.toLower] := by
  have single : capitalExpansions.lookup c.toNat = none := by
    refine List.lookup_eq_none_iff.mpr fun entry member => ?_
    have beyond := expansions_beyond entry member
    exact bne_iff_ne.mpr (by omega)
  have others : capitalRuns.tail.find? (·.covers c.toNat) = none := by
    refine List.find?_eq_none.mpr fun run member covered => ?_
    have beyond := runs_beyond run member
    simp only [CaseRun.covers, Bool.and_eq_true, decide_eq_true_eq] at covered
    omega
  have found : capitalRuns.find? (·.covers c.toNat) =
      if (CaseRun.mk 0x61 0x7A 1 (-32)).covers c.toNat then some ⟨0x61, 0x7A, 1, -32⟩ else none := by
    change (CaseRun.mk 0x61 0x7A 1 (-32) :: capitalRuns.tail).find? (·.covers c.toNat) = _
    rw [List.find?_cons, others]
    cases (CaseRun.mk 0x61 0x7A 1 (-32)).covers c.toNat <;> rfl
  rw [capital, single, found]
  cases covered : (CaseRun.mk 0x61 0x7A 1 (-32)).covers c.toNat with
  | false => rfl
  | true =>
    obtain ⟨small, first, last⟩ : c.toNat < 128 ∧ 0x61 ≤ c.toNat ∧ c.toNat ≤ 0x7A := by
      simp only [CaseRun.covers, Bool.and_eq_true, decide_eq_true_eq] at covered
      omega
    have shifted := lower_shifted c.toNat small first last
    rw [Char.ofNat_toNat] at shifted
    have code : ((c.toNat : Int) + (-32)).toNat = c.toNat - 32 := by omega
    simp [lower, code, shifted]

theorem lower_capitalized {text : String} (ascii : ∀ c ∈ text.toList.head?, c.toNat < 128) :
    lower (capitalized text).toList = lower text.toList := by
  rw [capitalized]
  match letters : text.toList with
  | [] => rfl
  | c :: rest =>
    rw [letters] at ascii
    rw [String.toList_ofList, lower, List.map_append]
    exact congrArg (· ++ lower rest) (lower_capital (ascii c rfl))

end Text

namespace Code

def registry (models : List EntityModel) : Registry := models.map (·.table.toTable)

/-- A list in order gives the least of what is looked for. -/
theorem find?_least {tables : List Schema.Table} (ordered : tables.Pairwise (fun first second => first.name ≤ second.name))
    {wanted : Schema.Table → Bool} {found : Schema.Table} (first : tables.find? wanted = some found) :
    ∀ table ∈ tables, wanted table → found.name ≤ table.name := by
  obtain ⟨-, before, after, rfl, others⟩ := List.find?_eq_some_iff_append.mp first
  intro table member meant
  rcases List.mem_append.mp member with earlier | later
  · exact absurd meant (by simpa using others table earlier)
  · rcases List.mem_cons.mp later with rfl | behind
    · exact String.le_refl _
    · exact List.rel_of_pairwise_cons (List.pairwise_append.mp ordered).2.1 behind

section

variable {tables : List Schema.Table} (apart : tables.Pairwise fun first second => ¬ Text.sameLetters first.name second.name)

include apart

/-- A name belongs to one table only. -/
theorem name_unique {first second : Schema.Table} (one : first ∈ tables) (other : second ∈ tables)
    (same : first.name = second.name) : first = second := by
  have distinct : (tables.map (·.name)).Nodup := by
    rw [List.Nodup, List.pairwise_map]
    refine apart.imp fun {first second} differ same => differ ?_
    rw [Text.sameLetters, same]
    exact beq_self_eq_true _
  exact List.inj_on_of_nodup_map distinct one other same

private theorem typeIds_ascii (ascii : ∀ table ∈ tables, ∀ c ∈ table.name.toList.head?, c.toNat < 128) :
    (tables.map (·.typeId)).Nodup := by
  rw [List.Nodup, List.pairwise_map]
  refine apart.imp_of_mem fun {first second} one other differ same => differ ?_
  rw [Text.sameLetters, beq_iff_eq, ← Text.lower_capitalized (ascii first one), ← Text.lower_capitalized (ascii second other)]
  exact congrArg (fun text : String => Text.lower text.toList) same

variable {settings : Settings} {models : List EntityModel} (generated : entities tables settings = .ok models)

include generated

omit apart in
private theorem byTypeId_sorted (typeId : String) : (registry models).byTypeId typeId =
    ((sortedTables tables).find? fun table => table.typeId == typeId).map (·.toTable) := by
  rw [← entities_tables generated, registry, Registry.byTypeId, List.find?_map, List.find?_map, Option.map_map]
  rfl

/-- What is found has the type id and the least name of all that have it, so it is the table if nothing comes before. -/
theorem byTypeId_own {table : Schema.Table} (member : table ∈ tables) :
    (registry models).byTypeId table.typeId = some table.toTable ↔
      ∀ other ∈ tables, other.typeId = table.typeId → table.name ≤ other.name := by
  rw [byTypeId_sorted generated]
  have present : ((sortedTables tables).find? fun other => other.typeId == table.typeId).isSome := by
    rw [List.find?_isSome]
    exact ⟨table, mem_sortedTables.mpr member, beq_self_eq_true _⟩
  obtain ⟨found, first⟩ := Option.isSome_iff_exists.mp present
  have least := find?_least (sortedTables_ordered tables) first
  have inside := mem_sortedTables.mp (List.mem_of_find?_eq_some first)
  have same : found.typeId = table.typeId := by simpa using List.find?_some first
  rw [first, Option.map_some, Option.some_inj]
  constructor
  · intro own other among shared
    have name : found.name = table.name := congrArg Table.name own
    rw [← name]
    exact least other (mem_sortedTables.mpr among) (beq_iff_eq.mpr shared)
  · intro before
    have notAfter := least table (mem_sortedTables.mpr member) (beq_self_eq_true _)
    rw [name_unique apart inside member (String.le_antisymm notAfter (before found inside same))]

/-- A table is found under its type id unless another table has the same type id and a smaller name. So each of them is
found just if all type ids differ, which they do where names begin with ASCII characters. -/
theorem typeId_resolves :
    (∀ table ∈ tables, (registry models).byTypeId table.typeId = some table.toTable ↔
      ∀ other ∈ tables, other.typeId = table.typeId → table.name ≤ other.name) ∧
    ((∀ table ∈ tables, (registry models).byTypeId table.typeId = some table.toTable) ↔ (tables.map (·.typeId)).Nodup) ∧
    ((∀ table ∈ tables, ∀ c ∈ table.name.toList.head?, c.toNat < 128) →
      ∀ table ∈ tables, (registry models).byTypeId table.typeId = some table.toTable) := by
  have own : ∀ table ∈ tables, (registry models).byTypeId table.typeId = some table.toTable ↔
      ∀ other ∈ tables, other.typeId = table.typeId → table.name ≤ other.name :=
    fun _ member => byTypeId_own apart generated member
  have enough : (tables.map (·.typeId)).Nodup →
      ∀ table ∈ tables, (registry models).byTypeId table.typeId = some table.toTable := by
    intro distinct table member
    refine (own table member).mpr fun other among shared => ?_
    obtain rfl : other = table := List.inj_on_of_nodup_map distinct among member shared
    exact String.le_refl _
  refine ⟨own, ⟨fun all => ?_, enough⟩, fun ascii => enough (typeIds_ascii apart ascii)⟩
  rw [List.Nodup, List.pairwise_map]
  refine apart.imp_of_mem fun {first second} one other differ same => differ ?_
  have before := (own first one).mp (all first one) second other same.symm
  have after := (own second other).mp (all second other) first one same
  rw [Text.sameLetters, String.le_antisymm before after]
  exact beq_self_eq_true _

end

def smallAccent : Schema.Table := ⟨"é", [.declared "id" none]⟩

def capitalAccent : Schema.Table := ⟨"É", [.declared "number" none]⟩

private theorem accents_apart : [smallAccent, capitalAccent].Pairwise fun first second =>
    ¬ Text.sameLetters first.name second.name := by decide

private theorem accents_generated : ∃ models, entities [smallAccent, capitalAccent] {} = .ok models :=
  entities_typed fun _ _ _ _ => ⟨_, fieldType_unhinted rfl⟩

theorem typeId_resolves_capital :
    ∃ models, entities [smallAccent, capitalAccent] {} = .ok models ∧
      (registry models).byTypeId capitalAccent.typeId = some capitalAccent.toTable := by
  obtain ⟨models, generated⟩ := accents_generated
  refine ⟨models, generated, ?_⟩
  exact ((typeId_resolves accents_apart generated).1 capitalAccent (by decide)).mpr (by decide)

/-- The names differ in a letter that has no case in ASCII, and the type id of either table is the capital. -/
theorem typeId_shadowed :
    [smallAccent, capitalAccent].Pairwise (fun first second => ¬ Text.sameLetters first.name second.name) ∧
    ∃ models, entities [smallAccent, capitalAccent] {} = .ok models ∧
      (registry models).byTypeId smallAccent.typeId = some capitalAccent.toTable ∧
      smallAccent.toTable ≠ capitalAccent.toTable := by
  obtain ⟨models, generated⟩ := accents_generated
  refine ⟨accents_apart, models, generated, ?_, by decide⟩
  rw [show smallAccent.typeId = capitalAccent.typeId by decide]
  exact (byTypeId_own accents_apart generated (by decide)).mpr (by decide)

end Code

end Relmap
