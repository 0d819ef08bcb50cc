import Relmap.Schema.Directory
import Relmap.Proofs.ExtractedStatements
import Relmap.Proofs.SourceOrder

/-! The files that make up a schema. A directory may list its entries in any order: the same files are found in it, each once, and
they are read in the order of their paths. -/

namespace Relmap

namespace Tree

/-- No directory has two entries of one name. -/
inductive Distinct : Tree → Prop where
  | file (content : Content) : Distinct (.file content)
  | directory {entries : List (String × Tree)} (names : (entries.map (·.1)).Nodup)
    (each : ∀ name child, (name, child) ∈ entries → Distinct child) : Distinct (.directory entries)

/-- The same names in every directory, listed in whatever order, and the same under each of them. -/
inductive Relisted : Tree → Tree → Prop where
  | file (content : Content) : Relisted (.file content) (.file content)
  | directory {entries others : List (String × Tree)} (names : (entries.map (·.1)).Perm (others.map (·.1)))
    (each : ∀ name child other, (name, child) ∈ entries → (name, other) ∈ others → Relisted child other) :
    Relisted (.directory entries) (.directory others)

theorem Relisted.symm {tree other : Tree} (relisted : Relisted tree other) : Relisted other tree := by
  induction relisted with
  | file content => exact .file content
  | directory names each ih => exact .directory names.symm fun name child other here there => ih name other child there here

/-- Whatever is under a name is under it in the other order too. -/
theorem relisted_entry {entries others : List (String × Tree)} (names : (entries.map (·.1)).Perm (others.map (·.1)))
    {name : String} {child : Tree} (member : (name, child) ∈ entries) : ∃ other, (name, other) ∈ others := by
  have listed : name ∈ others.map (·.1) := names.mem_iff.mp (List.mem_map_of_mem member)
  obtain ⟨⟨_, other⟩, there, rfl⟩ := List.mem_map.mp listed
  exact ⟨other, there⟩

theorem Relisted.distinct {tree other : Tree} (relisted : Relisted tree other) (distinct : tree.Distinct) : other.Distinct := by
  induction relisted with
  | file content => exact distinct
  | directory names each ih =>
    cases distinct with
    | directory apart children =>
      refine .directory (names.nodup_iff.mp apart) fun name other there => ?_
      obtain ⟨child, here⟩ := relisted_entry names.symm there
      exact ih name child other here there (children name child here)

theorem below?_entry {entries : List (String × Tree)} (names : (entries.map (·.1)).Nodup) {name : String} {rest : List String}
    {found : Tree} : (Tree.directory entries).below? (name :: rest) = some found ↔
      ∃ child, (name, child) ∈ entries ∧ child.below? rest = some found := by
  rw [below?, Option.bind_eq_some_iff]
  simp only [lookup_distinct names]

theorem Relisted.below? {tree other : Tree} (relisted : Relisted tree other) (distinct : tree.Distinct) {parts : List String}
    {content : Content} (found : tree.below? parts = some (.file content)) : other.below? parts = some (.file content) := by
  induction relisted generalizing parts with
  | file content => exact found
  | directory names each ih =>
    cases parts with
    | nil => cases found
    | cons name rest =>
      cases distinct with
      | directory apart children =>
        obtain ⟨child, here, below⟩ := (below?_entry apart).mp found
        obtain ⟨other, there⟩ := relisted_entry names here
        exact (below?_entry (names.nodup_iff.mp apart)).mpr
          ⟨other, there, ih name child other here there (children name child here) below⟩

theorem filesOf_flatMap (path : List String) (entries : List (String × Tree)) :
    filesOf path entries = entries.flatMap fun entry => filesBelow (path ++ [entry.1]) entry.2 := by
  induction entries with
  | nil => rfl
  | cons entry entries ih => rw [filesOf, ih, List.flatMap_cons]

/-- The files of a tree are what can be found in it by a path. -/
theorem mem_filesBelow {tree : Tree} (distinct : tree.Distinct) {path parts : List String} {content : Content} :
    (parts, content) ∈ tree.filesBelow path ↔ ∃ rest, parts = path ++ rest ∧ tree.below? rest = some (.file content) := by
  induction distinct generalizing path parts with
  | file own =>
    rw [filesBelow, List.mem_singleton, Prod.mk.injEq]
    constructor
    · rintro ⟨rfl, rfl⟩
      exact ⟨[], (List.append_nil parts).symm, rfl⟩
    · rintro ⟨rest, rfl, found⟩
      cases rest with
      | nil =>
        cases found
        exact ⟨List.append_nil path, rfl⟩
      | cons name rest => cases found
  | directory names each ih =>
    rw [filesBelow, filesOf_flatMap, List.mem_flatMap]
    constructor
    · intro ⟨⟨name, child⟩, here, member⟩
      obtain ⟨rest, rfl, found⟩ := (ih name child here).mp member
      exact ⟨name :: rest, by rw [List.append_assoc, List.singleton_append], (below?_entry names).mpr ⟨child, here, found⟩⟩
    · rintro ⟨rest, rfl, found⟩
      cases rest with
      | nil => cases found
      | cons name rest =>
        obtain ⟨child, here, below⟩ := (below?_entry names).mp found
        exact ⟨(name, child), here, (ih name child here).mpr ⟨rest, by rw [List.append_assoc, List.singleton_append], below⟩⟩

private theorem filesBelow_apart {tree : Tree} (distinct : tree.Distinct) (path : List String) :
    (tree.filesBelow path).Pairwise fun first second => first.1 ≠ second.1 := by
  induction distinct generalizing path with
  | file content => exact List.pairwise_singleton _ _
  | directory names each ih =>
    rw [filesBelow, filesOf_flatMap, List.pairwise_flatMap]
    refine ⟨fun entry here => ih entry.1 entry.2 here _, ?_⟩
    have apart := List.pairwise_map.mp names
    refine apart.imp_of_mem fun {first second} here there differ file member other found same => ?_
    obtain ⟨rest, own, -⟩ := (mem_filesBelow (each first.1 first.2 here)).mp member
    obtain ⟨rest', own', -⟩ := (mem_filesBelow (each second.1 second.2 there)).mp found
    rw [own, own', List.append_assoc, List.append_assoc] at same
    exact differ (List.cons.inj (List.append_cancel_left same)).1

end Tree

namespace Path

theorem before_iff {first second : List String} : before first second = true ↔ first < second ∨ first = second := by
  induction first generalizing second with
  | nil => cases second <;> simp [before]
  | cons name rest ih =>
    cases second with
    | nil => simp [before]
    | cons other others =>
      rw [before, Bool.or_eq_true, decide_eq_true_iff, Bool.and_eq_true, beq_iff_eq, ih, List.cons_lt_cons_iff, List.cons.injEq,
        and_or_left, or_assoc]

private theorem before_trans {first second third : List String} (one : before first second = true)
    (other : before second third = true) :
    before first third = true := by
  rw [before_iff] at *
  rcases one with less | rfl
  · rcases other with more | rfl
    · exact .inl (List.lt_trans less more)
    · exact .inl less
  · exact other

private theorem before_total (first second : List String) : (before first second || before second first) = true := by
  rw [Bool.or_eq_true]
  induction first generalizing second with
  | nil => exact .inl rfl
  | cons name rest ih =>
    cases second with
    | nil => exact .inr rfl
    | cons other others =>
      rw [before_iff, before_iff, List.cons_lt_cons_iff, List.cons_lt_cons_iff]
      by_cases less : name < other
      · exact .inl (.inl (.inl less))
      by_cases more : other < name
      · exact .inr (.inl (.inl more))
      obtain rfl := String.le_antisymm (String.not_lt.mp more) (String.not_lt.mp less)
      simpa [before_iff] using ih others

theorem undotted {name : String} (plain : '.' ∉ name.toList) : ∀ c ∈ name.toList.reverse, (c != '.') = true := by
  intro c member
  rw [bne_iff_ne]
  rintro rfl
  exact plain (List.mem_reverse.mp member)

private theorem nameExtension?_plain {name : String} (plain : '.' ∉ name.toList) : nameExtension? name = none := by
  unfold nameExtension?
  dsimp only
  rw [← List.append_nil name.toList.reverse, List.dropWhile_append_of_pos (undotted plain)]
  rfl

theorem nameExtension?_dotted {stem extension : String} (plain : '.' ∉ extension.toList) :
    nameExtension? (stem ++ "." ++ extension) = if stem = "" then none else some extension := by
  have reversed : (stem ++ "." ++ extension).toList.reverse = extension.toList.reverse ++ '.' :: stem.toList.reverse := by
    simp
  unfold nameExtension?
  dsimp only
  rw [reversed, List.dropWhile_append_of_pos (undotted plain), List.takeWhile_append_of_pos (undotted plain)]
  by_cases empty : stem = ""
  · subst empty
    rfl
  · rw [if_neg empty]
    obtain ⟨last, rest, shown⟩ : ∃ last rest, stem.toList.reverse = last :: rest := by
      apply List.exists_cons_of_ne_nil
      simpa using empty
    rw [shown]
    simp

/-- An extension is what follows the last dot, unless nothing is in front of it. -/
theorem nameExtension?_some {name extension : String} : nameExtension? name = some extension ↔
    ∃ stem, name = stem ++ "." ++ extension ∧ stem ≠ "" ∧ '.' ∉ extension.toList := by
  constructor
  · intro found
    by_cases dotted : '.' ∈ name.toList
    · obtain ⟨behind, front, cut, plain⟩ := List.eq_append_cons_of_mem (List.mem_reverse.mpr dotted)
      have whole : name = String.ofList front.reverse ++ "." ++ String.ofList behind.reverse := by
        apply String.toList_inj.mp
        rw [← List.reverse_reverse name.toList, cut]
        simp
      have last : '.' ∉ (String.ofList behind.reverse).toList := by
        rwa [String.toList_ofList, List.mem_reverse]
      rw [whole, nameExtension?_dotted last] at found
      split at found
      next => cases found
      next nonempty =>
        cases found
        exact ⟨_, whole, nonempty, last⟩
    · rw [nameExtension?_plain dotted] at found
      cases found
  · rintro ⟨stem, rfl, nonempty, plain⟩
    rw [nameExtension?_dotted plain, if_neg nonempty]

end Path

namespace Ddl

private theorem kept_inOrder (keeps : List Char → Bool) (pieces : List (List Char)) :
    Code.InOrder (((pieces.map Text.trim).filter keeps).map String.ofList) (String.ofList ([';'].intercalate pieces)) := by
  induction pieces with
  | nil => exact .done _
  | cons piece rest ih =>
    obtain ⟨behind, joined, others⟩ : ∃ behind, [';'].intercalate (piece :: rest) = piece ++ behind ∧
        Code.InOrder (((rest.map Text.trim).filter keeps).map String.ofList) (String.ofList behind) := by
      cases rest with
      | nil => exact ⟨[], by rw [List.intercalate_singleton, List.append_nil], .done _⟩
      | cons next rest =>
        refine ⟨[';'] ++ [';'].intercalate (next :: rest), by rw [List.intercalate_cons_cons, List.append_assoc], ?_⟩
        rw [String.ofList_append]
        exact ih.after _
    rw [joined, List.map_cons, List.filter_cons]
    split
    next =>
      obtain ⟨front, back, whole⟩ := Text.trim_inside piece
      have shown : piece ++ behind = front ++ Text.trim piece ++ (back ++ behind) := by
        rw [← List.append_assoc, whole]
      rw [shown, String.ofList_append, String.ofList_append, String.ofList_append]
      exact .next _ _ (others.after _)
    next =>
      rw [String.ofList_append]
      exact others.after _

/-- The statements of a text are pieces of it, in the order in which they stand there. -/
theorem extract_inOrder (text : String) :
    ∃ pieces, extract text = pieces.map (· ++ ";") ∧ Code.InOrder pieces (stripComments text) := by
  refine ⟨(declarations text.toList).map String.ofList, ?_, ?_⟩
  · rw [extract, List.map_map]
    exact List.map_congr_left fun statement _ => String.ofList_append
  · have inOrder := kept_inOrder (fun statement => !statement.isEmpty && declares statement)
      (Text.split ';' (withoutComments text.toList))
    rwa [split_eq_splitOn, List.intercalate_splitOn, ← split_eq_splitOn] at inOrder

end Ddl

namespace Schema

/-- The last of the names ends with an extension of the settings, in whatever case. -/
def Chosen (settings : Settings) (parts : List String) : Prop :=
  ∃ above stem extension, parts = above ++ [stem ++ "." ++ extension] ∧ stem ≠ "" ∧ '.' ∉ extension.toList ∧
    ∃ configured ∈ settings.extensions, Text.lower configured.toList = Text.lower extension.toList

theorem chosen_iff {settings : Settings} {parts : List String} :
    (parts.getLast?.bind Path.nameExtension?).any settings.takes = true ↔ Chosen settings parts := by
  have taken : ∀ extension, settings.takes extension = true ↔
      ∃ configured ∈ settings.extensions, Text.lower configured.toList = Text.lower extension.toList := by
    intro extension
    rw [Settings.takes, List.any_eq_true]
    exact exists_congr fun configured => and_congr_right fun _ => beq_iff_eq.trans eq_comm
  rw [Option.any_eq_true]
  simp only [Option.bind_eq_some_iff, List.getLast?_eq_some_iff, Path.nameExtension?_some, taken]
  constructor
  · rintro ⟨extension, ⟨_, ⟨above, rfl⟩, stem, rfl, nonempty, plain⟩, configured⟩
    exact ⟨above, stem, extension, rfl, nonempty, plain, configured⟩
  · rintro ⟨above, stem, extension, rfl, nonempty, plain, configured⟩
    exact ⟨extension, ⟨_, ⟨above, rfl⟩, stem, rfl, nonempty, plain⟩, configured⟩

/-- The files of a schema that are in a tree, each once and in the order of their paths, name by name. -/
structure Collected (settings : Settings) (tree : Tree) (files : List (List String × Content)) : Prop where
  member : ∀ parts content, (parts, content) ∈ files ↔ tree.below? parts = some (.file content) ∧ Chosen settings parts
  increasing : files.Pairwise fun first later => first.1 < later.1

theorem sourceParts_collected {settings : Settings} {tree : Tree} (distinct : tree.Distinct) :
    Collected settings tree (sourceParts settings tree) := by
  constructor
  case member =>
    intro parts content
    rw [sourceParts, List.mem_mergeSort, List.mem_filter, Tree.mem_filesBelow distinct, chosen_iff]
    simp
  case increasing =>
    have ordered : (sourceParts settings tree).Pairwise fun first later => Path.before first.1 later.1 = true := by
      apply List.pairwise_mergeSort
      · exact fun first second third => Path.before_trans
      · exact fun first second => Path.before_total first.1 second.1
    have apart : (sourceParts settings tree).Pairwise fun first later => first.1 ≠ later.1 := by
      refine (List.mergeSort_perm _ _).symm.pairwise ?_ fun differ => differ.symm
      exact (Tree.filesBelow_apart distinct []).sublist List.filter_sublist
    exact ordered.imp₂ (fun _ _ before differ => (Path.before_iff.mp before).resolve_right differ) apart

/-- There is only one way to collect the files of a schema. -/
theorem Collected.unique {settings : Settings} {tree other : Tree} {files others : List (List String × Content)}
    (collected : Collected settings tree files) (also : Collected settings other others)
    (same : ∀ parts content, tree.below? parts = some (.file content) ↔ other.below? parts = some (.file content)) :
    others = files := by
  have nodup : ∀ {files : List (List String × Content)}, (files.Pairwise fun first later => first.1 < later.1) → files.Nodup := by
    intro files increasing
    refine increasing.imp ?_
    rintro first _ less rfl
    exact List.lt_irrefl _ less
  have members : ∀ file, file ∈ others ↔ file ∈ files := by
    intro ⟨parts, content⟩
    rw [collected.member, also.member, same]
  have permuted := (List.perm_ext_iff_of_nodup (nodup also.increasing) (nodup collected.increasing)).mpr members
  refine permuted.eq_of_pairwise (fun first second _ _ less more => ?_) also.increasing collected.increasing
  exact absurd (List.lt_trans less more) (List.lt_irrefl _)

private theorem sourceParts_relisted {settings : Settings} {tree other : Tree} (distinct : tree.Distinct)
    (relisted : tree.Relisted other) :
    sourceParts settings other = sourceParts settings tree := by
  have also := relisted.distinct distinct
  refine (sourceParts_collected distinct).unique (sourceParts_collected also) fun parts content => ?_
  exact ⟨relisted.below? distinct, relisted.symm.below? also⟩

def Contributes (content : Content) (statements : List String) : Prop :=
  ∃ text, content.text = .ok text ∧ statements = Ddl.extract text ∧
    ∃ pieces, statements = pieces.map (· ++ ";") ∧ Code.InOrder pieces (Ddl.stripComments text)

theorem readDdl_parts {settings : Settings} {root : String} {entries : List (String × Tree)} {read : List (List String)}
    (each : List.Forall₂ (fun file statements => Contributes file.2 statements)
      (sourceParts settings (.directory entries)) read) :
    readDdl settings root (.ok (.directory entries)) = .ok read.flatten := by
  rw [readDdl, bind_eq_ok]
  refine ⟨_, rfl, ?_⟩
  rw [bind_eq_ok]
  refine ⟨read, mapM_eq_ok.mpr ?_, rfl⟩
  rw [List.forall₂_map_left_iff]
  refine each.imp ?_
  rintro ⟨parts, content⟩ statements ⟨text, own, rfl, -⟩
  dsimp only
  rw [own]

/-- Whatever order directories list their entries in, the statements of a schema are those of its files, each file once, in the
order of their paths. -/
theorem readDdl_unordered {settings : Settings} {root : String} {entries others : List (String × Tree)}
    (distinct : (Tree.directory entries).Distinct) (relisted : (Tree.directory entries).Relisted (.directory others))
    (readable : ∀ parts content, (Tree.directory entries).below? parts = some (.file content) → Chosen settings parts →
      ∃ text, content.text = .ok text) :
    ∃ files read, Collected settings (.directory entries) files ∧
      List.Forall₂ (fun file statements => Contributes file.2 statements) files read ∧
      readDdl settings root (.ok (.directory entries)) = .ok read.flatten ∧
      readDdl settings root (.ok (.directory others)) = .ok read.flatten := by
  have collected : Collected settings (.directory entries) _ := sourceParts_collected distinct
  obtain ⟨read, each⟩ : ∃ read, List.Forall₂ (fun file statements => Contributes file.2 statements)
      (sourceParts settings (.directory entries)) read := by
    apply exists_forall₂
    intro ⟨parts, content⟩ member
    obtain ⟨found, chosen⟩ := (collected.member parts content).mp member
    obtain ⟨text, own⟩ := readable parts content found chosen
    exact ⟨_, text, own, rfl, Ddl.extract_inOrder text⟩
  refine ⟨_, read, collected, each, readDdl_parts each, readDdl_parts ?_⟩
  rwa [sourceParts_relisted distinct relisted]

/-- A name that begins like a directory's, a name in capitals, one that is nothing but an extension and a file that is no text. -/
def shopEntries : List (String × Tree) :=
  [("a", .directory [("b.SQ", .file (.bytes "create table c (d)".toUTF8.toList)), ("e.txt", .file (.database {}))]),
    (".sql", .file (.bytes "create table f (g);".toUTF8.toList)),
    ("a.sql", .file (.bytes "drop table h;alter table i add j;create table k (l);".toUTF8.toList))]

def shopRelisted : List (String × Tree) :=
  [("a.sql", .file (.bytes "drop table h;alter table i add j;create table k (l);".toUTF8.toList)),
    ("a", .directory [("e.txt", .file (.database {})), ("b.SQ", .file (.bytes "create table c (d)".toUTF8.toList))]),
    (".sql", .file (.bytes "create table f (g);".toUTF8.toList))]

theorem readDdl_unordered_shop : (Tree.directory shopEntries).Distinct ∧
    (Tree.directory shopEntries).Relisted (.directory shopRelisted) ∧
    (∀ parts content, (Tree.directory shopEntries).below? parts = some (.file content) → Chosen {} parts →
      ∃ text, content.text = .ok text) ∧
    readDdl {} "shop" (.ok (.directory shopRelisted)) =
      .ok ["create table c (d);", "alter table i add j;", "create table k (l);"] := by
  have distinct : (Tree.directory shopEntries).Distinct := by
    refine .directory (by decide) fun name child member => ?_
    simp only [shopEntries, List.mem_cons, List.not_mem_nil, or_false, Prod.mk.injEq] at member
    rcases member with ⟨-, rfl⟩ | ⟨-, rfl⟩ | ⟨-, rfl⟩
    · refine .directory (by decide) fun name child member => ?_
      simp only [List.mem_cons, List.not_mem_nil, or_false, Prod.mk.injEq] at member
      rcases member with ⟨-, rfl⟩ | ⟨-, rfl⟩
      all_goals exact .file _
    all_goals exact .file _
  have relisted : (Tree.directory shopEntries).Relisted (.directory shopRelisted) := by
    refine .directory (by decide) fun name child other here there => ?_
    simp only [shopEntries, shopRelisted, List.mem_cons, List.not_mem_nil, or_false, Prod.mk.injEq] at here there
    rcases here with ⟨rfl, rfl⟩ | ⟨rfl, rfl⟩ | ⟨rfl, rfl⟩
    · obtain rfl : other = _ := by simpa using there
      refine .directory (by decide) fun name child other here there => ?_
      simp only [List.mem_cons, List.not_mem_nil, or_false, Prod.mk.injEq] at here there
      rcases here with ⟨rfl, rfl⟩ | ⟨rfl, rfl⟩
      all_goals
        obtain rfl : other = _ := by simpa using there
        exact .file _
    all_goals
      obtain rfl : other = _ := by simpa using there
      exact .file _
  have readable : ∀ parts content, (Tree.directory shopEntries).below? parts = some (.file content) → Chosen {} parts →
      ∃ text, content.text = .ok text := by
    intro parts content found chosen
    have member := (Tree.mem_filesBelow distinct).mpr ⟨parts, (List.nil_append parts).symm, found⟩
    simp only [shopEntries, Tree.filesBelow, Tree.filesOf, List.nil_append, List.cons_append, List.append_nil, List.mem_cons,
      List.not_mem_nil, or_false, Prod.mk.injEq] at member
    rcases member with ⟨rfl, rfl⟩ | ⟨rfl, rfl⟩ | ⟨rfl, rfl⟩ | ⟨rfl, rfl⟩
    · exact ⟨"create table c (d)", by decide +kernel⟩
    · exact absurd (chosen_iff.mpr chosen) (by decide)
    · exact ⟨"create table f (g);", by decide +kernel⟩
    · exact ⟨"drop table h;alter table i add j;create table k (l);", by decide +kernel⟩
  obtain ⟨files, read, -, -, first, second⟩ := @readDdl_unordered {} "shop" _ _ distinct relisted readable
  refine ⟨distinct, relisted, readable, ?_⟩
  have statements : readDdl {} "shop" (.ok (.directory shopEntries)) =
      .ok ["create table c (d);", "alter table i add j;", "create table k (l);"] := by
    rw [readDdl, sourceFiles, sourceParts, List.mergeSort_of_pairwise (by decide)]
    decide +kernel
  rw [second, ← first, statements]

end Schema

end Relmap
