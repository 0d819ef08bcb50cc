import Relmap.Proofs.EntityNames

/-! Identifiers of fields. Numbers make them differ before keywords are escaped, and an escaped keyword can meet no other
identifier, since none of them ends with an underscore. -/

namespace Relmap.Code

open Identifier

/-- The words of the generated language. Those of the last two lines have no meaning yet but are kept for one. -/
def languageWords : List String :=
  ["as", "break", "const", "continue", "crate", "else", "enum", "extern", "false", "fn", "for", "if", "impl", "in",
   "let", "loop", "match", "mod", "move", "mut", "pub", "ref", "return", "self", "Self", "static", "struct", "super",
   "trait", "true", "type", "unsafe", "use", "where", "while", "async", "await", "dyn",
   "abstract", "become", "box", "do", "final", "macro", "override", "priv", "typeof", "unsized", "virtual", "yield",
   "try", "gen"]

/-- Words that begin a path, and that no mark turns into identifiers. -/
def pathWords : List String := ["crate", "self", "super", "Self"]

/-- Letters, digits and underscores that do not begin with a digit. An underscore alone is none. -/
structure IsIdentifier (name : String) : Prop where
  alone : name ≠ "_"
  begins : ∃ first ∈ name.toList.head?, first.isDigit = false
  spelled : ∀ c ∈ name.toList, c.isAlphanum = true ∨ c = '_'

/-- What may name a field. -/
inductive Admissible : String → Prop where
  | plain {name : String} (identifier : IsIdentifier name) (free : name ∉ languageWords) : Admissible name
  | raw {word : String} (keyword : word ∈ languageWords) (free : word ∉ pathWords) : Admissible ("r#" ++ word)

/-- The name that an identifier stands for; the mark of a raw one is not a part of it. -/
def meant (identifier : String) : String :=
  match identifier.toList with
  | 'r' :: '#' :: name => String.ofList name
  | _ => identifier

theorem IsIdentifier.append {base : String} (own : IsIdentifier base) {more : String}
    (each : ∀ c ∈ more.toList, c.isAlphanum = true ∨ c = '_') : IsIdentifier (base ++ more) := by
  obtain ⟨first, head, noDigit⟩ := own.begins
  obtain ⟨rest, chars⟩ := List.head?_eq_some_iff.mp head
  constructor
  case alone =>
    intro same
    have spelled := congrArg String.toList same
    rw [String.toList_append, chars] at spelled
    obtain ⟨rfl, nothing⟩ := List.cons.inj spelled
    obtain ⟨rfl, _⟩ := List.append_eq_nil_iff.mp nothing
    exact own.alone (String.toList_injective chars)
  case begins =>
    rw [String.toList_append, chars]
    exact ⟨first, rfl, noDigit⟩
  case spelled =>
    rw [String.toList_append]
    exact List.forall_mem_append.mpr ⟨own.spelled, each⟩

theorem snakeCase_isIdentifier (name : String) : IsIdentifier (snakeCase name) := by
  obtain ⟨first, rest, own, begins⟩ := snake_first name.toList
  have chars : (snakeCase name).toList = first :: rest := (snakeCase_toList name).trans own
  constructor
  case alone =>
    intro same
    rw [same] at chars
    have only : ['_'] = first :: rest := chars
    cases only
    rcases begins with small | ⟨_, digit, next, _⟩ <;> contradiction
  case begins =>
    rw [chars]
    refine ⟨first, rfl, ?_⟩
    rcases begins with small | ⟨rfl, _⟩
    · exact small_noDigit small
    · rfl
  case spelled =>
    intro c member
    rw [snakeCase_toList] at member
    rcases plain_cases (snake_plain name.toList c member) with underscore | ⟨letter, _⟩
    · exact .inr underscore
    · exact .inl letter

/-- What identifiers are like before keywords are escaped. -/
structure Unescaped (name : String) : Prop where
  identifier : IsIdentifier name
  plain : ∀ c ∈ name.toList, isPlain c = true
  ends : name.toList.getLast? ≠ some '_'

private theorem distinctIdentifiers_unescaped (used names : List String) :
    ∀ identifier ∈ distinctIdentifiers used names, Unescaped identifier := by
  intro identifier member
  have plain := (distinctIdentifiers_plain used names identifier member).2
  obtain ⟨name, n, rfl⟩ := distinctIdentifiers_numbered used names identifier member
  cases n with
  | zero =>
    obtain ⟨last, own, letter⟩ := snake_last name.toList
    refine ⟨snakeCase_isIdentifier name, plain, ?_⟩
    rw [numbered_zero, snakeCase_toList, Option.mem_def.mp own]
    rintro ⟨⟩
    simp at letter
  | succ n =>
    have behind : numbered (snakeCase name) "_" (n + 1) = snakeCase name ++ ("_" ++ toString (n + 2)) :=
      String.append_assoc
    have digits : (toString (n + 2)).toList = Nat.toDigits 10 (n + 2) := by simp
    refine ⟨?_, plain, ?_⟩
    · rw [behind]
      refine (snakeCase_isIdentifier name).append ?_
      rw [String.toList_append, digits]
      exact List.forall_mem_append.mpr
        ⟨by simp, fun c digit => .inl (digit_alphanum (digits_digit c digit))⟩
    · rw [numbered_toList, List.getLast?_append_of_ne_nil _ Nat.toDigits_ne_nil]
      intro ends
      exact absurd (digits_digit '_' (List.mem_of_getLast? ends)) (by decide)

/-- Each name gets the first candidate that is free, which is taken from then on. -/
theorem distinctIdentifiers_cons (used : List String) (name : String) (names : List String) :
    ∃ identifier, distinctIdentifiers used (name :: names) = identifier :: distinctIdentifiers (identifier :: used) names ∧
      FirstFree used.contains (numbered (snakeCase name) "_") identifier :=
  ⟨_, rfl, field_firstFree used (snakeCase name)⟩

private theorem distinctIdentifiers_apart (used names : List String) :
    (∀ identifier ∈ distinctIdentifiers used names, identifier ∉ used) ∧ (distinctIdentifiers used names).Nodup := by
  induction names generalizing used with
  | nil => exact ⟨fun _ member => absurd member List.not_mem_nil, .nil⟩
  | cons name names ih =>
    obtain ⟨identifier, given, settled⟩ := distinctIdentifiers_cons used name names
    obtain ⟨others, distinct⟩ := ih (identifier :: used)
    rw [given]
    refine ⟨List.forall_mem_cons.mpr ⟨by simpa using settled.free, ?_⟩, List.nodup_cons.mpr ⟨?_, distinct⟩⟩
    · intro other member taken
      exact others other member (List.mem_cons_of_mem identifier taken)
    · intro member
      exact others identifier member List.mem_cons_self

/-- Only identifiers that were given before count as taken. -/
theorem distinctIdentifiers_first (used names : List String) {index : Nat} {name : String} (here : names[index]? = some name) :
    ∃ found, (distinctIdentifiers used names)[index]? = some found ∧
      FirstFree (used ++ (distinctIdentifiers used names).take index).contains (numbered (snakeCase name) "_") found := by
  induction names generalizing used index with
  | nil => contradiction
  | cons first names ih =>
    obtain ⟨identifier, given, settled⟩ := distinctIdentifiers_cons used first names
    rw [given]
    cases index with
    | zero =>
      cases here
      refine ⟨identifier, rfl, ?_⟩
      rwa [List.take_zero, List.append_nil]
    | succ index =>
      obtain ⟨found, own, settled⟩ := ih (identifier :: used) here
      refine ⟨found, own, ?_⟩
      have same : (used ++ (identifier :: distinctIdentifiers (identifier :: used) names).take (index + 1)).contains =
          (identifier :: used ++ (distinctIdentifiers (identifier :: used) names).take index).contains := by
        funext candidate
        rw [Bool.eq_iff_iff]
        simp only [List.take_succ_cons, List.contains_iff_mem, List.mem_append, List.cons_append, List.mem_cons]
        exact or_left_comm
      rw [same]
      exact settled

/-- All words that mean something are escaped. -/
theorem languageWords_escaped : ∀ word ∈ languageWords, word ∈ strictKeywords ∨ word ∈ keywords := by
  decide

private theorem languageWords_ended : ∀ word ∈ languageWords, word.toList.getLast? ≠ some '_' := by
  decide

private theorem keywords_raw : ∀ word ∈ keywords, word ∈ languageWords ∧ word ∉ pathWords := by
  decide

private theorem escape_admissible {name : String} (own : Unescaped name) : Admissible (escapeKeyword name) := by
  unfold escapeKeyword
  split
  next strict =>
    refine .plain (own.identifier.append (by simp)) fun word => ?_
    have ends := languageWords_ended _ word
    rw [String.toList_append, List.getLast?_append_of_ne_nil _ (by decide)] at ends
    exact ends rfl
  next lax =>
    split
    next keyword =>
      obtain ⟨word, free⟩ := keywords_raw name (List.contains_iff_mem.mp keyword)
      exact .raw word free
    next free =>
      refine .plain own.identifier fun word => ?_
      rcases languageWords_escaped name word with known | known
      · exact lax (List.contains_iff_mem.mpr known)
      · exact free (List.contains_iff_mem.mpr known)

private theorem meant_unmarked {identifier : String} (unmarked : '#' ∉ identifier.toList) :
    meant identifier = identifier := by
  unfold meant
  split
  next name chars =>
    rw [chars] at unmarked
    simp at unmarked
  next => rfl

/-- Escaping changes a name itself only where a mark would not help. -/
theorem meant_escape {name : String} (own : Unescaped name) :
    meant (escapeKeyword name) = if strictKeywords.contains name then name ++ "_" else name := by
  have unmarked : '#' ∉ name.toList := fun member => absurd (own.plain '#' member) (by decide)
  unfold escapeKeyword
  split
  · exact meant_unmarked (by simpa [String.toList_append] using unmarked)
  · split
    · simp [meant, String.toList_append]
    · exact meant_unmarked unmarked

private theorem escape_injective {first second : String} (one : Unescaped first) (other : Unescaped second)
    (same : meant (escapeKeyword first) = meant (escapeKeyword second)) : first = second := by
  have apart {escaped plain : String} (own : Unescaped plain) : escaped ++ "_" ≠ plain := by
    rintro rfl
    apply own.ends
    rw [String.toList_append, List.getLast?_append_of_ne_nil _ (by decide)]
    rfl
  rw [meant_escape one, meant_escape other] at same
  split at same <;> split at same
  · have spelled := congrArg String.toList same
    rw [String.toList_append, String.toList_append] at spelled
    exact String.toList_injective (List.append_cancel_right spelled)
  · exact absurd same (apart other)
  · exact absurd same.symm (apart one)
  · exact same

/-- Whatever columns are called, the search for each field's identifier ends with the first candidate that no column
before has taken; all identifiers of the fields differ, also without the marks of raw ones, and each may name a field. -/
theorem fieldIdentifiers_settled (columns : List Schema.Column) :
    (∀ index column, columns[index]? = some column → ∃ found,
      (distinctIdentifiers [] (columns.map (·.name)))[index]? = some found ∧
      FirstFree ((distinctIdentifiers [] (columns.map (·.name))).take index).contains
        (numbered (snakeCase column.name) "_") found ∧
      (fieldIdentifiers columns)[index]? = some (escapeKeyword found)) ∧
    (fieldIdentifiers columns).Nodup ∧ ((fieldIdentifiers columns).map meant).Nodup ∧
    ∀ identifier ∈ fieldIdentifiers columns, Admissible identifier := by
  have unescaped := distinctIdentifiers_unescaped [] (columns.map (·.name))
  have apart : ((fieldIdentifiers columns).map meant).Nodup := by
    rw [fieldIdentifiers, List.map_map]
    refine List.Nodup.map_on ?_ (distinctIdentifiers_apart [] _).2
    intro first one second other same
    exact escape_injective (unescaped first one) (unescaped second other) same
  refine ⟨?_, apart.of_map, apart, ?_⟩
  · intro index column here
    have name : (columns.map (·.name))[index]? = some column.name := by
      rw [List.getElem?_map, here]
      rfl
    obtain ⟨found, own, first⟩ := distinctIdentifiers_first [] _ name
    refine ⟨found, own, first, ?_⟩
    rw [fieldIdentifiers, List.getElem?_map, own]
    rfl
  · intro identifier member
    obtain ⟨name, inside, rfl⟩ := List.mem_map.mp member
    exact escape_admissible (unescaped name inside)

def awkward : List Schema.Column :=
  ["type", "self", "Self", "a", "a", "a_2", "É", "1"].map fun name => ⟨name, none, true, none, 0, false⟩

theorem fieldIdentifiers_settled_awkward :
    awkward[5]? = some ⟨"a_2", none, true, none, 0, false⟩ ∧
    (∃ found, (fieldIdentifiers awkward)[5]? = some (escapeKeyword found) ∧
      FirstFree ["type", "self", "self_2", "a", "a_2"].contains (numbered "a_2" "_") found) ∧
    fieldIdentifiers awkward = ["r#type", "self_", "self_2", "a", "a_2", "a_2_2", "field", "_1"] := by
  obtain ⟨each, -⟩ := fieldIdentifiers_settled awkward
  obtain ⟨found, -, first, given⟩ := each 5 ⟨"a_2", none, true, none, 0, false⟩ rfl
  exact ⟨rfl, ⟨found, given, first⟩, by decide⟩

end Relmap.Code
