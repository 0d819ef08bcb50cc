import Mathlib.Data.List.Chain
import Relmap.Proofs.IdentifierShape

/-! Snake case is a normal form: words of small letters and digits with single underscores between them. A name of this
form is left as it is, so nothing changes when a name is put into snake case again. -/

namespace Relmap.Identifier

/-- Puts an underscore behind every character that ends a word, as told from it and what follows. -/
def marked (ends : Char → List Char → Bool) : List Char → List Char
  | [] => []
  | c :: rest => if ends c rest then c :: '_' :: marked ends rest else c :: marked ends rest

def endsAcronym (c : Char) (rest : List Char) : Bool :=
  c.isUpper && rest.head?.any Char.isUpper && rest.tail.head?.any Char.isLower

def endsSmall (c : Char) (rest : List Char) : Bool := (c.isLower || c.isDigit) && rest.head?.any Char.isUpper

theorem marked_head (ends : Char → List Char → Bool) (text : List Char) : (marked ends text).head? = text.head? := by
  cases text with
  | nil => rfl
  | cons c rest =>
    rw [marked]
    split <;> rfl

private theorem endsSmall_marked (ends : Char → List Char → Bool) (c : Char) (rest : List Char) :
    endsSmall c (marked ends rest) = endsSmall c rest := by
  rw [endsSmall, endsSmall, marked_head]

private theorem continues_eq (c : Char) (rest : List Char) :
    continues c rest = (rest.head?.any Char.isAlphanum && !(endsAcronym c rest || endsSmall c rest)) := by
  cases rest with
  | nil => rfl
  | cons next rest =>
    simp only [continues, startsWord, endsAcronym, endsSmall, List.head?_cons, List.tail_cons, Option.any_some]
    cases next.isUpper <;> cases c.isUpper <;> cases c.isLower <;> cases c.isDigit <;> simp

theorem marked_ended {ends : Char → List Char → Bool} {c : Char} {rest : List Char} (ended : ends c rest = true) :
    marked ends (c :: rest) = c :: '_' :: marked ends rest := by
  rw [marked, if_pos ended]

theorem marked_inside {ends : Char → List Char → Bool} {c : Char} {rest : List Char} (inside : ends c rest = false) :
    marked ends (c :: rest) = c :: marked ends rest := by
  rw [marked, if_neg (Bool.eq_false_iff.mp inside)]

theorem words_separator {c : Char} (separator : ¬c.isAlphanum = true) (rest : List Char) : words (c :: rest) = words rest := by
  simp [words, separator]

theorem runs_separator {c : Char} (separator : ¬c.isAlphanum = true) (rest : List Char) : runs (c :: rest) = runs rest := by
  simp [runs, separator]

theorem separator_inside {c : Char} (separator : ¬c.isAlphanum = true) (rest : List Char) :
    endsAcronym c rest = false ∧ endsSmall c rest = false := by
  have other : c.isUpper = false ∧ c.isLower = false ∧ c.isDigit = false := by simpa [alphanum_iff] using separator
  obtain ⟨noCapital, noLetter, noDigit⟩ := other
  constructor
  · simp [endsAcronym, noCapital]
  · simp [endsSmall, noLetter, noDigit]

/-- The words of a name are its runs of letters and digits once two rewritings have marked where words end inside a run:
the first marks the ends of acronyms, the second, which passes over the marks of the first, what comes before a capital
otherwise. -/
theorem words_marked (name : List Char) : words name = runs (marked endsSmall (marked endsAcronym name)) := by
  induction name with
  | nil => rfl
  | cons c rest ih =>
    by_cases letter : c.isAlphanum = true
    · rw [words_letter letter, ih, continues_eq]
      cases acronym : endsAcronym c rest with
      | true =>
        have before : endsSmall c ('_' :: marked endsAcronym rest) = false := Bool.and_false _
        have behind : endsSmall '_' (marked endsAcronym rest) = false := (separator_inside (by decide) _).2
        rw [marked_ended acronym, marked_inside before, marked_inside behind, runs_letter letter, runs_separator (by decide)]
        simp
      | false =>
        have same := endsSmall_marked endsAcronym c rest
        rw [marked_inside acronym]
        cases small : endsSmall c rest with
        | true =>
          rw [marked_ended (same.trans small), runs_letter letter, runs_separator (by decide)]
          simp
        | false =>
          rw [marked_inside (same.trans small), runs_letter letter, marked_head, marked_head]
          simp
    · rw [marked_inside (separator_inside letter rest).1, marked_inside (separator_inside letter _).2, runs_separator letter,
        words_separator letter, ih]

theorem marked_small {ends : Char → List Char → Bool}
    (capital : ∀ c rest, ends c rest = true → rest.head?.any Char.isUpper = true) {text : List Char}
    (small : ∀ c ∈ text, c.isUpper = false) : marked ends text = text := by
  induction text with
  | nil => rfl
  | cons c rest ih =>
    obtain ⟨-, others⟩ := List.forall_mem_cons.mp small
    have inside : ends c rest = false := by
      apply Bool.eq_false_iff.mpr
      intro ended
      obtain ⟨next, behind, upper⟩ := (Option.any_eq_true _ _).mp (capital c rest ended)
      rw [others next (List.mem_of_head? behind)] at upper
      contradiction
    rw [marked_inside inside, ih others]

theorem plain_small {c : Char} (plain : isPlain c = true) : c.isUpper = false ∧ c.toLower = c := by
  rcases plain_cases plain with rfl | ⟨letter, small⟩
  · decide
  · exact alphanum_all (fun c => c.isLower = true ∨ c.isDigit = true → c.isUpper = false ∧ c.toLower = c) (by decide)
      letter small

private theorem words_plain {name : List Char} (plain : ∀ c ∈ name, isPlain c = true) : words name = runs name := by
  have small : ∀ c ∈ name, c.isUpper = false := fun c member => (plain_small (plain c member)).1
  have acronyms : marked endsAcronym name = name := by
    apply marked_small _ small
    intro c rest ended
    exact (Bool.and_eq_true_iff.mp (Bool.and_eq_true_iff.mp ended).1).2
  have capitals : marked endsSmall name = name := by
    apply marked_small _ small
    intro c rest ended
    exact (Bool.and_eq_true_iff.mp ended).2
  rw [words_marked, acronyms, capitals]

/-- No two underscores stand side by side. -/
def Single (text : List Char) : Prop := text.IsChain fun before c => ¬(before = '_' ∧ c = '_')

/-- Small letters and digits that single underscores part. One may stand in front, but none at the end. -/
structure Joined (text : List Char) : Prop where
  plain : ∀ c ∈ text, isPlain c = true
  single : Single text
  ends : text.getLast? ≠ some '_'

/-- The form of names in snake case. An underscore leads only where a digit would be first without it. -/
structure IsSnake (name : List Char) : Prop extends Joined name where
  nonempty : name ≠ []
  begins : ∀ first ∈ name.head?, first.isDigit = false
  leads : name.head? = some '_' → ∃ digit ∈ name.tail.head?, digit.isDigit = true

theorem letter_ne {c : Char} (letter : c.isLower = true ∨ c.isDigit = true) : c ≠ '_' := by
  intro underscore
  subst underscore
  simp at letter

theorem lowered_letter {word : List Char} (letters : ∀ c ∈ word, c.isAlphanum = true) :
    ∀ c ∈ word.map Char.toLower, c.isLower = true ∨ c.isDigit = true := by
  intro c member
  obtain ⟨letter, inside, rfl⟩ := List.mem_map.mp member
  exact toLower_letter (letters letter inside)

theorem Single.prepend {word text : List Char} (single : Single text) (letters : ∀ c ∈ word, c ≠ '_') :
    Single (word ++ text) := by
  induction word with
  | nil => exact single
  | cons c word ih =>
    obtain ⟨own, others⟩ := List.forall_mem_cons.mp letters
    exact List.isChain_cons.mpr ⟨fun _ _ both => own both.1, ih others⟩

theorem spelled_single {words : List (List Char)} (spoken : Spoken words) : Single (spelled words) := by
  induction words with
  | nil => exact List.isChain_nil
  | cons word words ih =>
    obtain ⟨⟨-, own⟩, others⟩ := List.forall_mem_cons.mp spoken
    have letters : ∀ c ∈ word.map Char.toLower, c ≠ '_' := fun c member => letter_ne (lowered_letter own c member)
    cases words with
    | nil =>
      rw [spelled_singleton, ← List.append_nil (word.map Char.toLower)]
      exact Single.prepend List.isChain_nil letters
    | cons second words =>
      obtain ⟨⟨nonempty, spelling⟩, -⟩ := List.forall_mem_cons.mp others
      obtain ⟨c, second, rfl⟩ := List.exists_cons_of_ne_nil nonempty
      have next := letter_ne (toLower_letter (spelling c List.mem_cons_self))
      have parted : Single ('_' :: spelled ((c :: second) :: words)) := by
        apply List.isChain_cons.mpr
        refine ⟨?_, ih others⟩
        rw [spelled_first]
        intro first same both
        cases same
        exact next both.2
      rw [spelled_cons (List.cons_ne_nil _ words)]
      exact parted.prepend letters

theorem snake_single (name : List Char) : Single (snake name) := by
  have single := spelled_single (words_spoken name)
  rw [snake_spelled]
  split
  · unfold Single
    decide
  next said =>
    obtain ⟨c, rest, own⟩ := List.exists_cons_of_ne_nil said
    rw [own] at single
    rw [own, guarded]
    split
    next digit => exact List.isChain_cons_cons.mpr ⟨fun both => letter_ne (.inr digit) both.2, single⟩
    next => exact single

theorem snake_isSnake (name : List Char) : IsSnake (snake name) := by
  obtain ⟨first, rest, own, begins⟩ := snake_first name
  obtain ⟨last, ends, letter⟩ := snake_last name
  refine ⟨⟨snake_plain name, snake_single name, ?_⟩, snake_nonempty name, ?_, ?_⟩
  · rw [Option.mem_def.mp ends]
    intro underscore
    exact letter_ne letter (Option.some.inj underscore)
  · rw [own]
    intro c same
    cases same
    rcases begins with small | ⟨rfl, -⟩
    · exact small_noDigit small
    · rfl
  · rw [own]
    intro underscore
    cases underscore
    rcases begins with small | ⟨-, digit⟩
    · contradiction
    · exact digit

theorem Joined.behind {c : Char} {rest : List Char} (joined : Joined (c :: rest)) : Joined rest := by
  obtain ⟨plain, single, ends⟩ := joined
  refine ⟨(List.forall_mem_cons.mp plain).2, single.tail, ?_⟩
  intro last
  apply ends
  rw [List.getLast?_cons, last]
  rfl

theorem Joined.follows {text : List Char} (joined : Joined ('_' :: text)) : ∃ c rest, text = c :: rest ∧ c ≠ '_' := by
  cases text with
  | nil => exact absurd rfl joined.ends
  | cons c rest =>
    refine ⟨c, rest, rfl, ?_⟩
    intro underscore
    exact (List.isChain_cons_cons.mp joined.single).1 ⟨rfl, underscore⟩

theorem unled {c : Char} (other : c ≠ '_') (rest : List Char) : (c :: rest).dropWhile (· == '_') = c :: rest :=
  List.dropWhile_cons_of_neg (by simpa using other)

private theorem Joined.unled_nonempty {c : Char} {rest : List Char} (joined : Joined (c :: rest)) :
    (c :: rest).dropWhile (· == '_') ≠ [] := by
  by_cases underscore : c = '_'
  · subst underscore
    obtain ⟨second, more, rfl, other⟩ := joined.follows
    rw [List.dropWhile_cons_of_pos rfl, unled other]
    exact List.cons_ne_nil second more
  · rw [unled underscore]
    exact List.cons_ne_nil c rest

private theorem spelled_attached (joined : Bool) (c : Char) {words : List (List Char)} (nonempty : words ≠ []) :
    spelled (attached joined c words) = c.toLower :: if joined then spelled words else '_' :: spelled words := by
  obtain ⟨word, others, rfl⟩ := List.exists_cons_of_ne_nil nonempty
  cases joined with
  | true => exact spelled_first c word others
  | false => exact spelled_cons (List.cons_ne_nil word others)

/-- Parting a text at its underscores and putting them back restores it, but for one in front. -/
theorem Joined.spelled_runs {text : List Char} (joined : Joined text) :
    spelled (runs text) = text.dropWhile (· == '_') := by
  induction text with
  | nil => rfl
  | cons c rest ih =>
    have behind := ih joined.behind
    by_cases underscore : c = '_'
    · subst underscore
      rw [runs_separator (by decide), behind, List.dropWhile_cons_of_pos rfl]
    · have own := joined.plain c List.mem_cons_self
      have letter := ((plain_cases own).resolve_left underscore).1
      rw [runs_letter letter, unled underscore]
      cases rest with
      | nil => rw [runs, attached, spelled_singleton, List.map_singleton, (plain_small own).2]
      | cons next rest =>
        have said : runs (next :: rest) ≠ [] := by
          intro none
          rw [none] at behind
          exact joined.behind.unled_nonempty behind.symm
        rw [spelled_attached _ _ said, behind, (plain_small own).2, List.head?_cons, Option.any_some]
        by_cases separator : next = '_'
        · subst separator
          obtain ⟨second, more, rfl, other⟩ := joined.behind.follows
          rw [List.dropWhile_cons_of_pos rfl, unled other]
          rfl
        · have second := ((plain_cases (joined.behind.plain next List.mem_cons_self)).resolve_left separator).1
          rw [unled separator, second]
          rfl

theorem IsSnake.kept {name : List Char} (isSnake : IsSnake name) : snake name = name := by
  have own : spelled (words name) = name.dropWhile (· == '_') := by
    rw [words_plain isSnake.plain, isSnake.spelled_runs]
  obtain ⟨first, rest, rfl⟩ := List.exists_cons_of_ne_nil isSnake.nonempty
  by_cases underscore : first = '_'
  · subst underscore
    obtain ⟨digit, behind, isDigit⟩ := isSnake.leads rfl
    obtain ⟨more, rfl⟩ := List.head?_eq_some_iff.mp behind
    rw [List.dropWhile_cons_of_pos rfl, unled (letter_ne (.inr isDigit))] at own
    rw [snake_guarded (by simp [own]), own, guarded, if_pos isDigit]
  · rw [unled underscore] at own
    rw [snake_guarded (by simp [own]), own, guarded, if_neg (by simp [isSnake.begins first rfl])]

private theorem snake_fixed {name : List Char} : snake name = name ↔ IsSnake name := by
  constructor
  · intro same
    rw [← same]
    exact snake_isSnake name
  · exact IsSnake.kept

def alphanums (text : List Char) : List Char := text.filter Char.isAlphanum

theorem words_alphanums (name : List Char) : (words name).flatten = alphanums name := by
  induction name with
  | nil => rfl
  | cons c rest ih =>
    by_cases letter : c.isAlphanum = true
    · rw [words_letter letter, alphanums, List.filter_cons_of_pos letter, ← alphanums, ← ih]
      cases words rest with
      | nil => rfl
      | cons word others =>
        rw [attached]
        split <;> rfl
    · rw [words_separator letter, ih, alphanums, alphanums, List.filter_cons_of_neg letter]

private theorem spelled_alphanums {words : List (List Char)} (spoken : Spoken words) :
    alphanums (spelled words) = words.flatten.map Char.toLower := by
  induction words with
  | nil => rfl
  | cons word words ih =>
    obtain ⟨⟨-, own⟩, others⟩ := List.forall_mem_cons.mp spoken
    have kept : alphanums (word.map Char.toLower) = word.map Char.toLower := by
      apply List.filter_eq_self.mpr
      intro c member
      exact alphanum_iff.mpr (.inr (lowered_letter own c member))
    cases words with
    | nil => rw [spelled_singleton, kept, List.flatten_singleton]
    | cons second words =>
      have parted : alphanums ('_' :: spelled (second :: words)) = alphanums (spelled (second :: words)) :=
        List.filter_cons_of_neg (by decide)
      calc alphanums (spelled (word :: second :: words))
        _ = alphanums (word.map Char.toLower ++ '_' :: spelled (second :: words)) := by
          rw [spelled_cons (List.cons_ne_nil second words)]
        _ = word.map Char.toLower ++ alphanums (spelled (second :: words)) := by
          rw [alphanums, List.filter_append, ← alphanums, ← alphanums, kept, parted]
        _ = (word :: second :: words).flatten.map Char.toLower := by
          rw [ih others, List.flatten_cons (l := word), List.map_append]

private theorem guarded_alphanums (text : List Char) : alphanums (guarded text) = alphanums text := by
  cases text with
  | nil => rfl
  | cons c rest =>
    rw [guarded]
    split
    · exact List.filter_cons_of_neg (by decide)
    · rfl

private theorem snake_alphanums (name : List Char) :
    alphanums (snake name) = if alphanums name = [] then unnamedField else (alphanums name).map Char.toLower := by
  have spoken := words_spoken name
  have own := spelled_alphanums spoken
  rw [words_alphanums] at own
  by_cases silent : alphanums name = []
  · have none : words name = [] := by
      rw [← words_alphanums] at silent
      apply List.eq_nil_iff_forall_not_mem.mpr
      intro word member
      exact (spoken word member).1 (List.flatten_eq_nil_iff.mp silent word member)
    rw [if_pos silent, snake_spelled, none]
    rfl
  · have said : spelled (words name) ≠ [] := by
      intro none
      rw [none] at own
      exact silent (List.map_eq_nil_iff.mp own.symm)
    rw [if_neg silent, snake_guarded said, guarded_alphanums, own]

/-- Snake case is a normal form. Whatever a name is like, the result has this form and stays as it is when it is put into
snake case again; all names of the form stay as they are, and only they do. The result holds the letters and digits of
the name in their order, with small letters for capitals, unless there are none. -/
theorem snakeCase_normal (name : String) :
    IsSnake (snakeCase name).toList ∧ snakeCase (snakeCase name) = snakeCase name ∧
    (snakeCase name = name ↔ IsSnake name.toList) ∧
    alphanums (snakeCase name).toList =
      if alphanums name.toList = [] then unnamedField else (alphanums name.toList).map Char.toLower := by
  have fixed (text : String) : snakeCase text = text ↔ IsSnake text.toList := by
    rw [← String.toList_inj, snakeCase_toList]
    exact snake_fixed
  have form : IsSnake (snakeCase name).toList := by
    rw [snakeCase_toList]
    exact snake_isSnake name.toList
  refine ⟨form, (fixed (snakeCase name)).mpr form, fixed name, ?_⟩
  rw [snakeCase_toList]
  exact snake_alphanums name.toList

example : ["userId", "HTTPServer", "first name", "__x__", "2FA", "$"].map snakeCase =
    ["user_id", "http_server", "first_name", "x", "_2_fa", "field"] := by decide

end Relmap.Identifier
