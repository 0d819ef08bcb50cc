import Relmap.Code.Model

/-! What identifiers look like that are made from arbitrary names, and what becomes of them when a number is put
behind the name. -/

namespace Relmap

theorem alphanum_iff {c : Char} : c.isAlphanum = true ↔ c.isUpper = true ∨ c.isLower = true ∨ c.isDigit = true := by
  change (c.isUpper || c.isLower || c.isDigit) = true ↔ _
  rw [Bool.or_eq_true, Bool.or_eq_true, or_assoc]

private theorem alphanum_ascii {c : Char} (alphanum : c.isAlphanum = true) : c.toNat < 128 := by
  have below : ∀ last : UInt32, last.toNat < 128 → c.val ≤ last → c.toNat < 128 :=
    fun last small least => Nat.lt_of_le_of_lt (UInt32.le_iff_toNat_le.mp least) small
  rcases alphanum_iff.mp alphanum with upper | lower | digit
  · obtain ⟨-, last⟩ : c.val ≥ 'A'.val ∧ c.val ≤ 'Z'.val := of_decide_eq_true upper
    exact below 'Z'.val (by decide) last
  · obtain ⟨-, last⟩ := Bool.and_eq_true_iff.mp lower
    exact below 'z'.val (by decide) (of_decide_eq_true last)
  · obtain ⟨-, last⟩ := Bool.and_eq_true_iff.mp digit
    exact below '9'.val (by decide) (of_decide_eq_true last)

/-- What holds of all letters and digits can be seen by looking at each. -/
theorem alphanum_all (holds : Char → Prop)
    (each : ∀ code < 128, (Char.ofNat code).isAlphanum = true → holds (Char.ofNat code)) {c : Char}
    (alphanum : c.isAlphanum = true) : holds c := by
  have own := each c.toNat (alphanum_ascii alphanum)
  rw [Char.ofNat_toNat] at own
  exact own alphanum

theorem digit_alphanum {c : Char} (digit : c.isDigit = true) : c.isAlphanum = true :=
  alphanum_iff.mpr (.inr (.inr digit))

theorem digit_caseless {c : Char} (digit : c.isDigit = true) : c.isUpper = false ∧ c.isLower = false ∧ c.toLower = c :=
  alphanum_all (fun c => c.isDigit = true → c.isUpper = false ∧ c.isLower = false ∧ c.toLower = c) (by decide)
    (digit_alphanum digit) digit

theorem small_noDigit {c : Char} (small : c.isLower = true) : c.isDigit = false := by
  cases digit : c.isDigit with
  | false => rfl
  | true =>
    rw [(digit_caseless digit).2.1] at small
    contradiction

namespace Identifier

/-- For texts that are spelled out. -/
theorem spelled_all {holds : Char → Bool} {spelled : List Char} (each : spelled.all holds = true) :
    ∀ c ∈ (String.ofList spelled).toList, holds c = true := by
  rw [String.toList_ofList]
  exact List.all_eq_true.mp each

def isPlain (c : Char) : Bool := c.isLower || c.isDigit || c == '_'

theorem plain_cases {c : Char} (plain : isPlain c = true) :
    c = '_' ∨ c.isAlphanum = true ∧ (c.isLower = true ∨ c.isDigit = true) := by
  simp only [isPlain, Bool.or_eq_true, beq_iff_eq] at plain
  rcases plain with letter | rfl
  · exact .inr ⟨alphanum_iff.mpr (.inr letter), letter⟩
  · exact .inl rfl

theorem toLower_letter {c : Char} (alphanum : c.isAlphanum = true) :
    c.toLower.isLower = true ∨ c.toLower.isDigit = true :=
  alphanum_all (fun c => c.toLower.isLower = true ∨ c.toLower.isDigit = true) (by decide) alphanum

private theorem toLower_plain {c : Char} (alphanum : c.isAlphanum = true) : isPlain c.toLower = true :=
  alphanum_all (fun c => isPlain c.toLower = true) (by decide) alphanum

def attached (joined : Bool) (c : Char) : List (List Char) → List (List Char)
  | [] => [[c]]
  | word :: others => if joined then (c :: word) :: others else [c] :: word :: others

theorem words_letter {c : Char} (letter : c.isAlphanum = true) (rest : List Char) :
    words (c :: rest) = attached (continues c rest) c (words rest) := by
  rw [words]
  cases continues c rest <;> cases words rest <;> simp [letter, attached]

theorem runs_letter {c : Char} (letter : c.isAlphanum = true) (rest : List Char) :
    runs (c :: rest) = attached (rest.head?.any Char.isAlphanum) c (runs rest) := by
  rw [runs]
  cases rest.head?.any Char.isAlphanum <;> cases runs rest <;> simp [letter, attached]

def Spoken (words : List (List Char)) : Prop := ∀ word ∈ words, word ≠ [] ∧ ∀ c ∈ word, c.isAlphanum = true

private theorem attached_spoken {words : List (List Char)} (spoken : Spoken words) {c : Char}
    (letter : c.isAlphanum = true)
    (joined : Bool) : Spoken (attached joined c words) := by
  have alone : [c] ≠ [] ∧ ∀ d ∈ [c], d.isAlphanum = true := by simpa using letter
  cases words with
  | nil => exact List.forall_mem_singleton.mpr alone
  | cons word others =>
    rw [attached]
    split
    · obtain ⟨⟨_, letters⟩, behind⟩ := List.forall_mem_cons.mp spoken
      exact List.forall_mem_cons.mpr ⟨⟨List.cons_ne_nil _ _, List.forall_mem_cons.mpr ⟨letter, letters⟩⟩, behind⟩
    · exact List.forall_mem_cons.mpr ⟨alone, spoken⟩

theorem words_spoken (name : List Char) : Spoken (words name) := by
  induction name with
  | nil => simp [Spoken, words]
  | cons c rest ih =>
    by_cases letter : c.isAlphanum = true
    · rw [words_letter letter]
      exact attached_spoken ih letter _
    · simpa [words, letter] using ih

private theorem runs_spoken (name : List Char) : Spoken (runs name) := by
  induction name with
  | nil => simp [Spoken, runs]
  | cons c rest ih =>
    by_cases letter : c.isAlphanum = true
    · rw [runs_letter letter]
      exact attached_spoken ih letter _
    · simpa [runs, letter] using ih

private theorem continues_digits {c : Char} {rest digits : List Char} (nonempty : rest ≠ [])
    (each : ∀ c ∈ digits, c.isDigit = true) : continues c (rest ++ digits) = continues c rest := by
  obtain ⟨next, rest, rfl⟩ := List.exists_cons_of_ne_nil nonempty
  cases rest with
  | cons second rest => rfl
  | nil =>
    cases digits with
    | nil => rfl
    | cons digit digits =>
      have small : digit.isLower = false := (digit_caseless (each digit (by simp))).2.1
      simp [continues, startsWord, small]

private theorem continues_digit {c digit : Char} (rest : List Char) (isDigit : digit.isDigit = true) :
    continues c (digit :: rest) = true := by
  simp [continues, startsWord, (digit_caseless isDigit).1, digit_alphanum isDigit]

private theorem words_digit {digits : List Char} (nonempty : digits ≠ []) (each : ∀ c ∈ digits, c.isDigit = true) :
    words digits = [digits] := by
  induction digits with
  | nil => contradiction
  | cons digit digits ih =>
    obtain ⟨own, others⟩ := List.forall_mem_cons.mp each
    cases digits with
    | nil => simp [words, digit_alphanum own, continues]
    | cons second digits =>
      rw [words, ih (List.cons_ne_nil _ _) others, continues_digit _ (others second (by simp))]
      simp [digit_alphanum own]

/-- The last of some words, or nothing behind all of them. -/
def Ends (words front : List (List Char)) (last : List Char) : Prop := words = front ++ [last] ∨ words = front ∧ last = []

private theorem attached_ends {words front : List (List Char)} {last : List Char} (ends : Ends words front last)
    (joined : Bool) (c : Char) : ∃ front' last', Ends (attached joined c words) front' last' ∧
      ∀ digits, attached joined c (front ++ [last ++ digits]) = front' ++ [last' ++ digits] := by
  cases joined with
  | false =>
    have apart : ∀ behind, attached false c behind = [c] :: behind := fun behind => by cases behind <;> rfl
    refine ⟨[c] :: front, last, ?_, fun digits => apart _⟩
    rw [apart]
    exact ends.imp (congrArg _) (And.imp_left (congrArg _))
  | true =>
    cases front with
    | nil =>
      refine ⟨[], c :: last, .inl ?_, fun digits => rfl⟩
      rcases ends with rfl | ⟨rfl, rfl⟩ <;> rfl
    | cons first front =>
      refine ⟨(c :: first) :: front, last, ?_, fun digits => rfl⟩
      exact ends.imp (congrArg _) (And.imp_left (congrArg _))

/-- Digits behind a name lengthen its last word, or are a word where the name does not end with one. They do not change
whether a character before them goes on with the next. -/
theorem words_digits (name : List Char) : ∃ front last, Ends (words name) front last ∧
    ∀ digits, digits ≠ [] → (∀ c ∈ digits, c.isDigit = true) → words (name ++ digits) = front ++ [last ++ digits] := by
  induction name with
  | nil => exact ⟨[], [], .inr ⟨rfl, rfl⟩, fun digits nonempty each => words_digit nonempty each⟩
  | cons c rest ih =>
    obtain ⟨front, last, bare, numbered⟩ := ih
    by_cases letter : c.isAlphanum = true
    · cases rest with
      | nil =>
        refine ⟨[], [c], .inl (by simp [words, letter, continues]), ?_⟩
        intro digits nonempty each
        obtain ⟨digit, others, rfl⟩ := List.exists_cons_of_ne_nil nonempty
        rw [List.singleton_append, words_letter letter, words_digit nonempty each, continues_digit others (each digit (by simp))]
        rfl
      | cons next rest =>
        obtain ⟨front', last', bare', numbered'⟩ := attached_ends bare (continues c (next :: rest)) c
        refine ⟨front', last', words_letter letter _ ▸ bare', ?_⟩
        intro digits nonempty each
        rw [List.cons_append, words_letter letter, continues_digits (List.cons_ne_nil _ _) each, numbered digits nonempty each,
          numbered']
    · refine ⟨front, last, by simpa [words, letter] using bare, ?_⟩
      intro digits nonempty each
      simpa [words, letter] using numbered digits nonempty each

def spelled (words : List (List Char)) : List Char := ['_'].intercalate (words.map fun word => word.map Char.toLower)

theorem spelled_singleton (word : List Char) : spelled [word] = word.map Char.toLower :=
  List.intercalate_singleton

theorem spelled_cons {word : List Char} {words : List (List Char)} (nonempty : words ≠ []) :
    spelled (word :: words) = word.map Char.toLower ++ '_' :: spelled words := by
  rw [spelled, List.map_cons, List.intercalate_cons_of_ne_nil (by simpa using nonempty)]
  simp [spelled]

private theorem spelled_ended {front : List (List Char)} (nonempty : front ≠ []) :
    spelled (front ++ [[]]) = spelled front ++ ['_'] := by
  induction front with
  | nil => contradiction
  | cons word front ih =>
    cases front with
    | nil => rw [spelled_singleton, List.singleton_append, spelled_cons (List.cons_ne_nil _ _), spelled_singleton]; rfl
    | cons second front =>
      rw [List.cons_append, spelled_cons (by simp), ih (List.cons_ne_nil _ _), spelled_cons (List.cons_ne_nil _ _)]
      simp

private theorem spelled_lengthened (front : List (List Char)) (last : List Char) {digits : List Char}
    (each : ∀ c ∈ digits, c.isDigit = true) : spelled (front ++ [last ++ digits]) = spelled (front ++ [last]) ++ digits := by
  have kept : digits.map Char.toLower = digits := by
    refine (List.map_congr_left fun c member => (digit_caseless (each c member)).2.2).trans ?_
    exact List.map_id' digits
  induction front with
  | nil => simp [spelled_singleton, kept]
  | cons word front ih =>
    rw [List.cons_append, List.cons_append, spelled_cons (by simp), spelled_cons (by simp), ih]
    simp

private theorem spelled_spoken {words : List (List Char)} (nonempty : words ≠ []) (each : ∀ word ∈ words, word ≠ []) :
    spelled words ≠ [] := by
  obtain ⟨word, words, rfl⟩ := List.exists_cons_of_ne_nil nonempty
  cases words with
  | nil =>
    rw [spelled_singleton]
    simpa using each
  | cons second words =>
    rw [spelled_cons (List.cons_ne_nil _ _)]
    simp

private theorem spelled_plain {words : List (List Char)} (each : ∀ word ∈ words, ∀ c ∈ word, c.isAlphanum = true) :
    ∀ c ∈ spelled words, isPlain c = true := by
  induction words with
  | nil => simp [spelled]
  | cons word words ih =>
    obtain ⟨own, others⟩ := List.forall_mem_cons.mp each
    have small : ∀ c ∈ word.map Char.toLower, isPlain c = true := by
      intro c member
      obtain ⟨letter, inside, rfl⟩ := List.mem_map.mp member
      exact toLower_plain (own letter inside)
    cases words with
    | nil =>
      rw [spelled_singleton]
      exact small
    | cons second words =>
      rw [spelled_cons (List.cons_ne_nil _ _)]
      exact List.forall_mem_append.mpr ⟨small, List.forall_mem_cons.mpr ⟨rfl, ih others⟩⟩

/-- An underscore stands where an identifier would be empty or begin with a digit. -/
def guarded : List Char → List Char
  | [] => ['_']
  | c :: rest => if c.isDigit then '_' :: c :: rest else c :: rest

private theorem guarded_digits (text : List Char) {digits : List Char} (nonempty : digits ≠ [])
    (each : ∀ c ∈ digits, c.isDigit = true) : guarded (text ++ digits) = guarded text ++ digits := by
  cases text with
  | cons c text =>
    rw [List.cons_append, guarded, guarded]
    split <;> rfl
  | nil =>
    obtain ⟨digit, digits, rfl⟩ := List.exists_cons_of_ne_nil nonempty
    simp [guarded, each digit (by simp)]

private theorem guarded_ended {text : List Char} (nonempty : text ≠ []) (c : Char) :
    guarded (text ++ [c]) = guarded text ++ [c] := by
  obtain ⟨first, rest, rfl⟩ := List.exists_cons_of_ne_nil nonempty
  rw [List.cons_append, guarded, guarded]
  split <;> rfl

private theorem guarded_plain {text : List Char} (each : ∀ c ∈ text, isPlain c = true) :
    ∀ c ∈ guarded text, isPlain c = true := by
  cases text with
  | nil => simp [guarded, isPlain]
  | cons c rest =>
    rw [guarded]
    split
    · exact List.forall_mem_cons.mpr ⟨rfl, each⟩
    · exact each

theorem snake_spelled (name : List Char) :
    snake name = if spelled (words name) = [] then unnamedField else guarded (spelled (words name)) := by
  unfold snake
  change (match spelled (words name) with
    | [] => unnamedField
    | c :: rest => if c.isDigit then '_' :: c :: rest else c :: rest) = _
  cases spelled (words name) <;> rfl

theorem snake_guarded {name : List Char} (said : spelled (words name) ≠ []) : snake name = guarded (spelled (words name)) := by
  rw [snake_spelled, if_neg said]

theorem snakeCase_toList (name : String) : (snakeCase name).toList = snake name.toList := String.toList_ofList

theorem snake_plain (name : List Char) : ∀ c ∈ snake name, isPlain c = true := by
  rw [snake_spelled]
  split
  · exact List.all_eq_true.mp rfl
  · exact guarded_plain (spelled_plain fun word member => (words_spoken name word member).2)

theorem snake_nonempty (name : List Char) : snake name ≠ [] := by
  rw [snake_spelled]
  split
  · decide
  · cases spelled (words name) with
    | nil => exact List.cons_ne_nil _ _
    | cons c rest =>
      rw [guarded]
      split <;> exact List.cons_ne_nil _ _

theorem spelled_first (c : Char) (word : List Char) (words : List (List Char)) :
    spelled ((c :: word) :: words) = c.toLower :: spelled (word :: words) := by
  cases words with
  | nil => rw [spelled_singleton, spelled_singleton, List.map_cons]
  | cons second words =>
    rw [spelled_cons (List.cons_ne_nil second words), spelled_cons (List.cons_ne_nil second words), List.map_cons]
    rfl

private theorem spelled_last {words : List (List Char)} (nonempty : words ≠ []) (spoken : Spoken words) :
    ∃ last ∈ (spelled words).getLast?, last.isLower = true ∨ last.isDigit = true := by
  induction words with
  | nil => contradiction
  | cons word words ih =>
    obtain ⟨⟨letters, own⟩, others⟩ := List.forall_mem_cons.mp spoken
    cases words with
    | nil =>
      rw [spelled_singleton, List.getLast?_map, List.getLast?_eq_some_getLast letters]
      exact ⟨_, rfl, toLower_letter (own _ (List.getLast_mem letters))⟩
    | cons second words =>
      obtain ⟨last, ends, letter⟩ := ih (List.cons_ne_nil second words) others
      refine ⟨last, ?_, letter⟩
      rw [spelled_cons (List.cons_ne_nil second words), List.getLast?_append, List.getLast?_cons, Option.mem_def.mp ends]
      rfl

private theorem guarded_last {text : List Char} (nonempty : text ≠ []) : (guarded text).getLast? = text.getLast? := by
  obtain ⟨c, rest, rfl⟩ := List.exists_cons_of_ne_nil nonempty
  rw [guarded]
  split
  · exact List.getLast?_cons_cons
  · rfl

/-- An identifier begins with a small letter, or with an underscore before a digit. -/
theorem snake_first (name : List Char) : ∃ first rest, snake name = first :: rest ∧
    (first.isLower = true ∨ first = '_' ∧ ∃ digit ∈ rest.head?, digit.isDigit = true) := by
  have spoken := words_spoken name
  rw [snake_spelled]
  cases said : words name with
  | nil => exact ⟨'f', _, rfl, .inl rfl⟩
  | cons word others =>
    rw [said] at spoken
    obtain ⟨nonempty, letters⟩ := spoken word List.mem_cons_self
    obtain ⟨c, word, rfl⟩ := List.exists_cons_of_ne_nil nonempty
    rw [spelled_first, if_neg (List.cons_ne_nil _ _), guarded]
    split
    next digit => exact ⟨'_', _, rfl, .inr ⟨rfl, c.toLower, rfl, digit⟩⟩
    next noDigit =>
      exact ⟨c.toLower, _, rfl, .inl ((toLower_letter (letters c List.mem_cons_self)).resolve_right noDigit)⟩

/-- An identifier ends with a small letter or a digit. -/
theorem snake_last (name : List Char) : ∃ last ∈ (snake name).getLast?, last.isLower = true ∨ last.isDigit = true := by
  rw [snake_spelled]
  split
  · exact ⟨'d', rfl, .inl rfl⟩
  next said =>
    have spoken : words name ≠ [] := by
      intro none
      rw [none] at said
      exact said rfl
    rw [guarded_last said]
    exact spelled_last spoken (words_spoken name)

/-- Different numbers behind a name show in the identifier, and so does whether there is one. -/
theorem snake_digits (name : List Char) : ∃ stem, ∀ digits, digits ≠ [] → (∀ c ∈ digits, c.isDigit = true) →
    snake (name ++ digits) = stem ++ digits ∧ snake name ≠ stem ++ digits := by
  obtain ⟨front, last, bare, numbered⟩ := words_digits name
  refine ⟨guarded (spelled (front ++ [last])), fun digits nonempty each => ?_⟩
  have lengthened : spelled (words (name ++ digits)) = spelled (front ++ [last]) ++ digits := by
    rw [numbered digits nonempty each, spelled_lengthened front last each]
  refine ⟨?_, ?_⟩
  · rw [snake_guarded (by simp [lengthened, nonempty]), lengthened, guarded_digits _ nonempty each]
  · have spoken : ∀ word ∈ words name, word ≠ [] := fun word member => (words_spoken name word member).1
    rcases bare with own | ⟨own, rfl⟩
    · have said : spelled (words name) ≠ [] := spelled_spoken (by simp [own]) spoken
      rw [snake_guarded said, own]
      exact fun same => nonempty (List.self_eq_append_right.mp same)
    · cases front with
      | nil =>
        rw [snake_spelled, own]
        intro same
        cases same
      | cons word front =>
        have said : spelled (words name) ≠ [] := spelled_spoken (by simp [own]) spoken
        rw [own] at said
        rw [snake_guarded (own ▸ said), own, spelled_ended (List.cons_ne_nil word front), guarded_ended said]
        intro same
        have lengths := congrArg List.length same
        simp at lengths

private theorem toUpper_capital {c : Char} (letter : c.isAlphanum = true) :
    c.toUpper.isAlphanum = true ∧ (c.toUpper.isDigit = true ∨ c.toUpper.isUpper = true) :=
  alphanum_all (fun c => c.toUpper.isAlphanum = true ∧ (c.toUpper.isDigit = true ∨ c.toUpper.isUpper = true)) (by decide) letter

/-- A capital with letters and digits behind it. -/
def IsType (name : List Char) : Prop := (∃ first ∈ name.head?, first.isUpper = true) ∧ ∀ c ∈ name, c.isAlphanum = true

private theorem capitalize_alphanum {word : List Char} (letters : ∀ c ∈ word, c.isAlphanum = true) :
    ∀ c ∈ capitalize word, c.isAlphanum = true := by
  cases word with
  | nil => exact letters
  | cons c rest =>
    obtain ⟨own, others⟩ := List.forall_mem_cons.mp letters
    exact List.forall_mem_cons.mpr ⟨(toUpper_capital own).1, others⟩

theorem pascal_isType (name : List Char) : IsType (pascal name) := by
  have spoken := runs_spoken name
  have letters : ∀ c ∈ (runs name).flatMap capitalize, c.isAlphanum = true := by
    intro c member
    obtain ⟨word, inside, own⟩ := List.mem_flatMap.mp member
    exact capitalize_alphanum (spoken word inside).2 c own
  have capital : ∀ c ∈ ((runs name).flatMap capitalize).head?, c.isDigit = true ∨ c.isUpper = true := by
    cases words : runs name with
    | nil => simp
    | cons word others =>
      rw [words] at spoken
      obtain ⟨nonempty, own⟩ := spoken word (by simp)
      obtain ⟨first, rest, rfl⟩ := List.exists_cons_of_ne_nil nonempty
      rintro c ⟨⟩
      exact (toUpper_capital (own first (by simp))).2
  unfold pascal
  split
  · exact ⟨⟨'T', rfl, rfl⟩, List.all_eq_true.mp rfl⟩
  next c rest same =>
    rw [same] at letters capital
    split
    next digit =>
      refine ⟨⟨'T', rfl, rfl⟩, ?_⟩
      exact List.forall_mem_append.mpr ⟨List.all_eq_true.mp rfl, letters⟩
    next noDigit =>
      refine ⟨⟨c, rfl, ?_⟩, letters⟩
      exact (capital c rfl).resolve_left noDigit

theorem IsType.digits {name digits : List Char} (isType : IsType name) (each : ∀ c ∈ digits, c.isDigit = true) :
    IsType (name ++ digits) := by
  obtain ⟨⟨first, own, capital⟩, letters⟩ := isType
  refine ⟨⟨first, by simpa [List.head?_append] using .inl own, capital⟩, ?_⟩
  exact List.forall_mem_append.mpr ⟨letters, fun c member => digit_alphanum (each c member)⟩

end Identifier

end Relmap
