/-! Cutting a list into parts from the left, such as a text into tokens. Whatever a part is, it
takes at least the element that it begins with, so the cutting ends. -/

namespace Relmap

/-- Reads one part, given its first element and all elements behind it, and tells how many of these
belong to it. -/
abbrev PartReader (α β : Type) := α → List α → Option (β × Nat)

/-- The parts of a list up to one that cannot be read, and the elements from there on. -/
def scan {α β : Type} (read : PartReader α β) : List α → List β × List α
  | [] => ([], [])
  | first :: behind =>
    match read first behind with
    | none => ([], first :: behind)
    | some (part, length) =>
      let (parts, rest) := scan read (behind.drop length)
      (part :: parts, rest)
termination_by elements => elements.length
decreasing_by
  simp only [List.length_drop, List.length_cons]
  omega

/-- The parts of a list that can be read to its end. -/
def scanAll {α β : Type} (read : PartReader α β) (elements : List α) : Option (List β) :=
  match scan read elements with
  | (parts, []) => some parts
  | _ => none

theorem scanAll_nil {α β : Type} (read : PartReader α β) : scanAll read [] = some [] := by
  simp [scanAll, scan]

theorem scanAll_cons {α β : Type} (read : PartReader α β) (first : α) (behind : List α) :
    scanAll read (first :: behind) = (read first behind).bind fun (part, length) =>
      (scanAll read (behind.drop length)).map (part :: ·) := by
  simp only [scanAll]
  rw [scan]
  cases read first behind with
  | none => rfl
  | some found =>
    obtain ⟨part, length⟩ := found
    dsimp only [Option.bind_some]
    generalize scan read (behind.drop length) = scanned
    obtain ⟨parts, _ | _⟩ := scanned <;> rfl

def runLength {α : Type} (belongs : α → Bool) (elements : List α) : Nat :=
  (elements.takeWhile belongs).length

end Relmap
