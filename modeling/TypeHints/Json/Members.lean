import TypeHints.Dict
import TypeHints.Number.Decimal

/-!
# Members of an object in their order

The members of an object are listed with the array indexes among their names first, in ascending
order, and the other names after them in the order in which they first came. A name that comes again
keeps its place and takes the later value.
-/

namespace TypeHints.Members

/-- The number that a name spells if it is an array index: canonical decimal, below 2³² - 1. -/
def index? (name : String) : Option Nat :=
  let cs := name.toList
  if cs.isEmpty || cs.any (fun c => (digitValue? 10 c).isNone) then none
  else
    let n := ofDigits 10 cs
    if decimalChars n = cs ∧ n < 4294967295 then some n else none

/-- Put an indexed member in front of the first one with a larger index. -/
def insertIndexed {α : Type} (i : Nat) (m : String × α) :
    List (Nat × String × α) → List (Nat × String × α)
  | [] => [(i, m)]
  | (j, m') :: rest =>
    if i < j then (i, m) :: (j, m') :: rest else (j, m') :: insertIndexed i m rest

/-- The indexed members in ascending order. -/
def indexed {α : Type} (ms : List (String × α)) : List (Nat × String × α) :=
  ms.foldr (fun m acc => match index? m.1 with
    | some i => insertIndexed i m acc
    | none => acc) []

/-- The members of an object in their order, given in the order in which they came. -/
def ordered {α : Type} (pairs : List (String × α)) : List (String × α) :=
  let ms := (Dict.ofList pairs).entries
  (indexed ms).map Prod.snd ++ ms.filter fun m => (index? m.1).isNone

/-- The name that sets the ancestor of an object when it is assigned to, and so adds no member. -/
def ancestorName : String := "__proto__"

/-- The members that result from assigning pairs to the names of a fresh object one by one. -/
def assigned {α : Type} (pairs : List (String × α)) : List (String × α) :=
  ordered (pairs.filter fun m => m.1 ≠ ancestorName)

theorem mem_insertIndexed {α : Type} {i : Nat} {m : String × α} {ms : List (Nat × String × α)}
    {e : Nat × String × α} (h : e ∈ insertIndexed i m ms) : e = (i, m) ∨ e ∈ ms := by
  induction ms with
  | nil => exact .inl (List.mem_singleton.mp h)
  | cons e' ms ih =>
    obtain ⟨j, m'⟩ := e'
    simp only [insertIndexed] at h
    split at h
    · exact List.mem_cons.mp h
    · rcases List.mem_cons.mp h with rfl | h
      · exact .inr List.mem_cons_self
      · exact (ih h).imp_right (List.mem_cons_of_mem _)

theorem mem_indexed {α : Type} {ms : List (String × α)} {e : Nat × String × α} (h : e ∈ indexed ms) :
    e.2 ∈ ms := by
  induction ms with
  | nil => cases h
  | cons m ms ih =>
    simp only [indexed, List.foldr_cons] at h
    split at h
    · rcases mem_insertIndexed h with rfl | h
      · exact List.mem_cons_self
      · exact List.mem_cons_of_mem _ (ih h)
    · exact List.mem_cons_of_mem _ (ih h)

/-- Assigning members one by one makes no new ones. -/
theorem mem_assigned {α : Type} {ms : List (String × α)} {m : String × α} (h : m ∈ assigned ms) :
    m ∈ ms := by
  have hordered : m ∈ (Dict.ofList (ms.filter fun m => m.1 ≠ ancestorName)).entries := by
    rcases List.mem_append.mp h with h | h
    · obtain ⟨e, he, rfl⟩ := List.mem_map.mp h
      exact mem_indexed he
    · exact (List.mem_filter.mp h).1
  exact (List.mem_filter.mp (Dict.mem_ofList hordered)).1

end TypeHints.Members
