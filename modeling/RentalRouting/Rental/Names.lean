/-
RentalRouting/Rental/Names.lean

Sets of names, kept as lists in code point order without repeats, and the rental network
sets built on them.  A network set that is absent (`none`) stands for every network: it is
compatible with any other, while two present sets are compatible when they share a name,
so an empty set is compatible with none but the absent one.
-/
namespace RentalRouting

/-- Put a name into a list in code point order, unless it is there. -/
def insertName (name : String) : List String → List String
  | [] => [name]
  | n :: rest =>
    if name < n then name :: n :: rest
    else if name = n then n :: rest
    else n :: insertName name rest

/-- The names of a list in code point order, each once. -/
def nameSet (names : List String) : List String := names.foldl (fun acc n => insertName n acc) []

/-- The rental networks of a station, a vehicle or a request: `none` for every network. -/
abbrev Networks := Option (List String)

/-- Two network sets are compatible when either stands for every network or they share a
name. -/
def networksCompatible : Networks → Networks → Bool
  | some a, some b => a.any (b.contains ·)
  | _, _ => true

theorem mem_insertName (name n : String) (names : List String) :
    n ∈ insertName name names ↔ n = name ∨ n ∈ names := by
  induction names with
  | nil => simp [insertName]
  | cons head rest ih =>
    unfold insertName
    by_cases h1 : name < head
    · simp [h1]
    · by_cases h2 : name = head
      · subst h2; simp
      · simp only [h1, h2, if_false, List.mem_cons, ih]
        constructor
        · rintro (h | h | h) <;> simp [h]
        · rintro (h | h | h) <;> simp [h]

theorem networksCompatible_none_left (b : Networks) : networksCompatible none b = true := by
  cases b <;> rfl

theorem networksCompatible_none_right (a : Networks) : networksCompatible a none = true := by
  cases a <;> rfl

end RentalRouting
