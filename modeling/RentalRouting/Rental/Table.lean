/-
RentalRouting/Rental/Table.lean

Tables: lists of values kept in the code point order of a text key, at most one value per
key.  Putting a value replaces the one of its key and answers it; taking a key removes its
value and answers it.
-/
namespace RentalRouting

namespace Table

variable {α : Type}

/-- Put a value by its key, answering the value it replaced. -/
def put (key : α → String) (a : α) : List α → List α × Option α
  | [] => ([a], none)
  | b :: rest =>
    if key a < key b then (a :: b :: rest, none)
    else if key a = key b then (a :: rest, some b)
    else
      let (r, old) := put key a rest
      (b :: r, old)

/-- Take the value of a key out, answering it. -/
def take (key : α → String) (k : String) : List α → List α × Option α
  | [] => ([], none)
  | b :: rest =>
    if key b = k then (rest, some b)
    else
      let (r, old) := take key k rest
      (b :: r, old)

/-- The value of a key. -/
def find? (key : α → String) (k : String) (xs : List α) : Option α := xs.find? (key · = k)

theorem find?_put_self (key : α → String) (a : α) (xs : List α) :
    find? key (key a) (put key a xs).1 = some a := by
  induction xs with
  | nil => simp [put, find?]
  | cons b rest ih =>
    unfold put
    by_cases h1 : key a < key b
    · simp [h1, find?]
    · by_cases h2 : key a = key b
      · simp [h2, find?]
      · simp only [h1, h2, if_false]
        simp only [find?, List.find?_cons] at ih ⊢
        have : (key b = key a) = False := by simp; exact fun h => h2 h.symm
        simp [this, ih]

end Table

end RentalRouting
