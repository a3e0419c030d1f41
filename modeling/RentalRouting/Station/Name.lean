/-
RentalRouting/Station/Name.lean

Station names with translations.  A translation is chosen for a locale by comparing
normalized tags (trimmed, `_` read as `-`, lower-cased): the first tag, in the order of
normalized tags, equal to the wanted one wins; failing that the first whose language (the
part before the first `-`) is the wanted language; failing that the default name.  Without
a locale the default name is the answer.
-/
import RentalRouting.Text.Blank
import RentalRouting.Text.Case

namespace RentalRouting

/-- A name with translations by language tag, kept in tag order. -/
structure LocalName where
  default : String
  translations : List (String × String) := []
  deriving DecidableEq, Repr, Inhabited

namespace LocalName

/-- A language tag for comparing: trimmed, `_` read as `-`, lower-cased. -/
def normalizeTag (tag : String) : String :=
  Text.lowerFull (String.ofList ((Text.trim tag).toList.map fun c => if c = '_' then '-' else c))

/-- The language of a normalized tag: the part before the first `-`. -/
def languageOf (tag : String) : String := String.ofList (tag.toList.takeWhile (· ≠ '-'))

/-- The translations with normalized tags, in the order of those tags. -/
def candidates (n : LocalName) : List (String × String) :=
  (n.translations.map fun (t, v) => (normalizeTag t, v)).mergeSort fun a b => !(b.1 < a.1)

/-- The name for a locale. -/
def resolve (n : LocalName) : Option String → String
  | none => n.default
  | some locale =>
    let wanted := normalizeTag locale
    let cs := n.candidates
    match cs.find? (·.1 = wanted) with
    | some (_, v) => v
    | none =>
      match cs.find? (fun c => languageOf c.1 = languageOf wanted) with
      | some (_, v) => v
      | none => n.default

/-- Put a translation in tag order, replacing one of an equal tag. -/
def insertTranslation (tag name : String) : List (String × String) → List (String × String)
  | [] => [(tag, name)]
  | (t, v) :: rest =>
    if tag < t then (tag, name) :: (t, v) :: rest
    else if tag = t then (tag, name) :: rest
    else (t, v) :: insertTranslation tag name rest

theorem resolve_none (n : LocalName) : n.resolve none = n.default := rfl

end LocalName

end RentalRouting
