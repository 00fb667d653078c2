import Mathlib.Data.List.Basic

namespace Text

/-- Each member of an enumeration has its own text. -/
class Enumeration (Member : Type) where
  value : Member → String
  all : List Member
  complete : ∀ member, member ∈ all := by
    intro member
    cases member <;> decide
  distinct : ∀ first second, value first = value second → first = second := by
    intro first second
    cases first <;> cases second <;> decide

namespace Enumeration
variable {Member : Type} [Enumeration Member]

/-- The constructor of the enumeration finds the member with the given text. -/
def parse (Member : Type) [Enumeration Member] (text : String) : Option Member :=
  all.find? fun member => value member == text

theorem parse_eq_some {text : String} {member : Member} :
    parse Member text = some member ↔ value member = text := by
  constructor
  · intro found
    simpa using List.find?_some found
  · intro same
    cases found : parse Member text with
    | none =>
      have absent := List.find?_eq_none.mp found member (complete member)
      simp [same] at absent
    | some other =>
      have otherSame : value other = text := by simpa using List.find?_some found
      rw [distinct other member (otherSame.trans same.symm)]

@[simp] theorem parse_value (member : Member) : parse Member (value member) = some member :=
  parse_eq_some.mpr rfl

end Enumeration
end Text
