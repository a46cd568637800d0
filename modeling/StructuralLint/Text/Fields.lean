/-!
# Splitting at separators

`fields` cuts a text at every separator and keeps empty pieces, so that joining the pieces with
the separators gives the text back.
-/

namespace StructuralLint.Text

/-- The pieces of a text between its separators: always one more piece than separators. -/
def fields (separates : Char → Bool) (text : List Char) : List (List Char) :=
  text.foldr
    (fun c pieces =>
      if separates c then [] :: pieces
      else match pieces with
        | [] => [[c]]
        | piece :: rest => (c :: piece) :: rest)
    [[]]

@[simp] theorem fields_nil (separates : Char → Bool) : fields separates [] = [[]] := rfl

/-- A separator opens an empty piece. -/
theorem fields_cons_of_separates {separates : Char → Bool} {c : Char} (text : List Char)
    (separator : separates c = true) :
    fields separates (c :: text) = [] :: fields separates text := by
  simp [fields, separator]

/-- There is at least one piece. -/
theorem fields_ne_nil (separates : Char → Bool) (text : List Char) :
    fields separates text ≠ [] := by
  cases text with
  | nil => simp
  | cons c text =>
    simp only [fields, List.foldr_cons]
    split
    · simp
    · split <;> simp

end StructuralLint.Text
