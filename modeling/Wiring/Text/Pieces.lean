/-!
# Text — Pieces

Cutting a text at every character of a class. The pieces hold everything but the breaks, so a text
with n breaks has n + 1 pieces.
-/

namespace Wiring.Text

def pieces (isBreak : Char → Bool) : List Char → List (List Char)
  | [] => [[]]
  | c :: cs =>
    if isBreak c then [] :: pieces isBreak cs
    else match pieces isBreak cs with
      | [] => [[c]]
      | piece :: more => (c :: piece) :: more

end Wiring.Text
