import Shapewright.Text.Basic

/-!
# Templates

A template is a text with placeholders, each an opening brace right before a closing one.  Filling
it puts one element in the place of every placeholder; what the element holds is left alone.
-/

namespace Shapewright.Template

/-- Whether a text holds a placeholder. -/
def hasPlaceholder : Text → Bool
  | .char '\x7b' :: .char '\x7d' :: _ => true
  | _ :: rest => hasPlaceholder rest
  | [] => false

/-- The template with an element in the place of every placeholder, found from left to right. -/
def fill (element : Text) : Text → Text
  | .char '\x7b' :: .char '\x7d' :: rest => element ++ fill element rest
  | c :: rest => c :: fill element rest
  | [] => []

end Shapewright.Template
