import LambdaText.Proofs.Source.FreeNames
import LambdaText.Proofs.Source.WrittenOut

/-!
# Where parameters stand

The parameters of a plain text stand in its body as words do: with the end of the body or a
character of no word on either side. The word of one underscore and the free names are words of the
text itself, since nothing that is blanked out splits a word or joins two; a made-up name stands
next to an operator, or to the blanks around the text.
-/

namespace LambdaText.Source

open LambdaText.Text

/-! ### Words of the text -/

end LambdaText.Source
