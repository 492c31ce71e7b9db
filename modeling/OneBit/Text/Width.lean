import OneBit.Text.Context

/-!
# Display width

The number of terminal cells a line of text takes.
-/

namespace OneBit.Text

/-- The cells that a line takes. It is measured from its end. -/
def width (line : String) : Nat :=
  (line.toList.foldr
    (fun c (cells, context) =>
      let (more, context) := Context.before context c
      (cells + more, context))
    ((0 : Int), ({} : Context))).1.toNat

end OneBit.Text
