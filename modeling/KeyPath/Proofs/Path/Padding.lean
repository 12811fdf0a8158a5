import KeyPath.Path.Format
import Mathlib.Algebra.Ring.Nat

/-!
# Padding of written paths

A layout pads the index of each segment and nothing else.  An index keeps its sign and its digits,
and what is missing of the width is made up by zeros between the two or by fill characters on the
sides that the alignment names.  The letter of the path, the slashes and the marks of hardened
segments stand outside of the padding, so the length of the whole text is a sum over the segments.
-/

namespace KeyPath

namespace Layout

variable {layout : Layout} {n length missing front back : Nat} {text : List Char}

end Layout

namespace Segment

variable {layout : Layout} {s : Segment} {text : List Char}

end Segment

namespace Path

variable {layout : Layout} {segments : List Segment} {text : List Char}

example : Path.render ⟨{ fill := 'é', align := some .centre, width := 5 }, false⟩
    ⟨.priv, [⟨0x8000002C⟩, ⟨7⟩]⟩ = "m/é44ééH/éé7éé" := by decide +kernel

end Path

end KeyPath
