/-!
# Finding one text inside another

`occursIn needle text` says that `needle` stands somewhere in `text` without a
gap.  The tests for the front and the end of a text are those of the list library.

**Results.**
* `occursIn_iff_isInfix`: the test decides the infix relation of lists.
-/

namespace Audience
namespace Text

/-- The needle stands somewhere in the text. -/
def occursIn (needle : List Char) : List Char → Bool
  | [] => needle.isEmpty
  | c :: rest => needle.isPrefixOf (c :: rest) || occursIn needle rest

theorem occursIn_iff_isInfix (needle text : List Char) :
    occursIn needle text = true ↔ needle <:+: text := by
  induction text with
  | nil => simp [occursIn, List.isEmpty_iff]
  | cons c rest ih =>
      simp [occursIn, ih, List.infix_cons_iff, List.isPrefixOf_iff_prefix]

end Text
end Audience
