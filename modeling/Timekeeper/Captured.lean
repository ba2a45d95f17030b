/-!
# Captured output

What a process printed on its two channels, put together into one text without losing a line:
errors follow the output on a line of their own.
-/

namespace Timekeeper

namespace Captured

/-- The output followed by the errors, with a line feed between them where the output does not
end with one. A channel on which nothing was printed adds nothing. -/
def combine (output errors : List Char) : List Char :=
  if errors.isEmpty then output
  else if output.isEmpty ∨ output.getLast? = some '\n' then output ++ errors
  else output ++ '\n' :: errors

theorem combine_nil_right (output : List Char) : combine output [] = output := rfl

theorem combine_nil_left (errors : List Char) : combine [] errors = errors := by
  cases errors <;> simp [combine]

end Captured

end Timekeeper
