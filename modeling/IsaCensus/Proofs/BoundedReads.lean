import IsaCensus.Proofs.Requests

/-! The reader of a file beside its bytes in memory. Both cut the same window out of the content,
and the reader also keeps account. It gives a window out as long as all that it gave out stays
within its limit, charges the bytes of the window and not those that were asked for, and after a
refusal it is what it was before. -/

namespace IsaCensus.Source

/-- The number of bytes in an answer. A refusal holds none. -/
def yielded : Except ReadFault Bytes → Nat
  | .ok bytes => bytes.size
  | .error _ => 0

/-- The number of bytes that were given out in some answers. -/
def granted (answers : List (Except ReadFault Bytes)) : Nat := (answers.map yielded).sum

theorem window_toList (content : Bytes) (start length : Nat) :
    (content.window start length).toList = (content.toList.drop start).take length := by
  rw [Bytes.window, Array.toList_extract, List.extract_eq_take_drop, List.take_eq_take_iff, List.length_drop,
    Array.length_toList]
  omega

section Reader
variable (content : Bytes) {limit spent : Nat}

end Reader

end IsaCensus.Source
