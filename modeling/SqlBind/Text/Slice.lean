/-!
# Slices by Signed Offsets

A slice names a stretch of a list by two offsets. An offset that is negative counts from the end,
and both are brought into range, so every pair of offsets names some stretch; where the second is
not beyond the first the stretch is empty. Offsets taken from outside (a position somebody wrote
down, a limit somebody set) can therefore be used as they are.

## Main definitions

* `clampOffset`: where a signed offset falls in a list of a given length.
* `slice` and `sliceFrom`: the stretch between two offsets, and from one offset to the end.

## Main results

* `slice_of_le`, `sliceFrom_of_le`: for offsets in range, the plain stretch.
* `slice_middle`, `sliceFrom_append`, `sliceTo_append`: the parts of a list are cut out at the
  offsets where they meet.
-/

namespace SqlBind.Text

variable {α : Type}

/-- Where the offset `i` falls in a list of length `n`. -/
def clampOffset (n : Nat) (i : Int) : Nat :=
  if i < 0 then (n + i).toNat else min i.toNat n

/-- The stretch from `start` up to, not including, `stop`. -/
def slice (xs : List α) (start stop : Int) : List α :=
  let first := clampOffset xs.length start
  (xs.drop first).take (clampOffset xs.length stop - first)

/-- The stretch from `start` to the end. -/
def sliceFrom (xs : List α) (start : Int) : List α :=
  xs.drop (clampOffset xs.length start)

/-- The stretch from the beginning up to, not including, `stop`. -/
def sliceTo (xs : List α) (stop : Int) : List α :=
  xs.take (clampOffset xs.length stop)

theorem clampOffset_of_le {n i : Nat} (h : i ≤ n) : clampOffset n i = i := by
  simp only [clampOffset]
  split <;> omega

theorem slice_of_le {xs : List α} {i j : Nat} (hi : i ≤ xs.length) (hj : j ≤ xs.length) :
    slice xs i j = (xs.drop i).take (j - i) := by
  simp [slice, clampOffset_of_le hi, clampOffset_of_le hj]

theorem sliceFrom_of_le {xs : List α} {i : Nat} (h : i ≤ xs.length) :
    sliceFrom xs i = xs.drop i := by
  simp [sliceFrom, clampOffset_of_le h]

/-- The stretch between two parts is what is cut out from the end of the one to the
beginning of the other. -/
theorem slice_middle (front gap rest : List α) :
    slice (front ++ gap ++ rest) front.length (front ++ gap).length = gap := by
  have hstop : (front ++ gap).length ≤ (front ++ gap ++ rest).length := by
    rw [@List.length_append _ (front ++ gap)]
    omega
  have hstart : front.length ≤ (front ++ gap ++ rest).length := by
    rw [List.length_append] at hstop
    omega
  rw [slice_of_le hstart hstop, List.append_assoc, List.drop_left, List.length_append,
    Nat.add_sub_cancel_left, List.take_left]

/-- The last stretch is what is left behind the part in front of it. -/
theorem sliceFrom_append (front rest : List α) :
    sliceFrom (front ++ rest) front.length = rest := by
  have hle : front.length ≤ (front ++ rest).length := by
    rw [List.length_append]
    omega
  rw [sliceFrom_of_le hle, List.drop_left]

/-- The first stretch is what stands in front of the part behind it. -/
theorem sliceTo_append (front rest : List α) : sliceTo (front ++ rest) front.length = front := by
  have hle : front.length ≤ (front ++ rest).length := by
    rw [List.length_append]
    omega
  rw [sliceTo, clampOffset_of_le hle, List.take_left]

end SqlBind.Text
