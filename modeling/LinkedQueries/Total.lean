/-!
# Totals

The total of some counts. Totals of lists that are joined add up (`total_append`).
-/

namespace LinkedQueries

/-- The total of some counts. -/
def total : List Nat → Nat
  | [] => 0
  | n :: rest => n + total rest

theorem total_append (xs ys : List Nat) : total (xs ++ ys) = total xs + total ys := by
  induction xs with
  | nil => rw [List.nil_append, total, Nat.zero_add]
  | cons n rest ih => rw [List.cons_append, total, total, ih, Nat.add_assoc]

end LinkedQueries
