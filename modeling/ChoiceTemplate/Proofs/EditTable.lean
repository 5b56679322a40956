import ChoiceTemplate.Proofs.Edits

/-
  The table of distances.

  The table is filled row by row, and an entry is found from the entries beside it, from the row above
  and, for a swap, from a row farther above. The rows are kept nearest first, and so is what was read of
  the texts. This file says what is in the table: `row` has the costs of a text and of each beginning of
  the other one, and `table` the rows for all beginnings of the first. Each step of the loops adds what
  the recursion asks for (`entry_eq`, `rowFrom_eq`, `rowsFrom_eq`), so the last entry is the least
  number of edits (`isLeast_distance`). Hence it is a distance: `distance_comm`, `distance_triangle`.
-/
namespace ChoiceTemplate.EditDistance

/-- The costs of a text and of the beginnings of another one, of which `read`, in reverse, has been
read. -/
def row (a read : Text) : Text → List Nat
  | [] => [cost a read]
  | d :: b => cost a read :: row a (d :: read) b

/-- The rows for all beginnings of a text that is given in reverse, the longest one first. -/
def table (b : Text) : (reversed : Text) → List (List Nat)
  | [] => [row [] [] b]
  | c :: a => row (c :: a) [] b :: table b a

section
variable {a b read : Text} {c d : Char} {i k : Nat}

/-! ## What is in the table -/

theorem row_eq_cons (a read b : Text) : row a read b = cost a read :: (row a read b).tail := by
  cases b <;> rfl

theorem getElem?_row (h : i ≤ b.length) :
    (row a read b)[i]? = some (cost a ((b.take i).reverse ++ read)) := by
  induction b generalizing read i with
  | nil =>
    obtain rfl := Nat.le_zero.mp h
    rfl
  | cons d b ih =>
    cases i with
    | zero => rfl
    | succ i =>
      rw [row, List.getElem?_cons_succ, ih (Nat.le_of_succ_le_succ h)]
      simp

theorem getLast?_row (a read b : Text) : (row a read b).getLast? = some (cost a (b.reverse ++ read)) := by
  induction b generalizing read with
  | nil => rfl
  | cons d b ih =>
    rw [row, row_eq_cons, List.getLast?_cons_cons, ← row_eq_cons, ih]
    simp

theorem getElem?_table (h : k ≤ a.length) : (table b a)[k]? = some (row (a.drop k) [] b) := by
  induction a generalizing k with
  | nil =>
    obtain rfl := Nat.le_zero.mp h
    rfl
  | cons c a ih =>
    cases k with
    | zero => rfl
    | succ k => rw [table, List.getElem?_cons_succ, ih (Nat.le_of_succ_le_succ h), List.drop_succ_cons]

theorem head?_table (b a : Text) : (table b a).head? = some (row a [] b) := by
  cases a <;> rfl

/-- The entry for what was read before the last `k` characters. -/
theorem getElem?_row_read (a b : Text) (h : k ≤ read.length) :
    (row a [] (read.reverse ++ b))[read.length - k]? = some (cost a (read.drop k)) := by
  have hread : read.length - k ≤ read.reverse.length := by
    rw [List.length_reverse]
    exact Nat.sub_le _ _
  have htext : read.length - k ≤ (read.reverse ++ b).length := by
    rw [List.length_append]
    omega
  rw [getElem?_row htext, List.append_nil, List.take_append_of_le_length hread, List.reverse_take,
    List.reverse_reverse, List.length_reverse, Nat.sub_sub_self h]

/-! ## How it is filled -/

theorem length_of_sinceLast? {t : Text} (h : sinceLast? c t = some i) : i + 1 ≤ t.length := by
  obtain ⟨u, ht, rfl⟩ := of_sinceLast? h
  rw [ht, List.length_append, List.length_cons]
  omega

/-- The cost of a swap is found in the rows above. -/
theorem swapCost?_table (a read b : Text) (c d : Char) :
    swapCost? (table (read.reverse ++ b) a) c d a read =
      (sinceLast? d a).bind fun i => (sinceLast? c read).map fun j =>
        cost (a.drop (i + 1)) (read.drop (j + 1)) + i + 1 + j := by
  rw [swapCost?]
  cases hi : sinceLast? d a with
  | none => rfl
  | some i =>
    cases hj : sinceLast? c read with
    | none => rfl
    | some j =>
      have hrow := getElem?_table (b := read.reverse ++ b) (length_of_sinceLast? hi)
      have hstart := getElem?_row_read (a.drop (i + 1)) b (length_of_sinceLast? hj)
      simp [hrow, hstart]

theorem entry_eq (a read b : Text) (c d : Char) :
    let plain := plainCost c d (cost a read) (cost (c :: a) read) (cost a (d :: read))
    ((swapCost? (table (read.reverse ++ b) a) c d a read).map (min plain)).getD plain =
      cost (c :: a) (d :: read) := by
  intro plain
  rw [swapCost?_table, cost]
  cases sinceLast? d a with
  | none => rfl
  | some i => cases sinceLast? c read <;> rfl

theorem rowFrom_eq (a read b : Text) (c : Char) :
    rowFrom (table (read.reverse ++ b) a) c a (cost (c :: a) read) read (row a read b) b =
      (row (c :: a) read b).tail := by
  induction b generalizing read with
  | nil => rfl
  | cons d b ih =>
    have htext : (d :: read).reverse ++ b = read.reverse ++ d :: b := by simp
    have hentry := entry_eq a read (d :: b) c d
    have hrest := ih (d :: read)
    rw [htext, row_eq_cons a] at hrest
    simp only [plainCost] at hentry
    rw [row, row_eq_cons a, rowFrom, hentry, hrest, row, List.tail_cons, ← row_eq_cons]

theorem rowsFrom_eq (b aRead a : Text) :
    rowsFrom b aRead (table b aRead) a = table b (a.reverse ++ aRead) := by
  induction a generalizing aRead with
  | nil => rfl
  | cons c a ih =>
    have hrow : (aRead.length + 1) :: rowFrom (table b aRead) c aRead (aRead.length + 1) []
        (row aRead [] b) b = row (c :: aRead) [] b := by
      have hrest := rowFrom_eq aRead [] b c
      rw [cost_nil, List.length_cons] at hrest
      rw [row_eq_cons (c :: aRead), ← hrest, cost_nil, List.length_cons]
      rfl
    have htable := ih (c :: aRead)
    rw [table, ← hrow] at htable
    rw [rowsFrom, List.headD_eq_head?_getD, head?_table, Option.getD_some, htable]
    simp

theorem range_eq_row (b read : Text) : List.range' read.length (b.length + 1) = row [] read b := by
  induction b generalizing read with
  | nil => rw [row, cost]; rfl
  | cons d b ih => rw [List.length_cons, List.range'_succ, row, cost, ← ih, List.length_cons]

theorem distance_eq_cost (a b : Text) : distance a b = cost a.reverse b.reverse := by
  have hfirst : [List.range (b.length + 1)] = table b [] := by
    rw [List.range_eq_range', table, ← range_eq_row]
    rfl
  simp only [distance]
  rw [hfirst, rowsFrom_eq, List.headD_eq_head?_getD, head?_table, Option.getD_some,
    List.getLastD_eq_getLast?, getLast?_row, Option.getD_some, List.append_nil, List.append_nil]

/-- **The distance of two texts is the least number of edits from one to the other.** -/
theorem isLeast_distance (a b : Text) : IsLeast {n | Edits n a b} (distance a b) := by
  have hedits : ∀ n, Edits n a.reverse b.reverse ↔ Edits n a b := by
    intro n
    constructor
    · intro h
      simpa using h.reverse
    · exact Edits.reverse
  have hleast := isLeast_cost a.reverse b.reverse
  simp only [hedits] at hleast
  rwa [distance_eq_cost]

-- Two letters are swapped, and then another one is put between them.
example : distance "ca".toList "abc".toList = 2 := by decide

/-! ## Distances -/

theorem edits_distance (a b : Text) : Edits (distance a b) a b := (isLeast_distance a b).1

theorem distance_le {n : Nat} (h : Edits n a b) : distance a b ≤ n := (isLeast_distance a b).2 h

theorem distance_comm (a b : Text) : distance a b = distance b a :=
  Nat.le_antisymm (distance_le (edits_distance b a).symm) (distance_le (edits_distance a b).symm)

theorem distance_triangle (a b c : Text) : distance a c ≤ distance a b + distance b c :=
  distance_le ((edits_distance a b).trans (edits_distance b c))

theorem distance_eq_zero : distance a b = 0 ↔ a = b := by
  constructor
  · intro h
    exact eq_of_edits_zero (h ▸ edits_distance a b)
  · rintro rfl
    exact Nat.le_zero.mp (distance_le (.none a))

/-- Texts with distance one are one edit apart. -/
theorem distance_eq_one : distance a b = 1 ↔ Edit a b ∧ a ≠ b := by
  rw [ne_eq, ← distance_eq_zero]
  constructor
  · intro h
    exact ⟨edit_of_edits_one (h ▸ edits_distance a b), by omega⟩
  · rintro ⟨hedit, hne⟩
    have hle := distance_le hedit.once
    omega

end

end ChoiceTemplate.EditDistance
