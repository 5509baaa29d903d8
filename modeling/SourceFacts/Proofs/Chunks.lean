import SourceFacts.Pool

/-! Chunks are consecutive runs of a batch. Put together they are the batch again, and what
belongs to one chunk is found again by the sizes of the chunks before it, as long as every
chunk brings as many items as it has. -/
namespace SourceFacts

/-! ## Shares -/

section

variable (total count : Nat)

theorem shareOf_first_le : shareOf total (count + 1) 0 ≤ total := by
  have parts := Nat.div_add_mod total (count + 1)
  have quotient : total / (count + 1) ≤ (count + 1) * (total / (count + 1)) :=
    Nat.le_mul_of_pos_left _ (Nat.succ_pos count)
  rw [shareOf]
  split <;> omega

/-- With the first share gone, the other places get of the rest what they would have got. -/
theorem shareOf_rest (place : Nat) (positive : 0 < count) :
    shareOf (total - shareOf total (count + 1) 0) count place =
      shareOf total (count + 1) (place + 1) := by
  have parts := Nat.div_add_mod total (count + 1)
  have small := Nat.mod_lt total (show 0 < count + 1 by omega)
  have rest : total - shareOf total (count + 1) 0 =
      (total % (count + 1) - 1) + count * (total / (count + 1)) := by
    rw [Nat.succ_mul] at parts
    rw [shareOf]
    split <;> omega
  have less : total % (count + 1) - 1 < count := by omega
  rw [rest, shareOf, shareOf, Nat.add_mul_div_left _ _ positive, Nat.add_mul_mod_self_left,
    Nat.div_eq_of_lt less, Nat.mod_eq_of_lt less, Nat.zero_add]
  congr 1
  split <;> split <;> omega

theorem shares_rest :
    (List.range count).map (shareOf (total - shareOf total (count + 1) 0) count) =
      (List.range count).map (shareOf total (count + 1) ∘ Nat.succ) := by
  apply List.map_congr_left
  intro place member
  exact shareOf_rest total count place (Nat.zero_lt_of_lt (List.mem_range.mp member))

/-- Where there are as many items as places, no place goes without. -/
theorem shareOf_pos (place : Nat) (positive : 0 < count) (enough : count ≤ total) :
    0 < shareOf total count place := by
  have quotient : 0 < total / count := Nat.div_pos enough positive
  rw [shareOf]
  omega

end

/-! ## Runs -/

variable {α β : Type}

/-- With the first run gone, the others are those of the rest. -/
theorem split_succ (items : List α) (count : Nat) :
    split items (count + 1) =
      items.take (shareOf items.length (count + 1) 0) ::
        split (items.drop (shareOf items.length (count + 1) 0)) count := by
  rw [split, split, List.length_drop, shares_rest, List.range_succ_eq_map, List.map_cons,
    List.map_map, takeRuns]

/-- The runs of a split make up the list; without runs there must be nothing to split. -/
theorem flatten_split (items : List α) (count : Nat) (enough : items = [] ∨ 0 < count) :
    (split items count).flatten = items := by
  induction count generalizing items with
  | zero =>
    rw [enough.resolve_right (Nat.lt_irrefl 0)]
    rfl
  | succ count ih =>
    have rest : items.drop (shareOf items.length (count + 1) 0) = [] ∨ 0 < count := by
      cases count with
      | zero => exact .inl (by simp [shareOf, Nat.mod_one])
      | succ count => exact .inr (Nat.succ_pos count)
    rw [split_succ, List.flatten_cons, ih _ rest, List.take_append_drop]

theorem sizes_split (items : List α) (count : Nat) :
    (split items count).map List.length = (List.range count).map (shareOf items.length count) := by
  induction count generalizing items with
  | zero => rfl
  | succ count ih =>
    rw [split_succ, List.map_cons, ih, List.range_succ_eq_map, List.map_cons, List.map_map,
      List.length_take, List.length_drop, shares_rest, Nat.min_eq_left (shareOf_first_le _ _)]

theorem flatten_chunksOf (items : List α) (poolSize : Nat) :
    (chunksOf items poolSize).flatten = items := by
  apply flatten_split
  cases items with
  | nil => exact .inl rfl
  | cons item rest =>
    right
    simp only [List.length_cons]
    omega

theorem length_chunksOf (items : List α) (poolSize : Nat) :
    (chunksOf items poolSize).length = min (max 1 poolSize) items.length := by
  have sizes := congrArg List.length (sizes_split items (min (max 1 poolSize) items.length))
  rwa [List.length_map, List.length_map, List.length_range] at sizes

theorem sizes_chunksOf (items : List α) (poolSize : Nat) :
    (chunksOf items poolSize).map List.length =
      (List.range (chunksOf items poolSize).length).map
        (shareOf items.length (chunksOf items poolSize).length) := by
  rw [length_chunksOf]
  exact sizes_split items _

/-- The size of a chunk is the share of its place. -/
theorem exists_shareOf {items chunk : List α} {poolSize : Nat}
    (member : chunk ∈ chunksOf items poolSize) :
    ∃ place, shareOf items.length (chunksOf items poolSize).length place = chunk.length := by
  have size := List.mem_map_of_mem (f := List.length) member
  rw [sizes_chunksOf] at size
  obtain ⟨place, -, same⟩ := List.mem_map.mp size
  exact ⟨place, same⟩

theorem chunksOf_ne_nil (items : List α) (poolSize : Nat) :
    ∀ chunk ∈ chunksOf items poolSize, chunk ≠ [] := by
  intro chunk member
  obtain ⟨place, size⟩ := exists_shareOf member
  have some := List.length_pos_of_mem member
  apply List.ne_nil_of_length_pos
  rw [← size]
  exact shareOf_pos _ _ _ some (by rw [length_chunksOf]; exact Nat.min_le_right _ _)

/-- What stands at the places of a chunk, where each item of a batch has one place. -/
def partOf (chunks : List (List α)) (index : Nat) (results : List β) : List β :=
  (results.take (chunks.take (index + 1)).flatten.length).drop (chunks.take index).flatten.length

/-- Where every part is as long as its chunk, it stands at the places of that chunk. -/
theorem partOf_flatten {chunks : List (List α)} {parts : List (List β)} {index : Nat}
    {part : List β} (sizes : parts.map List.length = chunks.map List.length)
    (found : parts[index]? = some part) : partOf chunks index parts.flatten = part := by
  have before (count : Nat) :
      (chunks.take count).flatten.length = (parts.take count).flatten.length := by
    rw [List.length_flatten, List.length_flatten, List.map_take, List.map_take, sizes]
  have upTo : parts.take (index + 1) = parts.take index ++ [part] := by
    rw [List.take_add_one, found, Option.toList_some]
  have whole : parts.flatten =
      (parts.take index).flatten ++ part ++ (parts.drop (index + 1)).flatten := by
    calc parts.flatten = (parts.take (index + 1) ++ parts.drop (index + 1)).flatten := by
          rw [List.take_append_drop]
      _ = (parts.take index).flatten ++ part ++ (parts.drop (index + 1)).flatten := by
          rw [List.flatten_append, upTo, List.flatten_append, List.flatten_singleton]
  rw [partOf, before, before, upTo, whole, List.flatten_append, List.flatten_singleton,
    List.take_left, List.drop_left]

end SourceFacts
