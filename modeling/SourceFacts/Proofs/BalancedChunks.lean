import SourceFacts.Proofs.Chunks

/-! Chunks are balanced. Each chunk has the quotient of the batch by the number of chunks, and the first
ones have one item more, as many of them as the remainder says. -/
namespace SourceFacts

section

variable (total count : Nat)

/-- Later places get no more. -/
theorem shareOf_anti {first second : Nat} (later : first ≤ second) :
    shareOf total count second ≤ shareOf total count first := by
  rw [shareOf, shareOf]
  split <;> split <;> omega

/-- No place gets two items more than another. -/
theorem shareOf_le_succ (first second : Nat) :
    shareOf total count first ≤ shareOf total count second + 1 := by
  rw [shareOf, shareOf]
  split <;> split <;> omega

end

variable {α : Type}

/-- **Chunks are a balanced partition of a batch.** For every batch and every size of the pool, zero
included, the chunks put together in order are the batch again. There are as many as the pool has
workers, one at least, or as many as there are items where these are fewer, and none is empty. Their
sizes never grow from one chunk to the next and no two differ by more than one: each has the quotient of
the batch by the number of chunks, and one item more while the remainder lasts. -/
theorem chunks_balance (items : List α) (poolSize : Nat) :
    let chunks := chunksOf items poolSize
    chunks.flatten = items ∧
    chunks.length = min (max 1 poolSize) items.length ∧
    (∀ chunk ∈ chunks, chunk ≠ []) ∧
    (chunks.map List.length).Pairwise (fun earlier later => later ≤ earlier) ∧
    (∀ first ∈ chunks, ∀ second ∈ chunks, first.length ≤ second.length + 1) ∧
    chunks.map List.length =
      (List.range chunks.length).map (shareOf items.length chunks.length) := by
  intro chunks
  have sizes := sizes_chunksOf items poolSize
  refine ⟨flatten_chunksOf items poolSize, length_chunksOf items poolSize,
    chunksOf_ne_nil items poolSize, ?_, ?_, sizes⟩
  · rw [sizes, List.pairwise_map]
    refine List.pairwise_lt_range.imp ?_
    intro earlier later before
    exact shareOf_anti _ _ (Nat.le_of_lt before)
  · intro first inFirst second inSecond
    obtain ⟨place, size⟩ := exists_shareOf inFirst
    obtain ⟨other, otherSize⟩ := exists_shareOf inSecond
    rw [← size, ← otherSize]
    exact shareOf_le_succ _ _ place other

example : (chunksOf (List.range 10) 3).map List.length = [4, 3, 3] := by decide

end SourceFacts
