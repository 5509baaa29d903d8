import SourceFacts.Grammar.Rust
import SourceFacts.Proofs.Reading

/-! The two caches of a coordinator mirror each other. The store compares only their
lengths, so this rests on every other operation: after any run, with parsers that succeed
or fail as they like, both caches have the paths of one ledger. -/
namespace SourceFacts
open Recency

/-- The parser gives a tree whenever it succeeds. -/
def Parser.GivesTrees {τ : Type} (parser : Parser τ) : Prop :=
  ∀ call path content parsed, Call.ask parser path content call = .ok parsed →
    parsed.tree.isSome = true

/-- Reading by a grammar always gives a tree to keep. -/
theorem Grammar.parser_givesTrees (grammar : Grammar) : grammar.parser.GivesTrees := by
  intro call path content parsed answer
  cases call <;> cases answer <;> rfl

namespace Coordinator

variable {τ : Type} {digestOf : String → Digest} {options : CoordinatorOptions}
  {coordinator : Coordinator τ} {ledger : Ledger τ} {path : String}

/-- The paths of both caches are the same, and every tree has the digest of the content that is
kept with it. -/
structure Mirrored (digestOf : String → Digest) (coordinator : Coordinator τ) : Prop where
  paths : ∀ path, coordinator.trees.has path = (coordinator.content? path).isSome
  digests : ∀ path entry, coordinator.trees.entry? path = some entry →
    ∃ content, coordinator.content? path = some content ∧ entry.digest = digestOf content

namespace Agrees

theorem mirrored (agrees : Agrees digestOf options coordinator ledger)
    (on : options.cacheContent = true) : Mirrored digestOf coordinator where
  paths := by
    intro path
    rw [agrees.has_eq, agrees.content?_eq, if_pos on, Option.isSome_map]
  digests := by
    intro path entry found
    rw [agrees.entry?_eq, Option.map_eq_some_iff] at found
    obtain ⟨kept, read, rfl⟩ := found
    exact ⟨kept.content, by rw [agrees.content?_eq, if_pos on, read]; rfl, rfl⟩

theorem contents_distinct (agrees : Agrees digestOf options coordinator ledger) :
    Distinct coordinator.contents := by
  have contents := agrees.contents
  cases on : options.cacheContent with
  | true =>
    rw [on] at contents
    exact Distinct.perm (distinct_mapValues.mpr agrees.distinct) contents
  | false =>
    rw [agrees.contents_nil on]
    exact List.nodup_nil

theorem contents_length_le (agrees : Agrees digestOf options coordinator ledger) :
    coordinator.contents.length ≤ ledger.lines.length := by
  rw [agrees.contents.length_eq]
  cases options.cacheContent <;> simp [mapValues]

end Agrees

/-- Parsers that always give trees leave no line without one. -/
theorem lines_have_trees (digestOf : String → Digest) (options : CoordinatorOptions)
    (past : List (Turn τ)) (generous : ∀ turn ∈ past, ∀ path, (turn.parserFor path).GivesTrees) :
    ∀ line ∈ (ledgerAfter digestOf options past).lines, line.2.tree.isSome = true := by
  apply lines_after (fun _ kept => kept.tree.isSome = true) digestOf options past
  intro turn member ledger path content call parsed _ _ answer
  exact generous turn member path call path content parsed answer

/-- **The caches mirror each other.** After any run, whatever parsers it meets: where contents
are kept, both caches have exactly the same paths and every tree has the digest of its content;
where they are not, there are none; no cache has more paths than there is room for; and if every
parser gives a tree whenever it succeeds, no entry is left without its tree. -/
theorem caches_mirror_each_other (digestOf : String → Digest) (options : CoordinatorOptions)
    (past : List (Turn τ)) :
    let coordinator := after digestOf options past
    (options.cacheContent = true → Mirrored digestOf coordinator) ∧
      (options.cacheContent = false → coordinator.contents = []) ∧
      (Distinct coordinator.trees.entries ∧ Distinct coordinator.contents ∧
        coordinator.trees.size ≤ max 1 options.maxTrees ∧
        coordinator.contents.length ≤ max 1 options.maxTrees) ∧
      ((∀ turn ∈ past, ∀ path, (turn.parserFor path).GivesTrees) →
        ∀ path entry, coordinator.trees.entry? path = some entry →
          entry.tree.isSome = true) := by
  intro coordinator
  have agrees := after_agrees digestOf options past
  refine ⟨agrees.mirrored, agrees.contents_nil, ⟨?_, agrees.contents_distinct, ?_, ?_⟩, ?_⟩
  · exact Distinct.perm agrees.holds.distinct agrees.holds.entries
  · rw [agrees.size_eq]
    exact agrees.bounded
  · exact Nat.le_trans agrees.contents_length_le agrees.bounded
  · intro generous path entry found
    rw [agrees.entry?_eq, Option.map_eq_some_iff] at found
    obtain ⟨kept, read, rfl⟩ := found
    exact lines_have_trees digestOf options past generous (path, kept)
      ((lookup_eq_some_iff_mem agrees.distinct).mp read)

/-- Two source files in a cache for one: the content of the first goes with its tree, and the
second has both. -/
theorem source_files_mirrored :
    let past : List (Turn SyntaxTree) :=
      [⟨fun _ => Grammar.rust.parser, .parse "b.rs" "fn b() {}"⟩,
        ⟨fun _ => Grammar.rust.parser, .parse "a.rs" "fn a() {}"⟩]
    let coordinator := after Digest.ofText ⟨1, true⟩ past
    (∀ turn ∈ past, ∀ path, (turn.parserFor path).GivesTrees) ∧
      coordinator.content? "a.rs" = none ∧
      (coordinator.content? "b.rs").isSome = true ∧
      ∀ entry, coordinator.trees.entry? "b.rs" = some entry → entry.tree.isSome = true := by
  intro past coordinator
  have generous : ∀ turn ∈ past, ∀ path, (turn.parserFor path).GivesTrees := by
    intro turn member path
    simp only [past, List.mem_cons, List.not_mem_nil, or_false] at member
    rcases member with rfl | rfl <;> exact Grammar.rust.parser_givesTrees
  obtain ⟨mirrored, -, -, trees⟩ := caches_mirror_each_other Digest.ofText ⟨1, true⟩ past
  have first := (mirrored rfl).paths "a.rs"
  have second := (mirrored rfl).paths "b.rs"
  have evicted : coordinator.trees.has "a.rs" = false := by decide
  have held : coordinator.trees.has "b.rs" = true := by decide
  refine ⟨generous, ?_, second.symm.trans held, trees generous "b.rs"⟩
  exact Option.isNone_iff_eq_none.mp (Option.isSome_eq_false_iff.mp (first.symm.trans evicted))

end Coordinator

end SourceFacts
