import SourceFacts.Grammar.Rust
import SourceFacts.Proofs.Reading

/-! Reading a file again gives the facts of reading it anew. The parsers are asked for as
much as a parser can promise: it may rely on a tree only if that tree belongs to some
content and comes with the place of an edit from that content to the new one. The
coordinator never hands out anything else, whatever its digests do and whatever edits it is
told. -/
namespace SourceFacts

variable {τ : Type}

/-- No tree, or a tree of some content with the place of an edit from it to the new one. -/
def Reusable (treeOf : τ → String → Prop) (content : String) (previous : Option τ)
    (span : EditSpan) : Prop :=
  previous = none ∨ ∃ tree old edit, previous = some tree ∧ treeOf tree old ∧
    Edit.transforms edit old content = true ∧ span = edit.locate old content

/-- What a parser promises for a path: its trees belong to the contents that they are given for,
and reading again from a reusable tree gives the facts of reading in full. -/
structure Parser.Faithful (parser : Parser τ) (path : String) (treeOf : τ → String → Prop) :
    Prop where
  tree_of_parse : ∀ content parsed tree, parser.parse content path = .ok parsed →
    parsed.tree = some tree → treeOf tree content
  reparse : ∀ content previous span parsed, Reusable treeOf content previous span →
    parser.reparse content path previous span = .ok parsed →
      (∃ whole, parser.parse content path = .ok whole ∧ parsed.facts = whole.facts) ∧
        ∀ tree, parsed.tree = some tree → treeOf tree content

/-- A grammar reads every text from its start, so the tree is that of the text itself. -/
theorem Grammar.parser_faithful (grammar : Grammar) (path : String) :
    grammar.parser.Faithful path fun tree content => tree = grammar.engine.tree content where
  tree_of_parse := by
    intro content parsed tree answer given
    cases answer
    cases given
    rfl
  reparse := by
    intro content previous span parsed _ answer
    cases answer
    refine ⟨⟨_, rfl, rfl⟩, fun tree given => ?_⟩
    cases given
    rfl

namespace Coordinator

variable {treeOf : String → τ → String → Prop} {options : CoordinatorOptions}
  {ledger : Ledger τ} {path content : String} {parser : Parser τ} {call : Call τ}

/-- The kept tree belongs to the kept content. -/
def TreeKept (treeOf : String → τ → String → Prop) (path : String) (kept : Kept τ) : Prop :=
  ∀ tree, kept.tree = some tree → treeOf path tree kept.content

/-- What a call hands out is reusable where every kept tree belongs to its content. -/
theorem traces_reusable {previous : Option τ} {span : EditSpan}
    (held : ∀ line ∈ ledger.lines, TreeKept treeOf line.1 line.2)
    (traces : Traces (remembered? options ledger path) content (.incremental previous span)) :
    Reusable (treeOf path) content previous span := by
  obtain ⟨kept, edit, found, leads, rfl, rfl⟩ := traces
  cases given : kept.tree with
  | none => exact .inl rfl
  | some tree =>
    have belongs := held (path, kept) (mem_of_remembered? found) tree given
    exact .inr ⟨tree, kept.content, edit, rfl, belongs, leads, rfl⟩

/-- A faithful parser answers such a call with the facts of reading in full, and with a tree of
the content that was read. -/
theorem faithful_answer (faithful : parser.Faithful path (treeOf path))
    (held : ∀ line ∈ ledger.lines, TreeKept treeOf line.1 line.2)
    (traces : Traces (remembered? options ledger path) content call) {parsed : Parsed τ}
    (answer : call.ask parser path content = .ok parsed) :
    (∃ whole, parser.parse content path = .ok whole ∧ parsed.facts = whole.facts) ∧
      TreeKept treeOf path ⟨content, parsed.tree⟩ := by
  cases call with
  | full =>
    refine ⟨⟨parsed, answer, rfl⟩, ?_⟩
    intro tree given
    exact faithful.tree_of_parse content parsed tree answer given
  | incremental previous span =>
    exact faithful.reparse content previous span parsed (traces_reusable held traces) answer

/-- Along every run of faithful parsers, every kept tree belongs to its content. -/
theorem trees_kept_after (digestOf : String → Digest) (options : CoordinatorOptions)
    (past : List (Turn τ))
    (faithful : ∀ turn ∈ past, ∀ path, (turn.parserFor path).Faithful path (treeOf path)) :
    ∀ line ∈ (ledgerAfter digestOf options past).lines, TreeKept treeOf line.1 line.2 := by
  apply lines_after (TreeKept treeOf) digestOf options past
  intro turn member ledger path content call parsed held traces answer
  exact (faithful_answer (faithful turn member path) held traces answer).2

/-- **Reading again gives the facts of reading anew.** Take a parser for each path that is
faithful to some notion of which trees belong to which contents, any digests, any options, and
any requests before this one, the latest first. A request that reads a file makes one call, and
what comes of it is what the parser answers to that call. The call hands out nothing but a
reusable tree, and where the read succeeds its facts are those of reading the content in full. -/
theorem reread_facts_are_full_facts (treeOf : String → τ → String → Prop)
    (parserFor : String → Parser τ)
    (faithful : ∀ path, (parserFor path).Faithful path (treeOf path))
    (digestOf : String → Digest) (options : CoordinatorOptions) (past : List Request)
    (request : Request) (path content : String)
    (target : request.target? = some (path, content)) :
    ∃ outcome call,
      (step digestOf parserFor (after digestOf options (past.map (Turn.mk parserFor)))
        request).1 = .read outcome call ∧
      (∃ route, outcome =
        (call.ask (parserFor path) path content).map fun parsed => ⟨parsed.facts, route⟩) ∧
      (∀ previous span, call = .incremental previous span →
        Reusable (treeOf path) content previous span) ∧
      (∀ read, outcome = .ok read →
        ∃ whole, (parserFor path).parse content path = .ok whole ∧
          read.facts = whole.facts) := by
  have held : ∀ line ∈ (ledgerAfter digestOf options (past.map (Turn.mk parserFor))).lines,
      TreeKept treeOf line.1 line.2 := by
    apply trees_kept_after
    intro turn member
    obtain ⟨earlier, -, rfl⟩ := List.mem_map.mp member
    exact faithful
  obtain ⟨plan, answered, carries, traces, taken, -⟩ :=
    take_reads (after_agrees digestOf options (past.map (Turn.mk parserFor)))
      ⟨parserFor, request⟩ target
  refine ⟨answered.outcome, answered.call, congrArg Prod.fst taken, ⟨plan.1, ?_⟩, ?_, ?_⟩
  · rw [carries.call]
    exact carries.outcome
  · intro previous span same
    rw [carries.call] at same
    exact traces_reusable held (same ▸ traces)
  · intro read succeeded
    obtain ⟨parsed, answer, rfl⟩ := carries.answered_ok succeeded
    exact (faithful_answer (faithful path) held traces answer).1

/-- Where all contents have one digest and an edit was told wrong, a changed file still gives its
own facts. -/
theorem colliding_digests_reread :
    let parserFor : String → Parser SyntaxTree := fun _ => Grammar.rust.parser
    let digestOf : String → Digest := fun _ => ⟨0, Digest.currentVersion⟩
    let past : List Request :=
      [.parseWithEdit "a.rs" "fn b() {}" ⟨0, 2, "struct"⟩, .parse "a.rs" "fn a() {}"]
    (∀ path, (parserFor path).Faithful path
      fun tree content => tree = Grammar.rust.engine.tree content) ∧
      ∃ read call,
        (step digestOf parserFor (after digestOf ⟨1, true⟩ (past.map (Turn.mk parserFor)))
          (.parse "a.rs" "fn c() {}")).1 = .read (.ok read) call ∧
        read.facts = Grammar.rust.facts "fn c() {}" := by
  intro parserFor digestOf past
  have faithful : ∀ path, (parserFor path).Faithful path
      fun tree content => tree = Grammar.rust.engine.tree content :=
    fun path => Grammar.rust.parser_faithful path
  obtain ⟨outcome, call, response, ⟨route, answer⟩, -, facts⟩ :=
    reread_facts_are_full_facts (fun _ tree content => tree = Grammar.rust.engine.tree content)
      parserFor faithful digestOf ⟨1, true⟩ past (.parse "a.rs" "fn c() {}") "a.rs" "fn c() {}" rfl
  have succeeds : ∃ read, outcome = .ok read := by
    rw [answer]
    cases call <;> exact ⟨_, rfl⟩
  obtain ⟨read, rfl⟩ := succeeds
  obtain ⟨whole, parsed, same⟩ := facts read rfl
  cases parsed
  exact ⟨faithful, read, call, response, same⟩

end Coordinator

end SourceFacts
