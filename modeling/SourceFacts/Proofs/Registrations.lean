import Mathlib.Data.List.Dedup
import SourceFacts.Proofs.Recency
import SourceFacts.Router

/-! Which reader takes a file, by the history of registrations. Only those since the last disposal
stand. A name leads to the last of them under that name. An extension leads to the name of the last
that claims it, and from there to the last one under that name, which need not claim the extension
itself; but every extension that leads to a name leads to a reader. -/
namespace SourceFacts
open Recency

/-! ## Letters -/

/-- Two characters are the same letter: they are equal, or the capital and the small form of one
ASCII letter. -/
def sameLetter (a b : Char) : Bool :=
  a = b || (a.isUpper && b.toNat = a.toNat + 32) || (b.isUpper && a.toNat = b.toNat + 32)

/-- Two runs of characters are the same letters one by one. -/
def sameLetters : List Char → List Char → Bool
  | [], [] => true
  | a :: as, b :: bs => sameLetter a b && sameLetters as bs
  | _, _ => false

theorem isUpper_iff (char : Char) :
    char.isUpper = true ↔ 65 ≤ char.toNat ∧ char.toNat ≤ 90 := by
  have range : char.isUpper = true ↔ char.val ≥ 'A'.val ∧ char.val ≤ 'Z'.val := decide_eq_true_iff
  rw [range, ge_iff_le, UInt32.le_iff_toNat_le, UInt32.le_iff_toNat_le]
  rfl

theorem toNat_toLower (char : Char) :
    char.toLower.toNat = if char.isUpper then char.toNat + 32 else char.toNat := by
  by_cases capital : char.isUpper = true
  · have range : char.val ≥ 'A'.val ∧ char.val ≤ 'Z'.val := of_decide_eq_true capital
    have step : ('a'.val - 'A'.val).toNat = 32 := rfl
    have high : char.val.toNat ≤ 90 := ((isUpper_iff char).mp capital).2
    have lowered : char.toLower.val = char.val + ('a'.val - 'A'.val) :=
      congrArg Char.val (dif_pos range)
    rw [if_pos capital]
    change char.toLower.val.toNat = char.val.toNat + 32
    rw [lowered, UInt32.toNat_add]
    omega
  · have range : ¬ (char.val ≥ 'A'.val ∧ char.val ≤ 'Z'.val) :=
      fun within => capital (decide_eq_true within)
    have same : char.toLower = char := dif_neg range
    rw [if_neg capital, same]

theorem toLower_eq_iff (a b : Char) : a.toLower = b.toLower ↔ sameLetter a b = true := by
  rw [← Char.toNat_inj, toNat_toLower, toNat_toLower]
  simp only [sameLetter, Bool.or_eq_true, Bool.and_eq_true, decide_eq_true_eq, isUpper_iff,
    ← Char.toNat_inj]
  split <;> split <;> omega

theorem map_toLower_eq_iff (as bs : List Char) :
    as.map Char.toLower = bs.map Char.toLower ↔ sameLetters as bs = true := by
  induction as generalizing bs with
  | nil => cases bs <;> simp [sameLetters]
  | cons a as ih =>
    cases bs with
    | nil => simp [sameLetters]
    | cons b bs => simp [sameLetters, toLower_eq_iff, ih]

namespace Path

/-- Two texts differ at most in the case of ASCII letters. -/
def sameUpToCase (a b : String) : Bool := sameLetters a.toList b.toList

theorem lowerCase_eq_iff (a b : String) : lowerCase a = lowerCase b ↔ sameUpToCase a b = true := by
  rw [lowerCase, lowerCase, sameUpToCase, ← map_toLower_eq_iff]
  exact ⟨String.ofList_inj.mp, congrArg String.ofList⟩

end Path

/-! ## Assigning -/

section

variable {β : Type} {key other : String} {value : β} {entries : List (String × β)}

theorem lookup_assign :
    (assign key value entries).lookup other =
      if other = key then some value else entries.lookup other := by
  induction entries with
  | nil =>
    by_cases same : other = key
    · simp [assign, same]
    · simp [assign, List.lookup_cons, same, beq_eq_false_iff_ne.mpr same]
  | cons entry rest ih =>
    obtain ⟨first, held⟩ := entry
    by_cases here : first = key
    · subst here
      by_cases same : other = first
      · simp [assign, same]
      · simp [assign, List.lookup_cons, same, beq_eq_false_iff_ne.mpr same]
    · rw [assign, if_neg here, List.lookup_cons, ih, List.lookup_cons]
      by_cases same : other = first
      · simp [same, here]
      · simp [beq_eq_false_iff_ne.mpr same]

theorem mem_keys_assign :
    other ∈ (assign key value entries).map Prod.fst ↔
      other = key ∨ other ∈ entries.map Prod.fst := by
  rw [← isSome_lookup, lookup_assign, ← isSome_lookup]
  by_cases same : other = key <;> simp [same]

/-- Assigning leaves no key at two places. -/
theorem distinct_assign (distinct : Distinct entries) : Distinct (assign key value entries) := by
  induction entries with
  | nil => exact List.nodup_singleton key
  | cons entry rest ih =>
    obtain ⟨fresh, restDistinct⟩ := List.nodup_cons.mp distinct
    by_cases here : entry.1 = key
    · rw [assign, if_pos here]
      exact here ▸ distinct
    · rw [assign, if_neg here]
      refine List.nodup_cons.mpr ⟨?_, ih restDistinct⟩
      intro member
      rcases mem_keys_assign.mp member with same | later
      · exact here same
      · exact fresh later

end

namespace Registration

variable {α : Type}

/-- Whether the reader is registered for this extension, written in one case or another. -/
def claims (registration : Registration α) (extension : String) : Bool :=
  registration.extensions.any (Path.sameUpToCase · extension)

theorem claims_iff (registration : Registration α) (extension : String) :
    registration.claims extension = true ↔
      Path.lowerCase extension ∈ registration.extensions.map Path.lowerCase := by
  rw [claims, List.any_eq_true, List.mem_map]
  exact exists_congr fun own => and_congr_right fun _ => (Path.lowerCase_eq_iff own extension).symm

end Registration

/-! ## Histories -/

namespace Router

variable {α : Type}

/-- Something done to a router. -/
inductive Change (α : Type) where
  | register (registration : Registration α)
  | dispose

/-- A router after something was done to it. -/
def change (router : Router α) : Change α → Router α
  | .register registration => router.register registration
  | .dispose => router.dispose

/-- A router after some changes, the latest first. -/
def after : List (Change α) → Router α
  | [] => empty
  | latest :: past => (after past).change latest

/-- The registrations since the last disposal, the latest first. -/
def standing : List (Change α) → List (Registration α)
  | [] => []
  | .register registration :: past => registration :: standing past
  | .dispose :: _ => []

/-- Both tables of a router tell of registrations, the latest first: the last one under a name, and
the name of the last one that has an extension. -/
structure Reflects (registrations : List (Registration α)) (router : Router α) : Prop where
  names : Distinct router.byName
  extensions : Distinct router.byExtension
  byName : ∀ name, router.byName.lookup name = registrations.find? (·.name = name)
  byExtension : ∀ text, router.byExtension.lookup text =
    (registrations.find? (text ∈ ·.extensions.map Path.lowerCase)).map Registration.name

/-- Every extension of a registration is set to its name, and no other extension changes. -/
theorem assign_extensions (extensions : List String) (name : String)
    {table : List (String × String)} (distinct : Distinct table) :
    let later := extensions.foldl
      (fun table extension => assign (Path.lowerCase extension) name table) table
    Distinct later ∧ ∀ text, later.lookup text =
      if text ∈ extensions.map Path.lowerCase then some name else table.lookup text := by
  induction extensions generalizing table with
  | nil => exact ⟨distinct, fun text => by simp⟩
  | cons first rest ih =>
    have assigned : Distinct (assign (Path.lowerCase first) name table) := distinct_assign distinct
    obtain ⟨restDistinct, found⟩ := ih assigned
    refine ⟨restDistinct, fun text => ?_⟩
    rw [List.foldl_cons, found, lookup_assign, List.map_cons]
    by_cases later : text ∈ rest.map Path.lowerCase
    · rw [if_pos later, if_pos (List.mem_cons_of_mem _ later)]
    · rw [if_neg later]
      by_cases here : text = Path.lowerCase first
      · simp [here]
      · simp [here, later]

namespace Reflects

variable {registrations : List (Registration α)} {router : Router α}

theorem register (reflects : Reflects registrations router) (registration : Registration α) :
    Reflects (registration :: registrations) (router.register registration) := by
  obtain ⟨distinct, found⟩ :=
    assign_extensions registration.extensions registration.name reflects.extensions
  refine ⟨distinct_assign reflects.names, distinct, ?_, ?_⟩
  · intro name
    rw [Router.register, lookup_assign, reflects.byName, List.find?_cons]
    by_cases same : name = registration.name
    · simp [same]
    · simp [same, Ne.symm same]
  · intro text
    rw [Router.register, found, reflects.byExtension, List.find?_cons]
    by_cases own : text ∈ registration.extensions.map Path.lowerCase
    · rw [if_pos own, decide_eq_true own]
      rfl
    · rw [if_neg own, decide_eq_false own]

theorem after (changes : List (Change α)) : Reflects (standing changes) (Router.after changes) := by
  have blank : Reflects [] (Router.empty : Router α) :=
    ⟨List.nodup_nil, List.nodup_nil, fun _ => rfl, fun _ => rfl⟩
  induction changes with
  | nil => exact blank
  | cons latest past ih =>
    cases latest with
    | register registration => exact ih.register registration
    | dispose => exact blank

theorem get?_eq (reflects : Reflects registrations router) (name : String) :
    router.get? name = registrations.find? (·.name = name) :=
  reflects.byName name

/-- An extension leads to the last registration under the name of the last one that claims it. -/
theorem forExtension?_eq (reflects : Reflects registrations router) (extension : String) :
    router.forExtension? extension =
      (registrations.find? (·.claims extension)).bind fun claimant =>
        registrations.find? (·.name = claimant.name) := by
  have same : (fun registration : Registration α => registration.claims extension) =
      fun registration =>
        decide (Path.lowerCase extension ∈ registration.extensions.map Path.lowerCase) := by
    funext registration
    rw [Bool.eq_iff_iff, Registration.claims_iff, decide_eq_true_eq]
  rw [same]
  simp only [forExtension?, reflects.byExtension, reflects.get?_eq, Option.bind_eq_bind,
    Option.bind_map]
  rfl

/-- The name of a registration that stands leads to one that stands. -/
theorem named (claimant : Registration α) (member : claimant ∈ registrations) :
    ∃ taker, registrations.find? (·.name = claimant.name) = some taker := by
  apply Option.isSome_iff_exists.mp
  rw [List.find?_isSome]
  exact ⟨claimant, member, by simp⟩

/-- Where names are distinct, a registration is the last under its name. -/
theorem find?_own {claimant : Registration α} (member : claimant ∈ registrations)
    (apart : (registrations.map Registration.name).Nodup) :
    registrations.find? (·.name = claimant.name) = some claimant := by
  obtain ⟨taker, found⟩ := named claimant member
  have name : taker.name = claimant.name := by simpa using List.find?_some found
  have same : taker = claimant :=
    List.inj_on_of_nodup_map apart (List.mem_of_find?_eq_some found) member name
  rw [found, same]

theorem mem_extensions (reflects : Reflects registrations router) (text : String) :
    text ∈ router.extensions ↔ ∃ registration ∈ registrations,
      ∃ extension ∈ registration.extensions, Path.lowerCase extension = text := by
  rw [Router.extensions, List.mem_mergeSort, ← isSome_lookup, reflects.byExtension,
    Option.isSome_map, List.find?_isSome]
  simp only [decide_eq_true_eq, List.mem_map]

theorem extensions_sorted (reflects : Reflects registrations router) :
    router.extensions.Pairwise (· < ·) := by
  have trans : ∀ a b c, textLe a b = true → textLe b c = true → textLe a c = true := by
    intro a b c first second
    simp only [textLe, Bool.not_eq_true', decide_eq_false_iff_not, String.not_lt] at *
    exact String.le_trans first second
  have total : ∀ a b, (textLe a b || textLe b a) = true := by
    intro a b
    simp only [textLe, Bool.or_eq_true, Bool.not_eq_true', decide_eq_false_iff_not, String.not_lt]
    exact String.le_total a b
  have sorted := List.pairwise_mergeSort trans total (router.byExtension.map Prod.fst)
  have once : (router.extensions).Nodup :=
    (List.mergeSort_perm _ _).nodup_iff.mpr reflects.extensions
  refine (sorted.and once).imp fun {a b} both => ?_
  obtain ⟨le, different⟩ := both
  simp only [textLe, Bool.not_eq_true', decide_eq_false_iff_not] at le
  exact Decidable.byContradiction fun notLess =>
    different (String.le_antisymm (String.not_lt.mp le) (String.not_lt.mp notLess))

theorem size_eq (reflects : Reflects registrations router) :
    router.size = (registrations.map Registration.name).dedup.length := by
  have keys : (router.byName.map Prod.fst).Perm (registrations.map Registration.name).dedup := by
    rw [List.perm_ext_iff_of_nodup reflects.names (List.nodup_dedup _)]
    intro name
    rw [← isSome_lookup, reflects.byName, List.find?_isSome, List.mem_dedup, List.mem_map]
    simp only [decide_eq_true_eq]
  rw [size, ← keys.length_eq, List.length_map]

end Reflects

/-- **Lookups follow the registrations that stand.** Take any changes of a router that was empty,
and the registrations since the last disposal among them. A name leads to the last of these under
that name. An extension leads nowhere exactly if none of them claims it, in whatever case it is
written; otherwise it leads to the last one under the name of the last one that claims it, and there
is one. Where all names are distinct, that is the one that claims it last. The extensions of the
router are those that are claimed, in lower case, each once and in order, and its size is the number
of distinct names. -/
theorem lookups_follow_registrations (changes : List (Change α)) :
    let router := after changes
    let current := standing changes
    (∀ name, router.get? name = current.find? (·.name = name)) ∧
    (∀ extension,
      (router.forExtension? extension = none ↔
        ∀ registration ∈ current, registration.claims extension = false) ∧
      (∀ claimant, current.find? (·.claims extension) = some claimant →
        ∃ taker, current.find? (·.name = claimant.name) = some taker ∧
          router.forExtension? extension = some taker) ∧
      ((current.map Registration.name).Nodup →
        router.forExtension? extension = current.find? (·.claims extension))) ∧
    router.extensions.Pairwise (· < ·) ∧
    (∀ text, text ∈ router.extensions ↔ ∃ registration ∈ current,
      ∃ extension ∈ registration.extensions, Path.lowerCase extension = text) ∧
    router.size = (current.map Registration.name).dedup.length := by
  intro router current
  have reflects : Reflects current router := Reflects.after changes
  refine ⟨reflects.get?_eq, ?_, reflects.extensions_sorted, reflects.mem_extensions,
    reflects.size_eq⟩
  intro extension
  have looked := reflects.forExtension?_eq extension
  cases found : current.find? (·.claims extension) with
  | none =>
    rw [found] at looked
    have unclaimed := List.find?_eq_none.mp found
    refine ⟨iff_of_true looked ?_, ?_, fun _ => looked⟩
    · intro registration member
      simpa using unclaimed registration member
    · intro claimant claimed
      cases claimed
  | some last =>
    rw [found] at looked
    have member := List.mem_of_find?_eq_some found
    obtain ⟨taker, named⟩ := Reflects.named last member
    have taken : router.forExtension? extension = some taker := looked.trans named
    refine ⟨?_, ?_, ?_⟩
    · rw [taken]
      refine iff_of_false (Option.some_ne_none taker) fun unclaimed => ?_
      have claims := List.find?_some found
      rw [unclaimed last member] at claims
      cases claims
    · intro claimant claimed
      cases claimed
      exact ⟨taker, named, taken⟩
    · intro apart
      exact looked.trans (Reflects.find?_own member apart)

/-- A reader that claims an extension is replaced under its name by one that does not, and this one
takes the files; another extension goes to the reader that claimed it last, as it does where nothing
was replaced. What was registered before the disposal is gone. -/
theorem replaced_reader_keeps_extension :
    let first : Registration Nat := ⟨"a", ["Rs", "py", "rS"], 1⟩
    let second : Registration Nat := ⟨"a", ["md"], 2⟩
    let third : Registration Nat := ⟨"b", ["PY"], 3⟩
    let earlier : List (Change Nat) := [.dispose, .register ⟨"c", ["go"], 0⟩]
    let replaced := after (.register third :: .register second :: .register first :: earlier)
    let plain := after (.register third :: .register first :: earlier)
    replaced.forExtension? "RS" = some second ∧ second.claims "RS" = false ∧
      replaced.forExtension? "py" = some third ∧ replaced.forExtension? "go" = none ∧
      replaced.size = 2 ∧ "rs" ∈ replaced.extensions ∧ "Rs" ∉ replaced.extensions ∧
      plain.forExtension? "py" = some third := by
  intro first second third earlier replaced plain
  obtain ⟨-, extensions, -, listed, size⟩ := lookups_follow_registrations
    (.register third :: .register second :: .register first :: earlier)
  obtain ⟨taker, named, taken⟩ := (extensions "RS").2.1 first (by rfl)
  obtain ⟨other, found, read⟩ := (extensions "py").2.1 third (by rfl)
  have apart : (([third, first] : List (Registration Nat)).map Registration.name).Nodup := by decide
  have distinct := (lookups_follow_registrations
    (.register third :: .register first :: earlier)).2.1 "py" |>.2.2 apart
  refine ⟨taken.trans ?_, by decide, read.trans ?_, (extensions "go").1.mpr (by decide),
    size.trans (by decide), (listed "rs").mpr ?_, mt (listed "Rs").mp ?_, distinct⟩
  · rw [← named]
    rfl
  · rw [← found]
    rfl
  · exact ⟨first, by simp [standing], "Rs", by decide, by decide⟩
  · decide

end Router

end SourceFacts
