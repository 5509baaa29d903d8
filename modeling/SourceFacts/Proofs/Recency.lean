import Mathlib.Data.List.Nodup

/-! Lines by path in order of use, the least recent first. Every cache here can be
seen as such a list: a use moves the line of its path behind all others, and where
there is no room the first line gives way. The order in which a cache happens to
store its entries does not matter, so caches are compared with these lines up to
permutation, and what is found for a path depends on the lines alone. -/
namespace SourceFacts.Recency

variable {α β : Type} {path other : String} {value : α} {lines : List (String × α)}

/-- The lines of all other paths, in their order. -/
def others (path : String) (lines : List (String × α)) : List (String × α) :=
  lines.filter (·.1 ≠ path)

/-- The path has this value, and is the one used last. -/
def place (path : String) (value : α) (lines : List (String × α)) : List (String × α) :=
  others path lines ++ [(path, value)]

/-- As many of the last lines as there is room for. -/
def trim (capacity : Nat) (lines : List (String × α)) : List (String × α) :=
  lines.drop (lines.length - capacity)

/-- The same paths in the same order, with values made from the ones before. -/
def mapValues (change : α → β) (lines : List (String × α)) : List (String × β) :=
  lines.map fun line => (line.1, change line.2)

/-- Every path has at most one line. -/
def Distinct (lines : List (String × α)) : Prop := (lines.map Prod.fst).Nodup

@[simp] theorem map_fst_others :
    (others path lines).map Prod.fst = (lines.map Prod.fst).filter (· ≠ path) := by
  simp [others, List.filter_map, Function.comp_def]

@[simp] theorem map_fst_place :
    (place path value lines).map Prod.fst = (lines.map Prod.fst).filter (· ≠ path) ++ [path] := by
  simp [place]

@[simp] theorem map_fst_mapValues (change : α → β) :
    (mapValues change lines).map Prod.fst = lines.map Prod.fst := by
  simp [mapValues, Function.comp_def]

theorem mapValues_others (change : α → β) :
    mapValues change (others path lines) = others path (mapValues change lines) := by
  simp [mapValues, others, List.filter_map, Function.comp_def]

theorem mapValues_place (change : α → β) (path : String) (value : α)
    (lines : List (String × α)) :
    mapValues change (place path value lines) =
      place path (change value) (mapValues change lines) := by
  simp only [place, ← mapValues_others]
  simp [mapValues]

theorem mapValues_trim (change : α → β) (capacity : Nat) :
    mapValues change (trim capacity lines) = trim capacity (mapValues change lines) := by
  simp [mapValues, trim, List.map_drop]

theorem mapValues_filter (change : α → β) (keep : String → Bool) :
    mapValues change (lines.filter (keep ·.1)) = (mapValues change lines).filter (keep ·.1) := by
  simp [mapValues, List.filter_map, Function.comp_def]

@[simp] theorem others_place : others path (place path value lines) = others path lines := by
  simp [others, place, List.filter_append]

theorem length_others_le (path : String) (lines : List (String × α)) :
    (others path lines).length ≤ lines.length :=
  List.length_filter_le _ _

theorem distinct_filter (distinct : Distinct lines) (keep : String → Bool) :
    Distinct (lines.filter (keep ·.1)) :=
  distinct.sublist ((List.filter_sublist).map _)

theorem distinct_others (distinct : Distinct lines) : Distinct (others path lines) :=
  distinct.sublist ((List.filter_sublist).map _)

theorem distinct_place (distinct : Distinct lines) : Distinct (place path value lines) := by
  unfold Distinct at *
  rw [map_fst_place]
  apply List.Nodup.append (distinct.filter _) (List.nodup_singleton _)
  simp [List.disjoint_singleton]

theorem distinct_trim (distinct : Distinct lines) (capacity : Nat) :
    Distinct (trim capacity lines) :=
  distinct.sublist ((List.drop_sublist _ _).map _)

theorem distinct_mapValues {change : α → β} :
    Distinct (mapValues change lines) ↔ Distinct lines := by
  simp [Distinct]

theorem Distinct.perm {more : List (String × α)} (distinct : Distinct lines)
    (same : more.Perm lines) : Distinct more :=
  (same.map Prod.fst).nodup_iff.mpr distinct

/-- Without repeated paths, looking a path up is membership of its line. -/
theorem lookup_eq_some_iff_mem (distinct : Distinct lines) :
    lines.lookup path = some value ↔ (path, value) ∈ lines := by
  induction lines with
  | nil => simp
  | cons line rest ih =>
    obtain ⟨key, held⟩ := line
    obtain ⟨fresh, restDistinct⟩ := List.nodup_cons.mp distinct
    rw [List.lookup_cons, List.mem_cons]
    by_cases same : path = key
    · subst same
      have absent : (path, value) ∉ rest :=
        fun member => fresh (List.mem_map.mpr ⟨_, member, rfl⟩)
      simp [absent, eq_comm]
    · simp [same, beq_eq_false_iff_ne.mpr same, ih restDistinct]

theorem lookup_perm {more : List (String × α)} (distinct : Distinct lines)
    (same : more.Perm lines) (path : String) : more.lookup path = lines.lookup path := by
  apply Option.ext
  intro value
  rw [lookup_eq_some_iff_mem (distinct.perm same), lookup_eq_some_iff_mem distinct,
    same.mem_iff]

theorem isSome_lookup : (lines.lookup path).isSome = true ↔ path ∈ lines.map Prod.fst := by
  rw [List.lookup_isSome_iff, List.mem_map]
  constructor
  · rintro ⟨line, member, same⟩
    exact ⟨line, member, (beq_iff_eq.mp same).symm⟩
  · rintro ⟨line, member, same⟩
    exact ⟨line, member, beq_iff_eq.mpr same.symm⟩

theorem lookup_filter (keep : String → Bool) (path : String) (lines : List (String × α)) :
    (lines.filter (keep ·.1)).lookup path = if keep path then lines.lookup path else none := by
  induction lines with
  | nil => simp
  | cons line rest ih =>
    obtain ⟨key, held⟩ := line
    by_cases same : path = key
    · subst same
      by_cases kept : keep path = true
      · simp [kept]
      · simp only [kept, List.filter_cons] at ih ⊢
        simpa using ih
    · by_cases kept : keep key = true
      · simp [kept, List.lookup_cons, beq_eq_false_iff_ne.mpr same, ih]
      · simp [kept, List.lookup_cons, beq_eq_false_iff_ne.mpr same, ih]

theorem lookup_others :
    (others path lines).lookup other = if other = path then none else lines.lookup other := by
  have found := lookup_filter (fun key => decide (key ≠ path)) other lines
  by_cases same : other = path
  · simpa [others, same] using found
  · simpa [others, same] using found

theorem lookup_place :
    (place path value lines).lookup other =
      if other = path then some value else lines.lookup other := by
  rw [place, List.lookup_append, lookup_others]
  by_cases same : other = path
  · simp [same]
  · simp [same, List.lookup_cons, beq_eq_false_iff_ne.mpr same]

theorem lookup_mapValues (change : α → β) :
    (mapValues change lines).lookup path = (lines.lookup path).map change := by
  induction lines with
  | nil => rfl
  | cons line rest ih =>
    have step : mapValues change (line :: rest) =
        (line.1, change line.2) :: mapValues change rest := rfl
    rw [step, List.lookup_cons, List.lookup_cons]
    cases path == line.1 <;> simp [ih]

/-- The only line of a path that is there. -/
theorem filter_own (distinct : Distinct lines) (found : lines.lookup path = some value) :
    lines.filter (·.1 = path) = [(path, value)] := by
  induction lines with
  | nil => simp at found
  | cons line rest ih =>
    obtain ⟨key, held⟩ := line
    obtain ⟨fresh, restDistinct⟩ := List.nodup_cons.mp distinct
    rw [List.lookup_cons] at found
    by_cases same : path = key
    · subst same
      have gone : rest.filter (fun line => decide (line.1 = path)) = [] := by
        apply List.filter_eq_nil_iff.mpr
        intro line member
        simp only [decide_eq_true_eq]
        rintro rfl
        exact fresh (List.mem_map.mpr ⟨line, member, rfl⟩)
      simp only [beq_self_eq_true, Option.some.injEq] at found
      simp [gone, found]
    · rw [beq_eq_false_iff_ne.mpr same] at found
      simpa [List.filter_cons, Ne.symm same] using ih restDistinct found

/-- A path that is there keeps its line when it is placed with the same value. -/
theorem perm_place (distinct : Distinct lines) (found : lines.lookup path = some value) :
    lines.Perm (place path value lines) := by
  have split := List.filter_append_perm (fun line : String × α => decide (line.1 ≠ path)) lines
  have own : lines.filter (fun line => !decide (line.1 ≠ path)) = [(path, value)] := by
    simpa using filter_own distinct found
  rw [own] at split
  exact split.symm

/-- Changing the value of a path where it stands, in whatever order the lines are kept. -/
theorem perm_update {more : List (String × α)} (distinct : Distinct lines)
    (same : more.Perm lines) (found : lines.lookup path = some value) (change : α → α) :
    (more.map fun (key, held) => if key = path then (key, change held) else (key, held)).Perm
      (place path (change value) lines) := by
  have moved := (same.trans (perm_place distinct found)).map
    fun (line : String × α) => if line.1 = path then (line.1, change line.2) else (line.1, line.2)
  have rest : (others path lines).map (fun line =>
      if line.1 = path then (line.1, change line.2) else (line.1, line.2)) =
        others path lines := by
    refine (List.map_congr_left ?_).trans (List.map_id _)
    intro line member
    simp [(of_decide_eq_true (List.mem_filter.mp member).2 : line.1 ≠ path)]
  simp only [place, List.map_append, rest] at moved
  simpa [place] using moved

theorem others_of_absent (absent : lines.lookup path = none) : others path lines = lines := by
  apply List.filter_eq_self.mpr
  intro line member
  have missing := List.lookup_eq_none_iff.mp absent line member
  exact decide_eq_true (Ne.symm (beq_eq_false_iff_ne.mp (by simpa using missing)))

theorem length_place_of_present (distinct : Distinct lines)
    (found : lines.lookup path = some value) (later : α) :
    (place path later lines).length = lines.length := by
  have same := (perm_place distinct found).length_eq
  simpa [place] using same.symm

theorem length_place_of_absent (absent : lines.lookup path = none) :
    (place path value lines).length = lines.length + 1 := by
  simp [place, others_of_absent absent]

theorem length_place_le (path : String) (value : α) (lines : List (String × α)) :
    (place path value lines).length ≤ lines.length + 1 := by
  simpa [place] using length_others_le path lines

theorem trim_of_room {capacity : Nat} (room : lines.length ≤ capacity) :
    trim capacity lines = lines := by
  simp [trim, Nat.sub_eq_zero_of_le room]

theorem length_trim_le (capacity : Nat) : (trim capacity lines).length ≤ capacity := by
  simp only [trim, List.length_drop]
  omega

theorem length_trim (capacity : Nat) :
    (trim capacity lines).length = min lines.length capacity := by
  simp only [trim, List.length_drop]
  omega

theorem trim_append {capacity : Nat} (earlier : List (String × α))
    (enough : capacity ≤ lines.length) :
    trim capacity (earlier ++ lines) = trim capacity lines := by
  have more : (earlier ++ lines).length - capacity =
      earlier.length + (lines.length - capacity) := by
    rw [List.length_append]
    omega
  rw [trim, more, ← List.drop_drop, List.drop_left, trim]

/-- What has given way does not matter to what gives way next. -/
theorem trim_place_trim (distinct : Distinct lines) (capacity : Nat) (path : String) (value : α) :
    trim capacity (place path value (trim capacity lines)) =
      trim capacity (place path value lines) := by
  by_cases room : lines.length ≤ capacity
  · rw [trim_of_room room]
  · have filled : capacity ≤ (place path value (trim capacity lines)).length := by
      have left : (trim capacity lines).length = min lines.length capacity := length_trim capacity
      cases found : (trim capacity lines).lookup path with
      | some old =>
        rw [length_place_of_present (distinct_trim distinct capacity) found]
        omega
      | none =>
        rw [length_place_of_absent found]
        omega
    have shape : place path value lines =
        others path (lines.take (lines.length - capacity)) ++
          place path value (trim capacity lines) := by
      rw [place, place, ← List.append_assoc, others, others, others, ← List.filter_append, trim,
        List.take_append_drop]
    rw [shape, trim_append _ filled]

/-- Keeping the lines whose path is among the last ones keeps exactly these. -/
theorem filter_trim (distinct : Distinct lines) (capacity : Nat) :
    lines.filter (fun line => ((trim capacity lines).lookup line.1).isSome) =
      trim capacity lines := by
  have shape := List.take_append_drop (lines.length - capacity) lines
  have apart : ∀ line ∈ lines.take (lines.length - capacity),
      ¬ ((trim capacity lines).lookup line.1).isSome = true := by
    intro line member found
    have later := isSome_lookup.mp found
    rw [Distinct, ← shape, List.map_append] at distinct
    exact (List.nodup_append.mp distinct).2.2 line.1 (List.mem_map_of_mem member) line.1 later rfl
  have kept : ∀ line ∈ trim capacity lines,
      ((trim capacity lines).lookup line.1).isSome = true := by
    intro line member
    exact isSome_lookup.mpr (List.mem_map_of_mem member)
  calc lines.filter (fun line => ((trim capacity lines).lookup line.1).isSome)
      = (lines.take (lines.length - capacity) ++ trim capacity lines).filter
          (fun line => ((trim capacity lines).lookup line.1).isSome) := by rw [trim, shape]
    _ = trim capacity lines := by
      rw [List.filter_append, List.filter_eq_nil_iff.mpr apart,
        List.filter_eq_self.mpr kept, List.nil_append]

theorem trim_sublist (capacity : Nat) : (trim capacity lines).Sublist lines :=
  List.drop_sublist _ _

/-- The lines without the first one are those of the other paths. -/
theorem others_first {first : String × α} {rest : List (String × α)}
    (distinct : Distinct (first :: rest)) : others first.1 (first :: rest) = rest := by
  have kept : others first.1 rest = rest := by
    apply List.filter_eq_self.mpr
    intro line member
    exact decide_eq_true fun same =>
      (List.nodup_cons.mp distinct).1 (List.mem_map.mpr ⟨line, member, same⟩)
  rw [others, List.filter_cons_of_neg (by simp)]
  exact kept

/-- Where every line is taken, a new path pushes out the first one. -/
theorem trim_place_full {first : String × α} {rest : List (String × α)} (value : α)
    (distinct : Distinct (first :: rest)) (absent : (first :: rest).lookup path = none) :
    trim (first :: rest).length (place path value (first :: rest)) =
      place path value (others first.1 (first :: rest)) := by
  have missing : rest.lookup path = none :=
    List.Sublist.lookup_eq_none (List.sublist_cons_self first rest) absent
  rw [others_first distinct, place, others_of_absent absent, place, others_of_absent missing]
  simp [trim]

/-- What is found after a path was placed in limited room: a new path takes the room of the
first line where there is no other. -/
theorem lookup_trim_place {capacity : Nat} (positive : 0 < capacity) (distinct : Distinct lines)
    (bounded : lines.length ≤ capacity) (value : α) :
    (trim capacity (place path value lines)).lookup other =
      if other = path then some value
      else if lines.lookup path = none ∧ lines.length = capacity ∧
          (lines.map Prod.fst).head? = some other then none
      else lines.lookup other := by
  cases found : lines.lookup path with
  | some old =>
    rw [trim_of_room (by rw [length_place_of_present distinct found]; exact bounded),
      lookup_place]
    simp
  | none =>
    by_cases full : lines.length = capacity
    · cases lines with
      | nil =>
        rw [List.length_nil] at full
        omega
      | cons first rest =>
        rw [← full, trim_place_full value distinct found, lookup_place, lookup_others]
        simp [eq_comm]
    · rw [trim_of_room (by rw [length_place_of_absent found]; omega), lookup_place]
      simp [full]

end SourceFacts.Recency
