import FlagKeeper.Proofs.Flags.FilterScope

/-!
# Which flags a filter leaves out

The leading part of a name ends where the first double underscore starts, and there is none if nothing comes before that or after it
(`leadingPart?_eq_some_iff`). With it, the flags that a filter leaves out can be told from the members of its three restrictions
(`refuses_iff`). The main statement says that these flags, and no others, are the uncovered ones, and that a restriction that has
members refuses no more flags for being given further ones.
-/

namespace FlagKeeper

/-! ## The first double underscore -/

section Split

variable {letters before after : List Char}

/-- A double underscore starts at some place of a text. -/
def DoubleAt (letters : List Char) (place : Nat) : Prop := ['_', '_'] <+: letters.drop place

theorem doubleAt_zero_iff : DoubleAt letters 0 ↔ ∃ rest, letters = '_' :: '_' :: rest := by
  unfold DoubleAt
  rw [List.drop_zero, List.prefix_iff_exists_append_eq]
  simp [eq_comm]

/-- No double underscore starts before the one at which a text is split. -/
theorem not_doubleAt_of_splitAtDouble (split : splitAtDouble letters = some (before, after)) {place : Nat}
    (early : place < before.length) : ¬DoubleAt letters place := by
  fun_induction splitAtDouble letters generalizing before place with
  | case1 rest =>
    cases split
    simp at early
  | case2 c rest first ih =>
    obtain ⟨⟨before', after'⟩, found, same⟩ := Option.map_eq_some_iff.1 split
    cases same
    cases place with
    | zero =>
      rw [doubleAt_zero_iff]
      rintro ⟨rest', double⟩
      obtain ⟨rfl, rfl⟩ := List.cons.inj double
      exact first _ rfl rfl
    | succ place => exact ih found (by simpa using early)
  | case3 => cases split

/-- A text is split at a double underscore before which none starts. -/
theorem splitAtDouble_of_first (before : List Char)
    (first : ∀ place < before.length, ¬DoubleAt (before ++ '_' :: '_' :: after) place) :
    splitAtDouble (before ++ '_' :: '_' :: after) = some (before, after) := by
  induction before with
  | nil => rfl
  | cons c before ih =>
    have passed (rest : List Char) : c :: (before ++ '_' :: '_' :: after) ≠ '_' :: '_' :: rest := fun double =>
      first 0 (by simp) (doubleAt_zero_iff.2 ⟨rest, double⟩)
    have later := ih fun place early => first (place + 1) (by simpa using early)
    rw [List.cons_append, splitAtDouble.eq_2 _ _ (by simpa using passed), later]
    rfl

/-- Where a text is split. -/
theorem splitAtDouble_eq_some_iff : splitAtDouble letters = some (before, after) ↔
    letters = before ++ '_' :: '_' :: after ∧ ∀ place < before.length, ¬DoubleAt letters place := by
  constructor
  · exact fun split => ⟨splitAtDouble_eq_some split, fun _ early => not_doubleAt_of_splitAtDouble split early⟩
  · rintro ⟨rfl, first⟩
    exact splitAtDouble_of_first before first

end Split

/-! ## Leading parts -/

/-- A name is some text, a double underscore and more, of which neither is empty, and no double underscore starts before the end of
the text. -/
structure HasLeadingPart (name part : String) : Prop where
  whole : ∃ rest, rest ≠ "" ∧ name = part ++ "__" ++ rest
  starts : part ≠ ""
  first : ∀ place < part.length, ¬DoubleAt name.toList place

/-- Which leading part a name has. -/
theorem leadingPart?_eq_some_iff {name part : String} : leadingPart? name = some part ↔ HasLeadingPart name part := by
  unfold leadingPart?
  constructor
  · intro found
    split at found
    case h_1 before after split =>
      split at found
      case isTrue => cases found
      case isFalse sides =>
        cases found
        obtain ⟨start, rest⟩ : before ≠ [] ∧ after ≠ [] := by simpa using sides
        obtain ⟨whole, first⟩ := splitAtDouble_eq_some_iff.1 split
        refine ⟨⟨String.ofList after, ?_, ?_⟩, ?_, ?_⟩
        · exact mt String.ofList_eq_empty_iff.1 rest
        · rw [← String.toList_inj, whole]
          simp
        · exact mt String.ofList_eq_empty_iff.1 start
        · simpa using first
    case h_2 => cases found
  · rintro ⟨⟨rest, more, rfl⟩, starts, first⟩
    have letters : (part ++ "__" ++ rest).toList = part.toList ++ '_' :: '_' :: rest.toList := by simp
    rw [letters] at first ⊢
    rw [← String.length_toList] at first
    rw [splitAtDouble_of_first part.toList first]
    simp [starts, more]

/-- When a name has no leading part. -/
theorem leadingPart?_eq_none_iff {name : String} : leadingPart? name = none ↔ ¬∃ part, HasLeadingPart name part := by
  rw [Option.eq_none_iff_forall_ne_some, not_exists]
  exact forall_congr' fun part => not_congr leadingPart?_eq_some_iff

/-! ## Refusals -/

namespace NameSet

variable {s : NameSet}

/-- What a restriction does not allow. -/
theorem allows_eq_false_iff {x : String} : s.allows x = false ↔ s.toList ≠ [] ∧ x ∉ s.toList := by
  unfold allows isEmpty
  rw [Bool.or_eq_false_iff, List.isEmpty_eq_false_iff, ← Bool.not_eq_true, contains_iff]

theorem isDisjoint_iff {t : NameSet} : s.isDisjoint t = true ↔ ∀ x ∈ s.toList, x ∉ t.toList := by
  unfold isDisjoint
  rw [List.all_eq_true]
  refine forall₂_congr fun x _ => ?_
  rw [Bool.not_eq_true', Bool.eq_false_iff, ne_eq, contains_iff]

/-- A set is as it was, or has names and is given further ones. -/
def Grows (s t : NameSet) : Prop := t = s ∨ s.toList ≠ [] ∧ s.toList ⊆ t.toList

/-- A restriction that is given further names allows whatever it allowed. -/
theorem Grows.within {t : NameSet} (grows : s.Grows t) (kind : String → Bool) : s.Within kind t := by
  unfold Within
  rcases grows with rfl | ⟨restricts, among⟩
  · cases free : t.isEmpty with
    | true => exact .inl rfl
    | false => exact .inr ⟨rfl, fun x inside _ => contains_iff.2 inside⟩
  · exact .inr ⟨List.isEmpty_eq_false_iff.2 restricts, fun x inside _ => contains_iff.2 (among inside)⟩

end NameSet

namespace FlagFilter

variable {f g : FlagFilter} {flag : FeatureFlag}

/-- Why a filter refuses a flag: none of the flag's sets is among those that are asked for, or its name is not, or the leading part of
its name is not. A name with a leading part is not looked for among the names. -/
inductive Refuses (f : FlagFilter) (flag : FeatureFlag) : Prop where
  | bySets (restricts : f.sets.toList ≠ []) (apart : ∀ x ∈ f.sets.toList, x ∉ flag.sets.toList)
  | byName (plain : ¬∃ part, HasLeadingPart flag.name part) (restricts : f.names.toList ≠ []) (other : flag.name ∉ f.names.toList)
  | byLeadingPart (part : String) (leads : HasLeadingPart flag.name part) (restricts : f.prefixes.toList ≠ [])
      (other : part ∉ f.prefixes.toList)

theorem admitsSets_eq_false_iff {sets : NameSet} :
    f.admitsSets sets = false ↔ f.sets.toList ≠ [] ∧ ∀ x ∈ f.sets.toList, x ∉ sets.toList := by
  unfold admitsSets NameSet.isEmpty
  rw [Bool.or_eq_false_iff, List.isEmpty_eq_false_iff, Bool.not_eq_false', NameSet.isDisjoint_iff]

theorem admitsName_eq_false_iff {name : String} : f.admitsName name = false ↔
    ((¬∃ part, HasLeadingPart name part) ∧ f.names.toList ≠ [] ∧ name ∉ f.names.toList) ∨
    ∃ part, HasLeadingPart name part ∧ f.prefixes.toList ≠ [] ∧ part ∉ f.prefixes.toList := by
  unfold admitsName
  cases found : leadingPart? name with
  | none =>
    have plain := leadingPart?_eq_none_iff.1 found
    rw [NameSet.allows_eq_false_iff]
    constructor
    · exact fun refused => .inl ⟨plain, refused⟩
    · rintro (⟨-, refused⟩ | ⟨part, leads, -⟩)
      · exact refused
      · exact (plain ⟨part, leads⟩).elim
  | some part =>
    have leads := leadingPart?_eq_some_iff.1 found
    rw [NameSet.allows_eq_false_iff]
    constructor
    · exact fun refused => .inr ⟨part, leads, refused⟩
    · rintro (⟨plain, -⟩ | ⟨part', leads', refused⟩)
      · exact (plain ⟨part, leads⟩).elim
      · rw [leadingPart?_eq_some_iff.2 leads'] at found
        cases found
        exact refused

/-- A filter keeps what it does not refuse. -/
theorem refuses_iff : f.Refuses flag ↔ f.keeps flag = false := by
  rw [keeps_eq, Bool.and_eq_false_iff, admitsSets_eq_false_iff, admitsName_eq_false_iff]
  constructor
  · rintro (⟨restricts, apart⟩ | ⟨plain, restricts, other⟩ | ⟨part, leads, restricts, other⟩)
    · exact .inl ⟨restricts, apart⟩
    · exact .inr (.inl ⟨plain, restricts, other⟩)
    · exact .inr (.inr ⟨part, leads, restricts, other⟩)
  · rintro (⟨restricts, apart⟩ | ⟨plain, restricts, other⟩ | ⟨part, leads, restricts, other⟩)
    · exact .bySets restricts apart
    · exact .byName plain restricts other
    · exact .byLeadingPart part leads restricts other

instance : Decidable (f.Refuses flag) := decidable_of_iff _ refuses_iff.symm

/-- Each restriction of a filter is as it was, or has members and is given further ones. -/
structure Grows (f g : FlagFilter) : Prop where
  names : f.names.Grows g.names
  prefixes : f.prefixes.Grows g.prefixes
  sets : f.sets.Grows g.sets

theorem Grows.keeps (grows : f.Grows g) (kept : f.keeps flag = true) : g.keeps flag = true :=
  (covers_iff f g).2 (.inr ⟨grows.names.within _, grows.prefixes.within _, grows.sets.within _⟩) flag kept

/-- Where no flag is refused that was kept, fewer are left out. -/
theorem uncovered_sublist (covers : ∀ flag, f.keeps flag = true → g.keeps flag = true) (cached : List FeatureFlag) :
    (g.uncovered cached).Sublist (f.uncovered cached) := by
  unfold uncovered
  refine List.Sublist.map _ (List.monotone_filter_right _ fun flag refused => ?_)
  rw [Bool.not_eq_true', ← Bool.not_eq_true] at refused ⊢
  exact mt (covers flag) refused

/-- **What a filter leaves out.** For every filter:

1. Of any cached flags, the uncovered ones are, in order, the names of those that it refuses: because sets are asked for and none of
   the flag's is among them, because the name has no leading part and names are asked for, but not this one, or because leading parts
   are asked for, but not that of the name.
2. Where restrictions that have members are given further ones, every flag that was kept is still kept, and of any cached flags those
   that are left out now were left out before. -/
theorem uncovered_exactly (f : FlagFilter) :
    (∀ cached, f.uncovered cached = (cached.filter fun flag => f.Refuses flag).map (·.name)) ∧
    ∀ g, f.Grows g →
      (∀ flag, f.keeps flag = true → g.keeps flag = true) ∧ ∀ cached, (g.uncovered cached).Sublist (f.uncovered cached) := by
  constructor
  · intro cached
    have refused (flag : FeatureFlag) : (!f.keeps flag) = decide (f.Refuses flag) := by
      rw [Bool.eq_iff_iff, decide_eq_true_eq, refuses_iff, Bool.not_eq_true']
    unfold uncovered
    rw [List.filter_congr fun flag _ => refused flag]
  · intro g grows
    exact ⟨fun flag => grows.keeps, uncovered_sublist fun flag => grows.keeps⟩

/-- A filter by a name and a leading part. -/
def byNameAndPart : FlagFilter := { names := .ofList ["keep"], prefixes := .ofList ["team"] }

/-- A name starts with underscores, and one has three in a row: what comes before the first two of them is the leading part. Asking for
one more leading part spares the flag that has it. -/
theorem uncovered_exactly_underscores :
    let cached := ["keep", "drop", "__team__a", "other___a", "team__a"].map fun name => flagOf name .empty
    let wider : FlagFilter := { byNameAndPart with prefixes := .ofList ["team", "other"] }
    byNameAndPart.Grows wider ∧
    byNameAndPart.uncovered cached = (cached.filter fun flag => byNameAndPart.Refuses flag).map (·.name) ∧
    byNameAndPart.uncovered cached = ["drop", "__team__a", "other___a"] ∧
    (wider.uncovered cached).Sublist (byNameAndPart.uncovered cached) ∧
    wider.uncovered cached = ["drop", "__team__a"] := by
  intro cached wider
  have grows : byNameAndPart.Grows wider := ⟨.inl rfl, .inr (by decide), .inl rfl⟩
  obtain ⟨exact_, enlarged⟩ := uncovered_exactly byNameAndPart
  exact ⟨grows, exact_ cached, rfl, (enlarged wider grows).2 cached, rfl⟩

end FlagFilter

end FlagKeeper
