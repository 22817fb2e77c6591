import FlagKeeper.Flags.Filter
import Mathlib.Data.Fintype.EquivFin

/-!
# What a filter covers, and what its query text tells of it

A filter covers a flag if each of its restrictions allows the part of the flag that it is about: the sets, the name of a flag without a
leading part, or the leading part of a name. So that one filter covers all that another one covers comes down to the members of the
three restrictions (`covers_iff`), of which those count that are of the kind that the restriction is about.

The query text joins the members with commas. It gives them back as long as they have no commas and ampersands in them, but where there
are sets it has nothing else (`queryText_inj`).
-/

namespace FlagKeeper

/-! ## Leading parts -/

section LeadingPart

variable {name before after : List Char}

theorem splitAtDouble_eq_some (split : splitAtDouble name = some (before, after)) : name = before ++ '_' :: '_' :: after := by
  fun_induction splitAtDouble name generalizing before with
  | case1 rest =>
    cases split
    rfl
  | case2 c rest _ ih =>
    obtain ⟨⟨before', after'⟩, found, same⟩ := Option.map_eq_some_iff.1 split
    cases same
    rw [ih found]
    rfl
  | case3 => cases split

/-- Where the first double underscore is does not depend on what comes after it. -/
theorem splitAtDouble_append (split : splitAtDouble name = some (before, after)) (after' : List Char) :
    splitAtDouble (before ++ '_' :: '_' :: after') = some (before, after') := by
  fun_induction splitAtDouble name generalizing before with
  | case1 rest =>
    cases split
    rfl
  | case2 c rest first ih =>
    obtain ⟨⟨before', after''⟩, found, same⟩ := Option.map_eq_some_iff.1 split
    cases same
    have whole := splitAtDouble_eq_some found
    have later := ih found
    have passed (rest' : List Char) : c :: (before' ++ '_' :: '_' :: after') ≠ '_' :: '_' :: rest' := by
      intro double
      obtain ⟨rfl, starts⟩ := List.cons.inj double
      cases before' with
      | nil => exact first _ rfl (by rw [whole]; rfl)
      | cons d before'' =>
        obtain ⟨rfl, -⟩ := List.cons.inj starts
        exact first _ rfl (by rw [whole]; rfl)
    show splitAtDouble (c :: (before' ++ '_' :: '_' :: after')) = _
    rw [splitAtDouble.eq_2 _ _ (by simpa using passed), later]
    rfl
  | case3 => cases split

/-- A name of so many letters. -/
def lettered (n : Nat) : String := String.ofList (List.replicate (n + 1) 'a')

theorem splitAtDouble_lettered (n : Nat) : splitAtDouble (List.replicate n 'a') = none := by
  induction n with
  | zero => rfl
  | succ n ih =>
    rw [List.replicate_succ, splitAtDouble.eq_2 _ _ (by simp), ih]
    rfl

theorem splitAtDouble_lettered_append (n : Nat) (rest : List Char) :
    splitAtDouble (List.replicate n 'a' ++ '_' :: '_' :: rest) = some (List.replicate n 'a', rest) := by
  induction n with
  | zero => rfl
  | succ n ih =>
    rw [List.replicate_succ, List.cons_append, splitAtDouble.eq_2 _ _ (by simp), ih]
    rfl

end LeadingPart

/-- Whether a name has no leading part. -/
def isPlainName (name : String) : Bool := (leadingPart? name).isNone

/-- Whether a text is the leading part of some name. -/
def isLeadingPart (part : String) : Bool := leadingPart? (part ++ "__x") = some part

/-- The leading part of a name is a leading part. -/
theorem isLeadingPart_of_leadingPart? {name part : String} (found : leadingPart? name = some part) : isLeadingPart part = true := by
  unfold leadingPart? at found
  split at found
  case h_1 before after split =>
    split at found
    case isTrue => cases found
    case isFalse sides =>
      cases found
      have again : splitAtDouble (String.ofList before ++ "__x").toList = some (before, ['x']) := by
        rw [String.toList_append, String.toList_ofList]
        exact splitAtDouble_append split ['x']
      have first : before.isEmpty = false := by
        cases before with
        | nil => simp at sides
        | cons => rfl
      unfold isLeadingPart leadingPart?
      rw [again]
      simp [first]
  case h_2 => cases found

/-- There are names without a leading part that are not in a list. -/
theorem exists_plainName (l : List String) : ∃ x, isPlainName x = true ∧ x ∉ l := by
  obtain ⟨n, apart⟩ := Infinite.exists_notMem_finset (l.map (·.length - 1)).toFinset
  refine ⟨lettered n, ?_, fun inside => apart ?_⟩
  · unfold isPlainName leadingPart? lettered
    rw [String.toList_ofList, splitAtDouble_lettered]
    rfl
  · rw [List.mem_toFinset]
    exact List.mem_map.2 ⟨lettered n, inside, by simp [lettered]⟩

/-- There are leading parts that are not in a list. -/
theorem exists_leadingPart (l : List String) : ∃ x, isLeadingPart x = true ∧ x ∉ l := by
  obtain ⟨n, apart⟩ := Infinite.exists_notMem_finset (l.map (·.length - 1)).toFinset
  refine ⟨lettered n, ?_, fun inside => apart ?_⟩
  · have split : splitAtDouble (lettered n ++ "__x").toList = some (List.replicate (n + 1) 'a', ['x']) := by
      rw [String.toList_append]
      unfold lettered
      rw [String.toList_ofList]
      exact splitAtDouble_lettered_append (n + 1) ['x']
    unfold isLeadingPart leadingPart?
    rw [split]
    exact decide_eq_true rfl
  · rw [List.mem_toFinset]
    exact List.mem_map.2 ⟨lettered n, inside, by simp [lettered]⟩

/-! ## Restrictions -/

namespace NameSet

variable {kind : String → Bool} {s t : NameSet}

/-- Whether a restriction to the names of a set allows a name; an empty set does not restrict. -/
def allows (s : NameSet) (x : String) : Bool := s.isEmpty || s.contains x

/-- A restriction allows no name of a kind. -/
def IsVoid (kind : String → Bool) (s : NameSet) : Prop := s.isEmpty = false ∧ ∀ x ∈ s.toList, kind x = false

/-- Of the names of a kind, a restriction allows no more than another one. -/
def Within (kind : String → Bool) (s t : NameSet) : Prop :=
  t.isEmpty = true ∨ s.isEmpty = false ∧ ∀ x ∈ s.toList, kind x = true → t.contains x = true

theorem contains_iff {x : String} : s.contains x = true ↔ x ∈ s.toList := by
  unfold contains
  simp

theorem allows_of_mem {x : String} (inside : x ∈ s.toList) : s.allows x = true := by
  unfold allows
  rw [contains_iff.2 inside, Bool.or_true]

theorem isVoid_iff (many : ∀ l : List String, ∃ x, kind x = true ∧ x ∉ l) :
    s.IsVoid kind ↔ ∀ x, kind x = true → s.allows x = false := by
  constructor
  · rintro ⟨restricts, none⟩ x ofKind
    have out : s.contains x = false := by
      rw [Bool.eq_false_iff, ne_eq, contains_iff]
      intro inside
      rw [none x inside] at ofKind
      cases ofKind
    unfold allows
    rw [restricts, out]
    rfl
  · intro none
    obtain ⟨x, ofKind, -⟩ := many []
    have refused := none x ofKind
    unfold allows at refused
    refine ⟨(Bool.or_eq_false_iff.1 refused).1, fun y inside => ?_⟩
    by_contra ofKind'
    rw [Bool.not_eq_false] at ofKind'
    have refused' := none y ofKind'
    rw [allows_of_mem inside] at refused'
    cases refused'

/-- There being more names of the kind than any set has, a set that restricts allows less than one that does not. -/
theorem within_iff (many : ∀ l : List String, ∃ x, kind x = true ∧ x ∉ l) :
    s.Within kind t ↔ ∀ x, kind x = true → s.allows x = true → t.allows x = true := by
  constructor
  · rintro (free | ⟨restricts, among⟩) x ofKind allowed
    · unfold allows
      rw [free, Bool.true_or]
    · unfold allows at allowed ⊢
      rw [restricts, Bool.false_or, contains_iff] at allowed
      rw [among x allowed ofKind, Bool.or_true]
  · intro within
    cases free : t.isEmpty with
    | true => exact .inl free
    | false =>
      have inside {x : String} (ofKind : kind x = true) (allowed : s.allows x = true) : t.contains x = true := by
        have allowed' := within x ofKind allowed
        unfold allows at allowed'
        rwa [free, Bool.false_or] at allowed'
      refine .inr ⟨?_, fun x member ofKind => inside ofKind (allows_of_mem member)⟩
      by_contra empty
      rw [Bool.not_eq_false] at empty
      obtain ⟨x, ofKind, out⟩ := many t.toList
      refine out (contains_iff.1 (inside ofKind ?_))
      unfold allows
      rw [empty, Bool.true_or]

/-- The set of one name. -/
def single (x : String) : NameSet := ⟨[x], List.pairwise_singleton _ _⟩

theorem contains_single {x y : String} : (single x).contains y = true ↔ y = x := by
  rw [contains_iff]
  exact List.mem_singleton

theorem isDisjoint_single (s : NameSet) (x : String) : s.isDisjoint (single x) = !s.contains x := by
  unfold isDisjoint
  cases inside : s.contains x with
  | true =>
    refine List.all_eq_false.2 ⟨x, contains_iff.1 inside, ?_⟩
    rw [contains_single.2 rfl]
    exact Bool.false_ne_true
  | false =>
    refine List.all_eq_true.2 fun y member => ?_
    rw [Bool.not_eq_true', Bool.eq_false_iff, ne_eq, contains_single]
    rintro rfl
    rw [contains_iff.2 member] at inside
    cases inside

end NameSet

/-! ## Filters -/

namespace FlagFilter

variable {f g : FlagFilter}

/-- Whether the restriction to some sets allows the sets of a flag. -/
def admitsSets (f : FlagFilter) (sets : NameSet) : Bool := f.sets.isEmpty || !f.sets.isDisjoint sets

/-- Whether the restrictions of the name allow a name. -/
def admitsName (f : FlagFilter) (name : String) : Bool :=
  match leadingPart? name with
  | none => f.names.allows name
  | some part => f.prefixes.allows part

theorem keeps_eq (f : FlagFilter) (flag : FeatureFlag) : f.keeps flag = (f.admitsSets flag.sets && f.admitsName flag.name) := by
  unfold keeps admitsSets admitsName NameSet.allows
  cases f.sets.isEmpty <;> cases f.sets.isDisjoint flag.sets <;> cases leadingPart? flag.name <;> rfl

theorem admitsName_plain {name : String} (plain : isPlainName name = true) : f.admitsName name = f.names.allows name := by
  unfold isPlainName at plain
  unfold admitsName
  rw [Option.isNone_iff_eq_none.1 plain]

theorem admitsName_leading {part : String} (leading : isLeadingPart part = true) :
    f.admitsName (part ++ "__x") = f.prefixes.allows part := by
  unfold isLeadingPart at leading
  unfold admitsName
  rw [of_decide_eq_true leading]

theorem admitsSets_single (f : FlagFilter) (x : String) : f.admitsSets (.single x) = f.sets.allows x := by
  unfold admitsSets NameSet.allows
  rw [NameSet.isDisjoint_single, Bool.not_not]

/-- There are sets that the restriction to some sets allows. -/
theorem exists_admitsSets (f : FlagFilter) : ∃ sets, f.admitsSets sets = true := by
  cases members : f.sets.toList with
  | nil =>
    refine ⟨.empty, ?_⟩
    unfold admitsSets NameSet.isEmpty
    rw [members]
    rfl
  | cons x rest =>
    refine ⟨.single x, ?_⟩
    rw [admitsSets_single]
    exact NameSet.allows_of_mem (members ▸ List.mem_cons_self)

/-- A filter covers no flag, for its restrictions of the name have no member of their kind. -/
def CoversNothing (f : FlagFilter) : Prop := f.names.IsVoid isPlainName ∧ f.prefixes.IsVoid isLeadingPart

/-- The restrictions of a filter allow no more than those of another one. -/
structure Within (f g : FlagFilter) : Prop where
  names : f.names.Within isPlainName g.names
  prefixes : f.prefixes.Within isLeadingPart g.prefixes
  sets : f.sets.Within (fun _ => true) g.sets

theorem coversNothing_iff : f.CoversNothing ↔ ∀ name, f.admitsName name = false := by
  unfold CoversNothing
  rw [NameSet.isVoid_iff exists_plainName, NameSet.isVoid_iff exists_leadingPart]
  constructor
  · rintro ⟨names, prefixes⟩ name
    unfold admitsName
    cases found : leadingPart? name with
    | none => exact names name (Option.isNone_iff_eq_none.2 found)
    | some part => exact prefixes part (isLeadingPart_of_leadingPart? found)
  · intro none
    refine ⟨fun name plain => ?_, fun part leading => ?_⟩
    · rw [← admitsName_plain plain, none]
    · rw [← admitsName_leading leading, none]

/-- A flag of a name and some sets. -/
def flagOf (name : String) (sets : NameSet) : FeatureFlag := ⟨name, 0, sets, false, ""⟩

theorem Within.admitsName (h : f.Within g) {name : String} (admitted : f.admitsName name = true) : g.admitsName name = true := by
  unfold FlagFilter.admitsName at admitted ⊢
  cases found : leadingPart? name with
  | none =>
    rw [found] at admitted
    exact (NameSet.within_iff exists_plainName).1 h.names name (Option.isNone_iff_eq_none.2 found) admitted
  | some part =>
    rw [found] at admitted
    exact (NameSet.within_iff exists_leadingPart).1 h.prefixes part (isLeadingPart_of_leadingPart? found) admitted

theorem Within.admitsSets (h : f.Within g) {sets : NameSet} (admitted : f.admitsSets sets = true) : g.admitsSets sets = true := by
  unfold FlagFilter.admitsSets at admitted ⊢
  rcases h.sets with free | ⟨restricts, among⟩
  · rw [free, Bool.true_or]
  · rw [restricts, Bool.false_or, Bool.not_eq_true', ← Bool.not_eq_true] at admitted
    unfold NameSet.isDisjoint at admitted ⊢
    rw [List.all_eq_true] at admitted
    push Not at admitted
    obtain ⟨x, member, common⟩ := admitted
    have shared : g.sets.toList.all (fun x => !sets.contains x) = false := by
      rw [List.all_eq_false]
      exact ⟨x, NameSet.contains_iff.1 (among x member rfl), common⟩
    rw [shared, Bool.not_false, Bool.or_true]

/-- **What a filter covers.** Another filter covers all flags that a filter covers just if that covers none, or if its restrictions
allow no more. -/
theorem covers_iff (f g : FlagFilter) :
    (∀ flag, f.keeps flag = true → g.keeps flag = true) ↔ f.CoversNothing ∨ f.Within g := by
  constructor
  · intro covers
    by_cases nothing : f.CoversNothing
    · exact .inl nothing
    · have transfer {name : String} {sets : NameSet} (named : f.admitsName name = true) (shared : f.admitsSets sets = true) :
          g.admitsName name = true ∧ g.admitsSets sets = true := by
        have kept := covers (flagOf name sets) (by rw [keeps_eq]; exact Bool.and_eq_true_iff.2 ⟨shared, named⟩)
        rw [keeps_eq] at kept
        exact (Bool.and_eq_true_iff.1 kept).symm
      obtain ⟨sets, shared⟩ := f.exists_admitsSets
      rw [coversNothing_iff] at nothing
      push Not at nothing
      obtain ⟨name, named⟩ := nothing
      have named : f.admitsName name = true := by simpa using named
      refine .inr ⟨?_, ?_, ?_⟩
      · refine (NameSet.within_iff exists_plainName).2 fun x plain allowed => ?_
        rw [← admitsName_plain plain] at allowed ⊢
        exact (transfer allowed shared).1
      · refine (NameSet.within_iff exists_leadingPart).2 fun x leading allowed => ?_
        rw [← admitsName_leading leading] at allowed ⊢
        exact (transfer allowed shared).1
      · refine (NameSet.within_iff fun l => (exists_plainName l).imp fun x => And.imp_left fun _ => rfl).2 fun x _ allowed => ?_
        rw [← admitsSets_single] at allowed ⊢
        exact (transfer named allowed).2
  · rintro (nothing | within) flag kept
    · rw [keeps_eq, coversNothing_iff.1 nothing, Bool.and_false] at kept
      cases kept
    · rw [keeps_eq, Bool.and_eq_true_iff] at kept ⊢
      exact ⟨within.admitsSets kept.1, within.admitsName kept.2⟩

/-! ## Query texts -/

/-- No member of a set has a comma or an ampersand in it. -/
def IsClean (s : NameSet) : Prop := ∀ x ∈ s.toList, ',' ∉ x.toList ∧ '&' ∉ x.toList

/-- No member of a filter has a comma or an ampersand in it. -/
structure IsLegible (f : FlagFilter) : Prop where
  names : IsClean f.names
  prefixes : IsClean f.prefixes
  sets : IsClean f.sets

/-- The members of a restriction with commas between them, letter by letter. -/
def joined (s : NameSet) : List Char := [','].intercalate (s.toList.map String.toList)

/-- A restriction in a query text, letter by letter; nothing where it does not restrict. -/
def clause (tag : List Char) (s : NameSet) : List Char := if s.isEmpty then [] else '&' :: tag ++ joined s

theorem toList_queryText (f : FlagFilter) : f.queryText.toList =
    if f.sets.isEmpty then
      clause ['n', 'a', 'm', 'e', 's', '='] f.names ++ clause ['p', 'r', 'e', 'f', 'i', 'x', 'e', 's', '='] f.prefixes
    else clause ['s', 'e', 't', 's', '='] f.sets := by
  have joins (s : NameSet) : s.commaSeparated.toList = joined s := String.toList_intercalate
  unfold queryText clause
  cases f.sets.isEmpty with
  | false =>
    simp only [Bool.not_false, if_true, Bool.false_eq_true, if_false, String.toList_append, joins]
    rfl
  | true =>
    cases f.names.isEmpty <;> cases f.prefixes.isEmpty <;>
      simp only [Bool.not_true, Bool.false_eq_true, if_true, if_false, String.toList_append, joins] <;> rfl

section Legible

variable {s t : NameSet} {tag : List Char}

/-- Commas give the members back. -/
theorem joined_inj (clean : IsClean s) (clean' : IsClean t) (restricts : s.isEmpty = false) (restricts' : t.isEmpty = false)
    (same : joined s = joined t) : s = t := by
  have members {s : NameSet} (clean : IsClean s) (restricts : s.isEmpty = false) :
      List.splitOn ',' (joined s) = s.toList.map String.toList := by
    refine List.splitOn_intercalate ',' ?_ ?_
    · intro letters inside
      obtain ⟨x, member, rfl⟩ := List.mem_map.1 inside
      exact (clean x member).1
    · intro none
      have empty : s.toList = [] := List.map_eq_nil_iff.1 none
      unfold NameSet.isEmpty at restricts
      rw [empty] at restricts
      cases restricts
  have same' : s.toList.map String.toList = t.toList.map String.toList := by
    rw [← members clean restricts, ← members clean' restricts', same]
  exact NameSet.ext (List.map_injective_iff.2 (fun _ _ => String.toList_inj.1) same')

theorem mem_intercalate {c d : Char} {lines : List (List Char)} (inside : c ∈ [d].intercalate lines) :
    c = d ∨ ∃ l ∈ lines, c ∈ l := by
  induction lines with
  | nil => simp at inside
  | cons first rest ih =>
    cases rest with
    | nil => exact .inr ⟨first, List.mem_cons_self, by simpa using inside⟩
    | cons second rest =>
      rw [List.intercalate_cons_cons, List.mem_append, List.mem_append, List.mem_singleton] at inside
      rcases inside with (own | comma) | later
      · exact .inr ⟨first, List.mem_cons_self, own⟩
      · exact .inl comma
      · exact (ih later).imp_right fun ⟨l, member, inside⟩ => ⟨l, List.mem_cons_of_mem _ member, inside⟩

/-- There is no ampersand in the members. -/
theorem not_mem_joined (clean : IsClean s) : '&' ∉ joined s := by
  intro inside
  rcases mem_intercalate inside with comma | ⟨letters, member, inside⟩
  · cases comma
  · obtain ⟨x, among, rfl⟩ := List.mem_map.1 member
    exact (clean x among).2 inside

theorem clause_free (tag : List Char) (free : s.isEmpty = true) : clause tag s = [] := if_pos free

theorem clause_restricts (tag : List Char) (restricts : s.isEmpty = false) : clause tag s = '&' :: tag ++ joined s :=
  if_neg (by simp [restricts])

theorem clause_inj (clean : IsClean s) (clean' : IsClean t) (same : clause tag s = clause tag t) : s = t := by
  cases restricts : s.isEmpty with
  | true =>
    cases restricts' : t.isEmpty with
    | true => exact NameSet.ext ((List.isEmpty_iff.1 restricts).trans (List.isEmpty_iff.1 restricts').symm)
    | false =>
      rw [clause_free tag restricts, clause_restricts tag restricts'] at same
      cases same
  | false =>
    rw [clause_restricts tag restricts] at same
    cases restricts' : t.isEmpty with
    | true =>
      rw [clause_free tag restricts'] at same
      cases same
    | false =>
      rw [clause_restricts tag restricts'] at same
      exact joined_inj clean clean' restricts restricts' (List.append_cancel_left same)

/-- Up to the first ampersand, which starts the clause that comes next. -/
theorem takeWhile_joined_append (clean : IsClean s) (next : NameSet) :
    (joined s ++ clause tag next).takeWhile (· ≠ '&') = joined s := by
  have stops : (clause tag next).takeWhile (· ≠ '&') = [] := by
    unfold clause
    split <;> rfl
  rw [List.takeWhile_append_of_pos fun c inside => by
    have other : c ≠ '&' := fun same => not_mem_joined clean (same ▸ inside)
    simpa using other, stops, List.append_nil]

/-- Two clauses in a row, of kinds that start with different letters, can be told apart. -/
theorem clauses_inj {a b : Char} {tag' : List Char} {next next' : NameSet} (differ : a ≠ b)
    (clean : IsClean s) (clean' : IsClean t)
    (same : clause (a :: tag) s ++ clause (b :: tag') next = clause (a :: tag) t ++ clause (b :: tag') next') :
    clause (a :: tag) s = clause (a :: tag) t ∧ clause (b :: tag') next = clause (b :: tag') next' := by
  have apart {next : NameSet} {letters : List Char} : clause (b :: tag') next ≠ '&' :: a :: letters := by
    intro starts
    unfold clause at starts
    split at starts
    · cases starts
    · exact differ (List.cons.inj (List.cons.inj starts).2).1.symm
  cases restricts : s.isEmpty with
  | true =>
    rw [clause_free _ restricts] at same ⊢
    cases restricts' : t.isEmpty with
    | true =>
      rw [clause_free _ restricts'] at same ⊢
      exact ⟨rfl, same⟩
    | false =>
      rw [clause_restricts _ restricts'] at same
      exact absurd same apart
  | false =>
    rw [clause_restricts _ restricts] at same ⊢
    cases restricts' : t.isEmpty with
    | true =>
      rw [clause_free _ restricts'] at same
      exact absurd same.symm apart
    | false =>
      rw [clause_restricts _ restricts'] at same ⊢
      rw [List.append_assoc, List.append_assoc] at same
      have rest := List.append_cancel_left same
      have first : joined s = joined t := by
        rw [← takeWhile_joined_append clean next, rest, takeWhile_joined_append clean' next']
      rw [first] at rest ⊢
      exact ⟨rfl, List.append_cancel_left rest⟩

/-- The text of a filter with sets starts like no other. -/
theorem clauses_ne_sets {next : NameSet} {tag' tag'' : List Char} (restricts : s.isEmpty = false) :
    clause ('n' :: tag) t ++ clause ('p' :: tag') next ≠ clause ('s' :: tag'') s := by
  rw [clause_restricts _ restricts]
  unfold clause
  split <;> split <;> exact nofun

end Legible

/-- What the query text tells of a filter without commas and ampersands in its members: its sets, and all of it if there are none. -/
theorem queryText_inj (legible : f.IsLegible) (legible' : g.IsLegible) (same : f.queryText = g.queryText) :
    f.sets = g.sets ∧ (f.sets.isEmpty = true → f = g) := by
  have letters := congrArg String.toList same
  rw [toList_queryText, toList_queryText] at letters
  cases restricts : f.sets.isEmpty with
  | false =>
    refine ⟨?_, fun free => by cases free⟩
    cases restricts' : g.sets.isEmpty with
    | false =>
      rw [restricts, restricts'] at letters
      exact clause_inj legible.sets legible'.sets letters
    | true =>
      rw [restricts, restricts'] at letters
      exact absurd letters.symm (clauses_ne_sets restricts)
  | true =>
    cases restricts' : g.sets.isEmpty with
    | false =>
      rw [restricts, restricts'] at letters
      exact absurd letters (clauses_ne_sets restricts')
    | true =>
      rw [restricts, restricts'] at letters
      obtain ⟨named, leading⟩ := clauses_inj (by decide) legible.names legible'.names letters
      have names : f.names = g.names := clause_inj legible.names legible'.names named
      have prefixes : f.prefixes = g.prefixes := clause_inj legible.prefixes legible'.prefixes leading
      have sets : f.sets = g.sets := NameSet.ext ((List.isEmpty_iff.1 restricts).trans (List.isEmpty_iff.1 restricts').symm)
      refine ⟨sets, fun _ => ?_⟩
      obtain ⟨_, _, _⟩ := f
      obtain ⟨_, _, _⟩ := g
      cases names
      cases prefixes
      cases sets
      rfl

end FlagFilter

end FlagKeeper
