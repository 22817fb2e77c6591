import FlagKeeper.Proofs.Codec.Fields
import FlagKeeper.Proofs.Number.Finite
import Mathlib.Data.List.Forall2

/-!
# Decoders of single values

What each decoder makes of what its values are written as, and what can be said of any value that it makes of a proper document: an
integer has 64 bits, a number is finite, a set of names comes out in order, and a table has its names in order.
-/

namespace FlagKeeper

/-! ## Sets of names -/

namespace NameSet

/-- A name behind all others is put at the end. -/
theorem place_of_forall_lt {x : String} {ys : List String} (behind : ∀ y ∈ ys, y < x) : place x ys = ys ++ [x] := by
  induction ys with
  | nil => rfl
  | cons y ys ih =>
    obtain ⟨first, rest⟩ := List.forall_mem_cons.1 behind
    rw [place, if_neg (String.lt_asymm first), if_pos first, ih rest, List.cons_append]

/-- Names in order are put one behind the other. -/
theorem toList_foldl_insert {xs : List String} {s : NameSet} (ascending : (s.toList ++ xs).Pairwise (· < ·)) :
    (xs.foldl insert s).toList = s.toList ++ xs := by
  induction xs generalizing s with
  | nil => exact (List.append_nil _).symm
  | cons x xs ih =>
    have behind : ∀ y ∈ s.toList, y < x := fun y inside => (List.pairwise_append.1 ascending).2.2 y inside x List.mem_cons_self
    have placed : (s.insert x).toList = s.toList ++ [x] := place_of_forall_lt behind
    rw [List.foldl_cons, ih, placed, List.append_assoc, List.singleton_append]
    rw [placed, List.append_assoc]
    exact ascending

/-- A set is that of its names. -/
theorem ofList_toList (s : NameSet) : ofList s.toList = s := ext (toList_foldl_insert s.ascending)

end NameSet

namespace Decoder

variable {α β : Type}

/-! ## What is read back -/

section Back

theorem string_str (s : String) : string (.str s) = .ok s := rfl

theorem bool_bool (b : Bool) : bool (.bool b) = .ok b := rfl

theorem int64_int {n : Int} (fits : fitsSigned n = true) : int64 (.int n) = .ok n := if_pos fits

theorem nat64_int (kind : String) {n : Nat} (fits : n < wordCount) : nat64 kind (.int n) = .ok n := by
  have inside : fitsUnsigned n = true := by
    simp only [fitsUnsigned, Bool.and_eq_true, decide_eq_true_eq]
    omega
  unfold nat64
  dsimp only
  rw [if_pos inside, Int.toNat_natCast]

theorem double_number {x : Double} (finite : x.isFinite = true) : double (.number x) = .ok x := by
  rw [Json.number, if_pos finite]
  rfl

theorem number_ne_null {x : Double} (finite : x.isFinite = true) : Json.number x ≠ .null := by
  rw [Json.number, if_pos finite]
  exact nofun

/-- Elements are read one by one. -/
theorem mapM_ok {ε : Type} {f : α → Except ε β} {xs : List α} {ys : List β} :
    xs.mapM f = .ok ys ↔ List.Forall₂ (fun x y => f x = .ok y) xs ys := by
  induction xs generalizing ys with
  | nil =>
    rw [List.mapM_nil, List.forall₂_nil_left_iff]
    exact ⟨fun same => by cases same; rfl, fun none => by rw [none]; rfl⟩
  | cons x xs ih =>
    rw [List.mapM_cons, bind_eq_ok]
    constructor
    · rintro ⟨y, first, read⟩
      obtain ⟨others, later, same⟩ := bind_eq_ok.1 read
      cases same
      exact .cons first (ih.1 later)
    · intro each
      cases each with
      | cons head tail => exact ⟨_, head, bind_eq_ok.2 ⟨_, ih.2 tail, rfl⟩⟩

theorem nameSet_strings (s : NameSet) : nameSet (.strings s.toList) = .ok s := by
  have texts : list string (.strings s.toList) = .ok s.toList := by
    show (s.toList.map Json.str).mapM string = .ok s.toList
    rw [mapM_ok, List.forall₂_map_left_iff, List.forall₂_same]
    exact fun _ _ => rfl
  unfold nameSet
  rw [texts]
  exact congrArg Except.ok s.ofList_toList

/-- A table is read entry by entry. -/
theorem table_obj {decode : Decoder α} {fields : List (String × Json)} {entries : List (String × α)} :
    table decode (.obj fields) = .ok entries ↔
      List.Forall₂ (fun field entry => field.1 = entry.1 ∧ decode field.2 = .ok entry.2) fields entries := by
  show (fields.mapM fun field => (field.1, ·) <$> decode field.2) = .ok entries ↔ _
  rw [mapM_ok]
  refine ⟨fun each => each.imp fun field entry read => ?_, fun each => each.imp fun field entry read => ?_⟩
  · obtain ⟨a, decoded, same⟩ := map_eq_ok.1 (read : (field.1, ·) <$> decode field.2 = .ok entry)
    cases same
    exact ⟨rfl, decoded⟩
  · exact map_eq_ok.2 ⟨entry.2, read.2, Prod.ext read.1 rfl⟩

/-- A table of any documents is read as it is. -/
theorem table_any (entries : List (String × Json)) : table any (.obj entries) = .ok entries :=
  table_obj.2 (List.forall₂_same.2 fun _ _ => ⟨rfl, rfl⟩)

/-- A table of written values is read back. -/
theorem table_map {decode : Decoder α} {encode : α → Json} {entries : List (String × α)}
    (back : ∀ entry ∈ entries, decode (encode entry.2) = .ok entry.2) :
    table decode (.obj (entries.map fun entry => (entry.1, encode entry.2))) = .ok entries := by
  rw [table_obj, List.forall₂_map_left_iff, List.forall₂_same]
  exact fun entry inside => ⟨rfl, back entry inside⟩

end Back

/-! ## What can be said of what is read -/

theorem yields_int64 : Yields int64 fun n => fitsSigned n = true := by
  intro j n _ read
  cases j with
  | int m =>
    unfold int64 at read
    dsimp only at read
    split at read
    · next fits =>
      cases read
      exact fits
    · cases read
  | _ => cases read

theorem yields_nat64 (kind : String) : Yields (nat64 kind) fun n => n < wordCount := by
  intro j n _ read
  cases j with
  | int m =>
    unfold nat64 at read
    dsimp only at read
    split at read
    · next fits =>
      cases read
      simp only [fitsUnsigned, Bool.and_eq_true, decide_eq_true_eq] at fits
      omega
    · cases read
  | _ => cases read

theorem yields_double : Yields double fun x => x.isFinite = true := by
  intro j x proper read
  cases proper with
  | int fits =>
    cases read
    exact Double.isFinite_ofInt fits
  | float finite =>
    cases read
    exact finite
  | _ => cases read

theorem yields_any : Yields any Json.IsProper := by
  intro j a proper read
  cases read
  exact proper

/-- The names of a table are in order, and its values have what its decoder yields. -/
theorem yields_table {decode : Decoder α} {P : α → Prop} (yields : Yields decode P) :
    Yields (table decode) fun entries => (entries.map (·.1)).Pairwise (· < ·) ∧ ∀ entry ∈ entries, P entry.2 := by
  intro j entries proper read
  cases proper with
  | obj ascending contents =>
    next fields =>
    have each := table_obj.1 read
    have names : entries.map (·.1) = fields.map (·.1) := by
      clear read ascending contents
      induction each with
      | nil => rfl
      | cons head _ ih => rw [List.map_cons, List.map_cons, ih, head.1]
    refine ⟨names ▸ ascending, ?_⟩
    clear read ascending names
    induction each with
    | nil => exact List.forall_mem_nil _
    | cons head _ ih =>
      obtain ⟨first, rest⟩ := List.forall_mem_cons.1 contents
      exact List.forall_mem_cons.2 ⟨yields _ _ first head.2, ih rest⟩
  | _ => cases read

end Decoder

end FlagKeeper
