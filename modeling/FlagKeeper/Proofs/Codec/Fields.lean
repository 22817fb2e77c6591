import FlagKeeper.Codec.Decoder
import Mathlib.Data.List.Nodup

/-!
# Reading fields

A description of fields serves for both forms of a value, the record and the list of all fields. What is shown here of each way to
put a description together goes for all descriptions: which value a record and a list give (`Fields.Gives`), what can be said of any
value that is read (`Fields.Yields`), and that a record with all fields is read as the list of them is (`Fields.IsEven`).

The documents are those that a text may have (`Json.IsProper`): their integers have 64 bits, their other numbers are finite, and the
fields of a record stand in ascending order.
-/

namespace FlagKeeper

/-- A document that a text may have. -/
inductive Json.IsProper : Json → Prop
  | null : IsProper .null
  | bool (b : Bool) : IsProper (.bool b)
  | int {n : Int} : (fitsSigned n || fitsUnsigned n) = true → IsProper (.int n)
  | float {x : Double} : x.isFinite = true → IsProper (.float x)
  | str (s : String) : IsProper (.str s)
  | arr {elements : List Json} : (∀ j ∈ elements, IsProper j) → IsProper (.arr elements)
  | obj {fields : List (String × Json)} : (fields.map (·.1)).Pairwise (· < ·) → (∀ entry ∈ fields, IsProper entry.2) →
      IsProper (.obj fields)

/-! ## What is read in two steps -/

section Steps

variable {ε α β : Type} {x : Except ε α} {b : β}

theorem bind_eq_ok {f : α → Except ε β} : (x >>= f) = .ok b ↔ ∃ a, x = .ok a ∧ f a = .ok b := by
  cases x with
  | error e => exact iff_of_false nofun fun ⟨_, failed, _⟩ => nomatch failed
  | ok a => exact ⟨fun read => ⟨a, rfl, read⟩, fun ⟨_, same, read⟩ => by cases same; exact read⟩

theorem map_eq_ok {f : α → β} : f <$> x = .ok b ↔ ∃ a, x = .ok a ∧ f a = b := by
  cases x with
  | error e => exact iff_of_false nofun fun ⟨_, failed, _⟩ => nomatch failed
  | ok a => exact ⟨fun read => ⟨a, rfl, Except.ok.inj read⟩, fun ⟨_, same, made⟩ => by cases same; cases made; rfl⟩

end Steps

/-! ## Fields of a record -/

section Records

variable {fields : List (String × Json)} {entries : List (String × Option Json)} {name : String}

theorem Json.mem_of_field? {j : Json} (found : Json.field? fields name = some j) : (name, j) ∈ fields := by
  obtain ⟨first, last, rfl, -⟩ := List.lookup_eq_some_iff.1 found
  simp

/-- The names of the fields that are there are still in order. -/
theorem ascending_presentFields (ascending : (entries.map (·.1)).Pairwise (· < ·)) :
    ((presentFields entries).map (·.1)).Pairwise (· < ·) := by
  refine ascending.sublist ?_
  induction entries with
  | nil => exact .slnil
  | cons entry rest ih =>
    have later := ih (List.pairwise_cons.1 ascending).2
    obtain ⟨name, content⟩ := entry
    cases content with
    | none => exact later.cons _
    | some j => exact later.cons_cons _

/-- Each field is found under its name. -/
theorem Json.field?_of_mem {j : Json} (ascending : (fields.map (·.1)).Pairwise (· < ·)) (inside : (name, j) ∈ fields) :
    Json.field? fields name = some j := by
  induction fields with
  | nil => cases inside
  | cons field rest ih =>
    obtain ⟨first, j'⟩ := field
    have later := List.pairwise_cons.1 ascending
    rcases List.mem_cons.1 inside with same | there
    · cases same
      exact List.lookup_cons_self
    · have before : first < name := later.1 name (List.mem_map.2 ⟨_, there, rfl⟩)
      have other : (name == first) = false := beq_eq_false_iff_ne.2 (String.ne_of_lt before).symm
      rw [Json.field?, List.lookup_cons, other]
      exact ih later.2 there

/-- A field that may be written is found if it is there, and not otherwise. -/
theorem field?_presentFields (ascending : (entries.map (·.1)).Pairwise (· < ·)) {content : Option Json}
    (inside : (name, content) ∈ entries) : Json.field? (presentFields entries) name = content := by
  cases content with
  | some j => exact Json.field?_of_mem (ascending_presentFields ascending) (List.mem_filterMap.2 ⟨_, inside, rfl⟩)
  | none =>
    have distinct : (entries.map (·.1)).Nodup := ascending.imp fun before => String.ne_of_lt before
    rw [Json.field?, List.lookup_eq_none_iff]
    intro field there
    obtain ⟨⟨other, content⟩, among, here⟩ := List.mem_filterMap.1 there
    obtain ⟨j, present, rfl⟩ := Option.map_eq_some_iff.1 here
    refine bne_iff_ne.2 fun same => ?_
    have one : (name, none) = (other, content) := List.inj_on_of_nodup_map distinct inside among same
    cases one
    cases present

theorem isProper_presentFields (ascending : (entries.map (·.1)).Pairwise (· < ·))
    (proper : ∀ entry ∈ entries, ∀ j ∈ entry.2, j.IsProper) : (Json.obj (presentFields entries)).IsProper := by
  refine .obj (ascending_presentFields ascending) fun entry inside => ?_
  obtain ⟨⟨name, content⟩, there, here⟩ := List.mem_filterMap.1 inside
  obtain ⟨j, content, rfl⟩ := Option.map_eq_some_iff.1 here
  exact proper _ there j content

end Records

/-! ## Fields off a list -/

section Lists

variable {α β : Type} (f : Field α) (shape : String) (taken : Nat)

/-- The next element of a list is that of the field. -/
theorem Field.inList_cons (j : Json) (rest : List Json) :
    (f.inList shape).run (taken, j :: rest) = (fun a => (a, taken + 1, rest)) <$> f.decode j := rfl

/-- Past the end of a list there may be a default. -/
theorem Field.inList_nil : (f.inList shape).run (taken, []) =
    match f.absence with
    | .inBoth value => .ok (value, taken, [])
    | _ => .error (.wrongLength taken shape) := by
  unfold Field.inList
  cases f.absence <;> rfl

/-- One more field is read off what the others leave. -/
theorem Fields.inList_also (fs : Fields (α → β)) (elements : List Json) :
    ((fs.also f).inList shape).run (taken, elements) =
      (fs.inList shape).run (taken, elements) >>= fun (g, st) =>
        (fun (a, st) => (g a, st)) <$> (f.inList shape).run st := by
  show ((fs.inList shape >>= fun g => g <$> f.inList shape).run (taken, elements)) = _
  simp only [StateT.run_bind, StateT.run_map]

end Lists

/-! ## Values that may be `null` -/

section Optional

variable {α : Type} {decode : Decoder α} {j : Json} {a : α}

theorem Decoder.optional_of_ne_null (solid : j ≠ .null) : Decoder.optional decode j = some <$> decode j := by
  cases j with
  | null => exact absurd rfl solid
  | _ => rfl

theorem Decoder.optional_some (solid : j ≠ .null) : Decoder.optional decode j = .ok (some a) ↔ decode j = .ok a := by
  rw [Decoder.optional_of_ne_null solid, map_eq_ok]
  exact ⟨fun ⟨_, read, same⟩ => by cases same; exact read, fun read => ⟨a, read, rfl⟩⟩

end Optional

/-! ## Values that are given -/

section Given

variable {α β : Type} {fields : List (String × Json)} {elements : List Json} {j : Json} {a : α}

/-- The fields of a record, and an element of a list, give a field its value. -/
structure Field.Gives (f : Field α) (fields : List (String × Json)) (element : Json) (a : α) : Prop where
  record : f.inRecord fields = .ok a
  element : f.decode element = .ok a

namespace Field.Gives

variable {name : String} {decode : Decoder α}

theorem required (j : Json) (found : Json.field? fields name = some j) (decodes : decode j = .ok a) :
    (Field.required name decode).Gives fields j a := by
  refine ⟨?_, decodes⟩
  unfold Field.inRecord Field.required
  rw [found]
  exact decodes

theorem withDefault (j : Json) {value : α} (found : Json.field? fields name = some j) (decodes : decode j = .ok a) :
    (Field.withDefault name decode value).Gives fields j a := by
  refine ⟨?_, decodes⟩
  unfold Field.inRecord Field.withDefault
  rw [found]
  exact decodes

/-- A record may leave out a default. -/
theorem default (j : Json) {value : α} (absent : Json.field? fields name = none) (decodes : decode j = .ok value) :
    (Field.withDefault name decode value).Gives fields j value := by
  refine ⟨?_, decodes⟩
  unfold Field.inRecord Field.withDefault
  rw [absent]

/-- A record leaves out what there is not, and a list has `null` for it. -/
theorem optional (encode : α → Json) {value : Option α} (found : Json.field? fields name = value.map encode)
    (decodes : ∀ a ∈ value, decode (encode a) = .ok a) (solid : ∀ a ∈ value, encode a ≠ .null) :
    (Field.optional name decode).Gives fields (value.elim .null encode) value := by
  unfold Field.optional
  cases value with
  | none =>
    refine ⟨?_, rfl⟩
    unfold Field.inRecord
    rw [found]
    rfl
  | some a =>
    have reads : Decoder.optional decode (encode a) = .ok (some a) := (Decoder.optional_some (solid a rfl)).2 (decodes a rfl)
    refine ⟨?_, reads⟩
    unfold Field.inRecord
    rw [found]
    exact reads

end Field.Gives

/-- The fields of a record, and the elements of a list, give a value. -/
structure Fields.Gives (fs : Fields α) (fields : List (String × Json)) (elements : List Json) (a : α) : Prop where
  record : fs.inRecord fields = .ok a
  list : ∀ shape taken rest, (fs.inList shape).run (taken, elements ++ rest) = .ok (a, taken + elements.length, rest)

namespace Fields.Gives

theorem none (a : α) : (Fields.none a).Gives fields [] a := ⟨rfl, fun _ _ _ => rfl⟩

theorem also {fs : Fields (α → β)} {f : Field α} {g : α → β} (given : fs.Gives fields elements g) (more : f.Gives fields j a) :
    (fs.also f).Gives fields (elements ++ [j]) (g a) := by
  constructor
  · show (fs.inRecord fields >>= fun g => g <$> f.inRecord fields) = .ok (g a)
    rw [given.record, more.record]
    rfl
  · intro shape taken rest
    rw [Fields.inList_also, List.append_assoc, given.list, List.length_append, ← Nat.add_assoc]
    show (fun p => (g p.1, p.2)) <$> (f.inList shape).run (taken + elements.length, j :: rest) = _
    rw [Field.inList_cons, more.element]
    rfl

end Fields.Gives

end Given

/-! ## Records and lists -/

section Forms

variable {α β : Type} {fields : List (String × Json)} {elements : List Json} {j : Json}

/-- A field that is there was decoded. -/
theorem Field.decode_of_inRecord {f : Field α} {a : α} (read : f.inRecord fields = .ok a)
    (found : Json.field? fields f.name = some j) : f.decode j = .ok a := by
  unfold Field.inRecord at read
  rwa [found] at read

/-- All fields of a record are read, or none. -/
theorem Fields.inRecord_also_ok {fs : Fields (α → β)} {f : Field α} {b : β} (read : (fs.also f).inRecord fields = .ok b) :
    ∃ g a, fs.inRecord fields = .ok g ∧ f.inRecord fields = .ok a ∧ g a = b := by
  obtain ⟨g, first, read⟩ := bind_eq_ok.1 (read : (fs.inRecord fields >>= fun g => g <$> f.inRecord fields) = .ok b)
  obtain ⟨a, last, same⟩ := map_eq_ok.1 read
  exact ⟨g, a, first, last, same⟩

/-- A description that reads a record and a list alike: what a record gives was checked field by field, and a record with all fields
gives what the list of them gives. -/
class Fields.IsEven (fs : Fields α) : Prop where
  checked : ∀ fields a, fs.inRecord fields = .ok a →
    ∀ entry ∈ fs.checks, ∀ j, Json.field? fields entry.1 = some j → entry.2 j = .ok ()
  whole : ∀ fields elements, fs.names.map (Json.field? fields) = elements.map some → ∀ shape taken rest,
    (fs.inList shape).run (taken, elements ++ rest) = (fun a => (a, taken + elements.length, rest)) <$> fs.inRecord fields

namespace Fields

instance (a : α) : (Fields.none a).IsEven where
  checked _ _ _ entry inside := by cases inside
  whole fields elements all := by
    cases elements with
    | nil => exact fun _ _ _ => rfl
    | cons j rest => cases all

instance (fs : Fields (α → β)) [even : fs.IsEven] (f : Field α) : (fs.also f).IsEven where
  checked fields b read entry inside j found := by
    obtain ⟨g, a, first, last, -⟩ := inRecord_also_ok read
    rcases List.mem_append.1 inside with earlier | own
    · exact even.checked fields g first entry earlier j found
    · cases List.mem_singleton.1 own
      show (fun _ => ()) <$> f.decode j = .ok ()
      rw [Field.decode_of_inRecord last found]
      rfl
  whole fields elements all shape taken rest := by
    have split : elements.map some = fs.names.map (Json.field? fields) ++ [Json.field? fields f.name] := by
      rw [← all]
      exact List.map_append
    obtain ⟨before, last, rfl, earlier, own⟩ := List.map_eq_append_iff.1 split
    obtain ⟨j, rfl, found⟩ := List.map_eq_singleton_iff.1 own
    have here : f.inRecord fields = f.decode j := by
      unfold Field.inRecord
      rw [← found]
    rw [inList_also, List.append_assoc, even.whole fields before earlier.symm, List.length_append, ← Nat.add_assoc]
    show _ = (fun a => (a, taken + before.length + 1, rest)) <$> (fs.inRecord fields >>= fun g => g <$> f.inRecord fields)
    rw [here]
    cases fs.inRecord fields with
    | error e => rfl
    | ok g =>
      show (fun p => (g p.1, p.2)) <$> (f.inList shape).run (taken + before.length, j :: rest) = _
      rw [Field.inList_cons]
      cases f.decode j <;> rfl

/-- A field that is checked is one of those that are described. -/
theorem mem_of_mem_sorted {checks sorted : List (String × Decoder Unit)} {entry : String × Decoder Unit}
    (inside : entry ∈ checks.foldl (fun sorted (name, check) => putNamed name check sorted) sorted) :
    entry ∈ checks ∨ entry ∈ sorted := by
  induction checks generalizing sorted with
  | nil => exact .inr inside
  | cons first rest ih =>
    rcases ih inside with later | there
    · exact .inl (List.mem_cons_of_mem _ later)
    · rcases mem_of_mem_putNamed there with rfl | before
      · exact .inl List.mem_cons_self
      · exact .inr before

/-- What checks every field that is there says no to nothing that is read. -/
theorem checkPresent_of_inRecord {fs : Fields α} [even : fs.IsEven] {a : α} (read : fs.inRecord fields = .ok a) :
    fs.checkPresent fields = .ok () := by
  unfold checkPresent
  generalize collected : fs.checks.foldl (fun sorted (name, check) => putNamed name check sorted) [] = sorted
  have each : ∀ entry ∈ sorted, ∀ j, Json.field? fields entry.1 = some j → entry.2 j = .ok () := by
    intro entry inside
    rw [← collected] at inside
    rcases mem_of_mem_sorted inside with described | none
    · exact even.checked fields a read entry described
    · cases none
  clear collected
  induction sorted with
  | nil => rfl
  | cons entry rest ih =>
    obtain ⟨name, check⟩ := entry
    obtain ⟨first, others⟩ := List.forall_mem_cons.1 each
    rw [List.forM]
    cases found : Json.field? fields name with
    | none =>
      simp only [found]
      exact ih others
    | some j =>
      have passes : check j = .ok () := first j found
      simp only [found, passes]
      exact ih others

section Decoder

variable {name : String} {fs : Fields α} {a : α}

theorem decoder_obj [fs.IsEven] : fs.decoder name (.obj fields) = .ok a ↔ fs.inRecord fields = .ok a := by
  show (fs.checkPresent fields >>= fun _ => fs.inRecord fields) = .ok a ↔ _
  rw [bind_eq_ok]
  exact ⟨fun ⟨_, _, read⟩ => read, fun read => ⟨(), checkPresent_of_inRecord read, read⟩⟩

/-- A list is read to its end. -/
theorem decoder_arr (read : ∀ shape, ∃ taken, (fs.inList shape).run (0, elements) = .ok (a, taken, [])) :
    fs.decoder name (.arr elements) = .ok a := by
  obtain ⟨taken, run⟩ := read ("struct " ++ name ++ " with " ++ toString fs.names.length ++ " elements")
  unfold decoder
  dsimp only
  rw [run]
  rfl

theorem of_decoder_arr (read : fs.decoder name (.arr elements) = .ok a) :
    ∃ shape taken, (fs.inList shape).run (0, elements) = .ok (a, taken, []) := by
  refine ⟨"struct " ++ name ++ " with " ++ toString fs.names.length ++ " elements", ?_⟩
  unfold decoder at read
  dsimp only at read
  obtain ⟨⟨value, taken, rest⟩, run, read⟩ := bind_eq_ok.1 read
  cases rest with
  | nil =>
    cases read
    exact ⟨taken, run⟩
  | cons j rest => cases read

/-- A record with all fields is read just as the list of them. -/
theorem decoder_obj_iff_arr [even : fs.IsEven] (all : fs.names.map (Json.field? fields) = elements.map some) :
    fs.decoder name (.obj fields) = .ok a ↔ fs.decoder name (.arr elements) = .ok a := by
  have list (shape : String) := even.whole fields elements all shape 0 []
  rw [List.append_nil] at list
  rw [decoder_obj]
  constructor
  · intro read
    refine decoder_arr fun shape => ⟨0 + elements.length, ?_⟩
    rw [list, read]
    rfl
  · intro read
    obtain ⟨shape, taken, run⟩ := of_decoder_arr read
    rw [list] at run
    obtain ⟨value, record, same⟩ := map_eq_ok.1 run
    cases same
    exact record

namespace Gives

theorem decode_obj [fs.IsEven] (given : fs.Gives fields elements a) : fs.decoder name (.obj fields) = .ok a :=
  decoder_obj.2 given.record

theorem decode_arr (given : fs.Gives fields elements a) : fs.decoder name (.arr elements) = .ok a := by
  refine decoder_arr fun shape => ⟨0 + elements.length, ?_⟩
  have list := given.list shape 0 []
  rwa [List.append_nil] at list

end Gives

end Decoder

end Fields

end Forms

/-! ## What can be said of a value that was read -/

section Yields

variable {α β : Type}

/-- What is read from a proper document has a property. -/
def Decoder.Yields (decode : Decoder α) (P : α → Prop) : Prop := ∀ j a, j.IsProper → decode j = .ok a → P a

/-- What is read for a field has a property, and so has what holds where the field is absent. -/
structure Field.Yields (f : Field α) (P : α → Prop) : Prop where
  decoded : Decoder.Yields f.decode P
  absent : ∀ a, f.absence = .inRecord a ∨ f.absence = .inBoth a → P a

namespace Field.Yields

variable {name : String} {decode : Decoder α} {P : α → Prop}

/-- Nothing need be said. -/
theorem free (f : Field α) : f.Yields fun _ => True := ⟨fun _ _ _ _ => trivial, fun _ _ => trivial⟩

theorem required (decoded : decode.Yields P) : (Field.required name decode).Yields P :=
  ⟨decoded, fun _ absent => by rcases absent with absent | absent <;> cases absent⟩

theorem withDefault {value : α} (decoded : decode.Yields P) (default : P value) : (Field.withDefault name decode value).Yields P :=
  ⟨decoded, fun _ absent => by
    rcases absent with absent | absent
    · cases absent
    · cases absent
      exact default⟩

theorem optional (decoded : decode.Yields P) : (Field.optional name decode).Yields fun value => ∀ a ∈ value, P a := by
  refine ⟨fun j value proper read a inside => ?_, fun value absent a inside => ?_⟩
  · cases inside
    by_cases solid : j = .null
    · subst solid
      cases read
    · exact decoded j a proper ((Decoder.optional_some solid).1 read)
  · rcases absent with absent | absent
    · cases absent
      cases inside
    · cases absent

end Field.Yields

/-- What a proper record, or the elements of a proper list, give has a property. -/
structure Fields.Yields (fs : Fields α) (P : α → Prop) : Prop where
  record : ∀ fields a, (∀ entry ∈ fields, entry.2.IsProper) → fs.inRecord fields = .ok a → P a
  list : ∀ shape taken elements a taken' rest, (∀ j ∈ elements, j.IsProper) →
    (fs.inList shape).run (taken, elements) = .ok (a, taken', rest) → P a ∧ ∀ j ∈ rest, j.IsProper

theorem Field.Yields.record {f : Field α} {P : α → Prop} (yields : f.Yields P) {fields : List (String × Json)} {a : α}
    (proper : ∀ entry ∈ fields, entry.2.IsProper) (read : f.inRecord fields = .ok a) : P a := by
  unfold Field.inRecord at read
  cases found : Json.field? fields f.name with
  | some j =>
    rw [found] at read
    exact yields.decoded j a (proper _ (Json.mem_of_field? found)) read
  | none =>
    rw [found] at read
    cases absence : f.absence with
    | refused =>
      rw [absence] at read
      cases read
    | inRecord value =>
      rw [absence] at read
      cases read
      exact yields.absent a (.inl absence)
    | inBoth value =>
      rw [absence] at read
      cases read
      exact yields.absent a (.inr absence)

theorem Field.Yields.list {f : Field α} {P : α → Prop} (yields : f.Yields P) {shape : String} {taken taken' : Nat}
    {elements rest : List Json} {a : α} (proper : ∀ j ∈ elements, j.IsProper)
    (read : (f.inList shape).run (taken, elements) = .ok (a, taken', rest)) : P a ∧ ∀ j ∈ rest, j.IsProper := by
  cases elements with
  | nil =>
    rw [Field.inList_nil] at read
    split at read
    · next value absence =>
      cases read
      exact ⟨yields.absent _ (.inr absence), proper⟩
    · cases read
  | cons j others =>
    obtain ⟨first, later⟩ := List.forall_mem_cons.1 proper
    rw [Field.inList_cons] at read
    obtain ⟨value, decoded, same⟩ := map_eq_ok.1 read
    cases same
    exact ⟨yields.decoded j a first decoded, later⟩

namespace Fields.Yields

theorem none {a : α} {P : α → Prop} (holds : P a) : (Fields.none a).Yields P :=
  ⟨fun _ _ _ read => by cases read; exact holds, fun _ _ _ _ _ _ proper read => by cases read; exact ⟨holds, proper⟩⟩

theorem also {fs : Fields (α → β)} {f : Field α} {P : β → Prop} {Q : α → Prop}
    (yields : fs.Yields fun g => ∀ a, Q a → P (g a)) (more : f.Yields Q) : (fs.also f).Yields P := by
  constructor
  · intro fields b proper read
    obtain ⟨g, a, first, last, rfl⟩ := inRecord_also_ok read
    exact yields.record fields g proper first a (more.record proper last)
  · intro shape taken elements b taken' rest proper read
    rw [inList_also] at read
    obtain ⟨⟨g, middle, left⟩, first, read⟩ := bind_eq_ok.1 read
    obtain ⟨applies, proper⟩ := yields.list shape taken elements g middle left proper first
    obtain ⟨⟨a, taken'', rest'⟩, last, same⟩ := map_eq_ok.1 read
    cases same
    obtain ⟨holds, proper⟩ := more.list proper last
    exact ⟨applies a holds, proper⟩

theorem decoder {fs : Fields α} {P : α → Prop} (yields : fs.Yields P) [fs.IsEven] (name : String) :
    Decoder.Yields (fs.decoder name) P := by
  intro j a proper read
  cases proper with
  | obj _ contents => exact yields.record _ a contents (decoder_obj.1 read)
  | arr contents =>
    obtain ⟨shape, taken, run⟩ := of_decoder_arr read
    exact (yields.list shape 0 _ a taken [] contents run).1
  | _ => cases read

end Fields.Yields

end Yields

end FlagKeeper
