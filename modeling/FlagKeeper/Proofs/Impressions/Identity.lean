import FlagKeeper.Impressions.Identity
import FlagKeeper.Proofs.Impressions.SeenCache

/-!
# What the bytes of an impression tell of its identity

The bytes by which an impression is recognised are those of four texts, a number of fixed width and another text, with colons between
them. Nothing is done about colons in the texts, so two identities may have the same bytes. `bytes_eq_iff` says for which that is so:
those whose four texts, joined with colons, read the same, and those of which the one's number and properties read as more text of the
other one. Where the four texts have no colons in them, the bytes give the identity back (`IsPlain.bytes_inj`).
-/

namespace FlagKeeper

/-! ## Bytes of texts -/

section Utf8

variable {s t : String}

theorem toList_loop (bytes : ByteArray) (place : Nat) (done : List UInt8) :
    ByteArray.toList.loop bytes place done = done.reverse ++ bytes.data.toList.drop place := by
  fun_induction ByteArray.toList.loop bytes place done with
  | case1 place done inside ih =>
    have here : bytes.data.toList.drop place = bytes.get! place :: bytes.data.toList.drop (place + 1) := by
      rw [List.drop_eq_getElem_cons (l := bytes.data.toList) (by simpa using inside)]
      simp [ByteArray.get!, inside]
    rw [ih, here, List.reverse_cons, List.append_assoc]
    rfl
  | case2 place done beyond => rw [List.drop_eq_nil_of_le (by simpa using beyond), List.append_nil]

/-- The bytes of a text are those of its characters. -/
theorem utf8Bytes_eq (s : String) : utf8Bytes s = s.toList.flatMap String.utf8EncodeChar := by
  unfold utf8Bytes ByteArray.toList
  rw [toList_loop, String.toUTF8_eq_toByteArray, ← String.utf8Encode_toList]
  exact List.toList_data_toByteArray

theorem utf8Bytes_append (s t : String) : utf8Bytes (s ++ t) = utf8Bytes s ++ utf8Bytes t := by
  rw [utf8Bytes_eq, utf8Bytes_eq, utf8Bytes_eq, String.toList_append, List.flatMap_append]

theorem toByteArray_utf8Bytes (s : String) : (utf8Bytes s).toByteArray = s.toByteArray := by
  rw [utf8Bytes_eq]
  exact String.utf8Encode_toList

theorem utf8Bytes_inj : utf8Bytes s = utf8Bytes t ↔ s = t := by
  rw [← List.toByteArray_inj, toByteArray_utf8Bytes, toByteArray_utf8Bytes, String.toByteArray_inj]

theorem eq_ofNat_iff {n : Nat} : (58 : UInt8) = UInt8.ofNat n ↔ n % 256 = 58 := by
  rw [← UInt8.toNat_inj, UInt8.toNat_ofNat', eq_comm]
  rfl

/-- The byte of a colon stands for colons only. -/
theorem colon_mem_utf8EncodeChar {c : Char} : 58 ∈ String.utf8EncodeChar c ↔ c = ':' := by
  have same : c = ':' ↔ c.val.toNat = 58 := by
    rw [Char.ext_iff, ← UInt32.toNat_inj]
    rfl
  rw [String.utf8EncodeChar.eq_1, same]
  generalize c.val.toNat = code
  split_ifs <;> simp only [List.mem_cons, List.not_mem_nil, or_false, eq_ofNat_iff] <;> omega

/-- A text whose bytes go on with those of a colon where the bytes of another text end goes on with a colon. -/
theorem utf8Bytes_eq_append_colon {more : List UInt8} :
    utf8Bytes t = utf8Bytes s ++ 58 :: more ↔ ∃ rest, t = s ++ ":" ++ rest ∧ utf8Bytes rest = more := by
  have colon : utf8Bytes ":" = [58] := by
    rw [utf8Bytes_eq]
    rfl
  constructor
  · intro goesOn
    have whole : s.toList.utf8Encode ++ (58 :: more).toByteArray = t.toList.utf8Encode := by
      rw [String.utf8Encode_toList, String.utf8Encode_toList, ← toByteArray_utf8Bytes, ← toByteArray_utf8Bytes, goesOn,
        List.toByteArray_append]
    obtain ⟨letters, split⟩ := List.isPrefix_of_utf8Encode_append_eq_utf8Encode _ whole
    rw [utf8Bytes_eq t, ← split, List.flatMap_append, ← utf8Bytes_eq, List.append_cancel_left_eq] at goesOn
    cases letters with
    | nil => cases goesOn
    | cons c rest =>
      rw [List.flatMap_cons] at goesOn
      obtain ⟨first, others, encoded⟩ := List.exists_cons_of_ne_nil (String.utf8EncodeChar_ne_nil (c := c))
      have same : c = ':' := by
        rw [encoded, List.cons_append] at goesOn
        rw [← colon_mem_utf8EncodeChar, encoded, (List.cons.inj goesOn).1]
        exact List.mem_cons_self
      subst same
      refine ⟨String.ofList rest, ?_, ?_⟩
      · rw [← String.toList_inj, ← split]
        simp
      · rw [utf8Bytes_eq, String.toList_ofList]
        exact (List.cons.inj goesOn).2
  · rintro ⟨rest, rfl, rfl⟩
    rw [utf8Bytes_append, utf8Bytes_append, colon, List.append_assoc]
    rfl

end Utf8

/-! ## Bytes of numbers -/

section Numbers

theorem bigEndian_succ (count n : Nat) : Sha256.bigEndian (count + 1) n = Sha256.bigEndian count (n / 256) ++ [UInt8.ofNat n] := by
  unfold Sha256.bigEndian
  rw [List.range_succ, List.map_append]
  congr 1
  · refine List.map_congr_left fun i inside => ?_
    have shift : 8 * (count + 1 - 1 - i) = 8 + 8 * (count - 1 - i) := by
      have := List.mem_range.1 inside
      omega
    rw [shift, Nat.shiftRight_add, Nat.shiftRight_eq_div_pow n 8]
  · simp

/-- So many bytes tell apart the numbers that fit them. -/
theorem bigEndian_inj {count n m : Nat} (fits : n < Nat.pow 256 count) (fits' : m < Nat.pow 256 count)
    (same : Sha256.bigEndian count n = Sha256.bigEndian count m) : n = m := by
  induction count generalizing n m with
  | zero => exact (Nat.lt_one_iff.1 fits).trans (Nat.lt_one_iff.1 fits').symm
  | succ count ih =>
    rw [bigEndian_succ, bigEndian_succ] at same
    change n < Nat.pow 256 count * 256 at fits
    change m < Nat.pow 256 count * 256 at fits'
    obtain ⟨high, low⟩ := List.append_inj' same rfl
    have upper : n / 256 = m / 256 := ih (Nat.div_lt_of_lt_mul (by omega)) (Nat.div_lt_of_lt_mul (by omega)) high
    have lower : n % 256 = m % 256 := by simpa [← UInt8.toNat_inj] using low
    omega

theorem length_signedBytes (n : Int) : (signedBytes n).length = 8 := by
  unfold signedBytes Sha256.bigEndian
  rw [List.length_map, List.length_range]

theorem signedBytes_inj {n m : Int} (fits : fitsSigned n = true) (fits' : fitsSigned m = true) :
    signedBytes n = signedBytes m ↔ n = m := by
  refine ⟨fun same => ?_, congrArg signedBytes⟩
  have word {k : Int} : (k % wordCount).toNat < Nat.pow 256 8 := by
    show _ < wordCount
    unfold wordCount
    omega
  have wrapped := bigEndian_inj word word same
  unfold fitsSigned negativeCount at fits fits'
  unfold wordCount at wrapped
  rw [Bool.and_eq_true, decide_eq_true_eq, decide_eq_true_eq] at fits fits'
  omega

end Numbers

/-! ## Identities -/

/-- What makes an impression the same as another one. What is absent counts as empty or zero. -/
@[ext]
structure Identity where
  keyName : String
  featureName : String
  treatment : String
  label : String
  changeNumber : Int
  properties : String
  deriving DecidableEq

/-- The identity of an impression. -/
def Impression.identity (i : Impression) : Identity where
  keyName := i.keyName
  featureName := i.featureName
  treatment := i.treatment
  label := i.label.getD ""
  changeNumber := i.changeNumber.getD 0
  properties := i.properties.getD ""

namespace Identity

variable {x y : Identity}

/-- The four texts of an identity that come before the number, with colons between them. -/
def texts (x : Identity) : String := x.keyName ++ ":" ++ x.featureName ++ ":" ++ x.treatment ++ ":" ++ x.label

/-- The bytes that come after these texts. -/
def rear (x : Identity) : List UInt8 := signedBytes x.changeNumber ++ 58 :: utf8Bytes x.properties

/-- The bytes of an identity. -/
def bytes (x : Identity) : List UInt8 := utf8Bytes x.texts ++ 58 :: x.rear

/-- The number fits 64 bits with a sign. -/
def Fits (x : Identity) : Prop := fitsSigned x.changeNumber = true

/-- There is no colon in the texts that come before the number. -/
structure IsPlain (x : Identity) : Prop where
  keyName : ':' ∉ x.keyName.toList
  featureName : ':' ∉ x.featureName.toList
  treatment : ':' ∉ x.treatment.toList
  label : ':' ∉ x.label.toList

/-- The number and the properties of an identity read as more text, and a number and properties, of another one. -/
def Overlaps (x y : Identity) : Prop :=
  ∃ more, y.texts = x.texts ++ ":" ++ more ∧ x.rear = utf8Bytes more ++ 58 :: y.rear

theorem rear_inj (fits : x.Fits) (fits' : y.Fits) :
    x.rear = y.rear ↔ x.changeNumber = y.changeNumber ∧ x.properties = y.properties := by
  unfold rear
  constructor
  · intro same
    obtain ⟨number, properties⟩ := List.append_inj same (by rw [length_signedBytes, length_signedBytes])
    exact ⟨(signedBytes_inj fits fits').1 number, utf8Bytes_inj.1 (List.cons.inj properties).2⟩
  · rintro ⟨number, properties⟩
    rw [number, properties]

/-- **Which identities have the same bytes.** -/
theorem bytes_eq_iff (fits : x.Fits) (fits' : y.Fits) : x.bytes = y.bytes ↔
    (x.texts = y.texts ∧ x.changeNumber = y.changeNumber ∧ x.properties = y.properties) ∨ x.Overlaps y ∨ y.Overlaps x := by
  -- Where the texts of the one end before those of the other do, the next byte is that of a colon.
  have overlaps {x y : Identity} {middle : List UInt8} (texts : utf8Bytes y.texts = utf8Bytes x.texts ++ middle)
      (rear : 58 :: x.rear = middle ++ 58 :: y.rear) : utf8Bytes x.texts = utf8Bytes y.texts ∧ x.rear = y.rear ∨ x.Overlaps y := by
    cases middle with
    | nil =>
      rw [List.append_nil] at texts
      exact .inl ⟨texts.symm, (List.cons.inj rear).2⟩
    | cons b middle =>
      obtain ⟨rfl, rest⟩ := List.cons.inj rear
      obtain ⟨more, text, rfl⟩ := utf8Bytes_eq_append_colon.1 texts
      exact .inr ⟨more, text, rest⟩
  rw [← rear_inj fits fits']
  constructor
  · intro same
    rcases List.append_eq_append_iff.1 same with ⟨middle, texts, rear⟩ | ⟨middle, texts, rear⟩
    · rcases overlaps texts rear with ⟨texts, rear⟩ | overlap
      · exact .inl ⟨utf8Bytes_inj.1 texts, rear⟩
      · exact .inr (.inl overlap)
    · rcases overlaps texts rear with ⟨texts, rear⟩ | overlap
      · exact .inl ⟨(utf8Bytes_inj.1 texts).symm, rear.symm⟩
      · exact .inr (.inr overlap)
  · have joined {x y : Identity} (overlap : x.Overlaps y) : x.bytes = y.bytes := by
      obtain ⟨more, texts, rear⟩ := overlap
      unfold bytes
      rw [utf8Bytes_eq_append_colon.2 ⟨more, texts, rfl⟩, rear, List.append_assoc]
      rfl
    rintro (⟨texts, rear⟩ | overlap | overlap)
    · unfold bytes
      rw [texts, rear]
    · exact joined overlap
    · exact (joined overlap).symm

/-! ### Texts without colons -/

/-- How many colons there are in the texts that come before the number, those between them included. -/
def colons (x : Identity) : Nat := x.texts.toList.count ':'

/-- Identities with as many colons do not overlap. -/
theorem not_overlaps_of_colons (same : x.colons = y.colons) : ¬x.Overlaps y := by
  rintro ⟨more, texts, -⟩
  unfold colons at same
  rw [texts] at same
  simp at same

theorem IsPlain.colons (plain : x.IsPlain) : x.colons = 3 := by
  unfold Identity.colons texts
  simp [List.count_eq_zero.2 plain.keyName, List.count_eq_zero.2 plain.featureName, List.count_eq_zero.2 plain.treatment,
    List.count_eq_zero.2 plain.label]

/-- Up to the first colon. -/
theorem eq_of_append_colon {s t s' t' : List Char} (plain : ':' ∉ s) (plain' : ':' ∉ s') (same : s ++ ':' :: t = s' ++ ':' :: t') :
    s = s' ∧ t = t' := by
  have first {s t : List Char} (plain : ':' ∉ s) : (s ++ ':' :: t).takeWhile (· ≠ ':') = s := by
    rw [List.takeWhile_append_of_pos fun c inside => by
      have other : c ≠ ':' := fun colon => plain (colon ▸ inside)
      simpa using other]
    simp
  have start : s = s' := by rw [← first plain (t := t), same, first plain']
  subst start
  exact ⟨rfl, (List.cons.inj (List.append_cancel_left same)).2⟩

/-- Texts without colons can be read off again. -/
theorem IsPlain.texts_inj (plain : x.IsPlain) (plain' : y.IsPlain) (same : x.texts = y.texts) :
    x.keyName = y.keyName ∧ x.featureName = y.featureName ∧ x.treatment = y.treatment ∧ x.label = y.label := by
  have letters (x : Identity) : x.texts.toList =
      x.keyName.toList ++ ':' :: (x.featureName.toList ++ ':' :: (x.treatment.toList ++ ':' :: x.label.toList)) := by
    unfold texts
    simp
  have same := congrArg String.toList same
  rw [letters, letters] at same
  obtain ⟨key, same⟩ := eq_of_append_colon plain.keyName plain'.keyName same
  obtain ⟨feature, same⟩ := eq_of_append_colon plain.featureName plain'.featureName same
  obtain ⟨treatment, label⟩ := eq_of_append_colon plain.treatment plain'.treatment same
  exact ⟨String.toList_inj.1 key, String.toList_inj.1 feature, String.toList_inj.1 treatment, String.toList_inj.1 label⟩

/-- Identities without colons have bytes of their own. -/
theorem IsPlain.bytes_inj (plain : x.IsPlain) (plain' : y.IsPlain) (fits : x.Fits) (fits' : y.Fits) :
    x.bytes = y.bytes ↔ x = y := by
  refine ⟨fun same => ?_, congrArg bytes⟩
  have colons : x.colons = y.colons := plain.colons.trans plain'.colons.symm
  rcases (bytes_eq_iff fits fits').1 same with ⟨texts, number, properties⟩ | overlap | overlap
  · obtain ⟨key, feature, treatment, label⟩ := plain.texts_inj plain' texts
    exact Identity.ext key feature treatment label number properties
  · exact (not_overlaps_of_colons colons overlap).elim
  · exact (not_overlaps_of_colons colons.symm overlap).elim

end Identity

/-! ## What the observer takes for the same -/

/-- The bytes of an impression are those of its identity. -/
theorem Impression.identityBytes_eq (i : Impression) : i.identityBytes = i.identity.bytes := by
  have colon : utf8Bytes ":" = [58] := by
    rw [utf8Bytes_eq]
    rfl
  unfold identityBytes Identity.bytes Identity.texts Identity.rear
  simp only [utf8Bytes_append, colon, List.append_assoc, List.singleton_append]
  rfl

namespace Impression

/-- What the observer sets for an impression. -/
def setting (i : Impression) : SeenImpression := ⟨i.identityHash, i.time⟩

/-- An observer gives no time but that of an impression that has the hash. -/
theorem exists_of_seen {capacity : Nat} {earlier : List Impression} {i : Impression} {time : Int}
    (seen : ((SeenCache.ofList capacity (earlier.map setting)).testAndSet i.identityHash i.time).1 = some time) :
    ∃ j ∈ earlier, j.identityHash = i.identityHash ∧ j.time = time := by
  rw [SeenCache.testAndSet_ofList] at seen
  unfold SeenCache.remembered at seen
  split at seen
  case isTrue =>
    obtain ⟨x, found, rfl⟩ := Option.map_eq_some_iff.1 seen
    have among := List.mem_reverse.1 (List.mem_of_find?_eq_some found)
    obtain ⟨j, inside, rfl⟩ := List.mem_map.1 among
    have hash : j.setting.hash = i.identityHash := by simpa using List.find?_some found
    exact ⟨j, inside, hash, rfl⟩
  case isFalse => cases seen

/-- **Which impressions are told apart.** For any impression whose change number fits 64 bits:

1. Another one has the same bytes just if key, feature, treatment and label of the two, with colons between them, read the same, and
   change number and properties are the same; or if the change number and the properties of the one read as more text, and a change
   number and properties, of the other.
2. If there are no colons in these four texts, one that has none either has the same bytes just if it is of the same identity.
3. So of an observer that was shown impressions without colons in these texts, none of which has the digest of this one for other bytes,
   it gets no time but that of one of its own identity. -/
theorem told_apart_iff (i : Impression) (fits : i.identity.Fits) :
    (∀ j : Impression, j.identity.Fits → (i.identityBytes = j.identityBytes ↔
      (i.identity.texts = j.identity.texts ∧ i.identity.changeNumber = j.identity.changeNumber ∧
        i.identity.properties = j.identity.properties) ∨
      i.identity.Overlaps j.identity ∨ j.identity.Overlaps i.identity)) ∧
    (i.identity.IsPlain →
      (∀ j : Impression, j.identity.Fits → j.identity.IsPlain → (i.identityBytes = j.identityBytes ↔ i.identity = j.identity)) ∧
      ∀ capacity (earlier : List Impression), (∀ j ∈ earlier, j.identity.Fits ∧ j.identity.IsPlain) →
        (∀ j ∈ earlier, j.identityHash = i.identityHash → j.identityBytes = i.identityBytes) →
        ∀ time, ((SeenCache.ofList capacity (earlier.map setting)).testAndSet i.identityHash i.time).1 = some time →
          ∃ j ∈ earlier, j.identity = i.identity ∧ j.time = time) := by
  refine ⟨fun j fits' => ?_, fun plain => ⟨fun j fits' plain' => ?_, fun capacity earlier proper apart time seen => ?_⟩⟩
  · rw [identityBytes_eq, identityBytes_eq]
    exact Identity.bytes_eq_iff fits fits'
  · rw [identityBytes_eq, identityBytes_eq]
    exact plain.bytes_inj plain' fits fits'
  · obtain ⟨j, inside, hash, timed⟩ := exists_of_seen seen
    obtain ⟨fits', plain'⟩ := proper j inside
    have same := apart j inside hash
    rw [identityBytes_eq, identityBytes_eq] at same
    exact ⟨j, inside, (plain'.bytes_inj plain fits' fits).1 same, timed⟩

/-- An impression with a colon in its properties. -/
def noted (time : Int) : Impression := { new "user" "checkout" "on" time with properties := some "plan:gold" }

/-- It is told apart from the one without them, and when it comes again, the observer knows it. -/
theorem told_apart_iff_noted :
    (noted 5).identityBytes ≠ (new "user" "checkout" "on" 5).identityBytes ∧
    ∃ j ∈ [noted 5], j.identity = (noted 9).identity ∧ j.time = 5 := by
  have plain : (noted 5).identity.IsPlain := by constructor <;> decide
  have bare : (new "user" "checkout" "on" 5).identity.IsPlain := by constructor <;> decide
  obtain ⟨-, apart⟩ := told_apart_iff (noted 5) rfl
  obtain ⟨-, observed⟩ := told_apart_iff (noted 9) rfl
  refine ⟨?_, (observed plain).2 5 [noted 5] ?_ ?_ 5 ?_⟩
  · rw [ne_eq, (apart plain).1 (new "user" "checkout" "on" 5) rfl bare]
    decide
  · rintro j inside
    cases List.mem_singleton.1 inside
    exact ⟨rfl, plain⟩
  · rintro j inside -
    cases List.mem_singleton.1 inside
    rfl
  · have same : (noted 9).identityHash = (noted 5).identityHash := rfl
    rw [SeenCache.testAndSet_ofList, same]
    simp [SeenCache.remembered, SeenCache.since, setting]
    rfl

/-- A colon that moves from the key to the feature makes another identity. -/
theorem identities_confused :
    ¬∀ i j : Impression, i.identity.Fits → j.identity.Fits → i.identity ≠ j.identity → i.identityBytes ≠ j.identityBytes := by
  intro apart
  refine apart (new "user:b" "checkout" "on" 5) (new "user" "b:checkout" "on" 5) rfl rfl (by decide) ?_
  rw [identityBytes_eq, identityBytes_eq]
  have texts : (new "user:b" "checkout" "on" 5).identity.texts = (new "user" "b:checkout" "on" 5).identity.texts := by decide
  unfold Identity.bytes
  rw [texts]
  rfl

end Impression

end FlagKeeper
