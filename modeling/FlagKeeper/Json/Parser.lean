import FlagKeeper.Json.Token

/-!
# Reading document text

The tokens of a document drive a machine with a stack of open lists and records. Containers nest at most 127 deep.
-/

namespace FlagKeeper

namespace Json

/-- A container that is still open, with what it holds so far. -/
inductive Frame where
  /-- A list, its last element first. -/
  | list (elements : List Json)
  /-- A record, and the name of the field whose value comes next. -/
  | record (fields : List (String × Json)) (name : String)

/-- What may come next. -/
inductive Expectation where
  | value
  | firstElement
  | firstName (fields : List (String × Json))
  | name (fields : List (String × Json))
  | colon (fields : List (String × Json)) (name : String)
  | continuation
  | ended (v : Json)

/-- A document read up to some token. -/
structure Reading where
  frames : List Frame
  expect : Expectation

namespace Reading

/-- How deep containers nest at most. -/
def depthLimit : Nat := 127

/-- A complete value goes into the innermost open container. -/
def deliver (v : Json) : List Frame → Reading
  | [] => ⟨[], .ended v⟩
  | .list elements :: outer => ⟨.list (v :: elements) :: outer, .continuation⟩
  | .record fields name :: outer => ⟨.record (putNamed name v fields) name :: outer, .continuation⟩

/-- Starts a value with its first token. -/
def begin? (stack : List Frame) : Token → Option Reading
  | .value v => some (deliver v stack)
  | .openList => if stack.length < depthLimit then some ⟨.list [] :: stack, .firstElement⟩ else none
  | .openRecord => if stack.length < depthLimit then some ⟨stack, .firstName []⟩ else none
  | _ => none

/-- One token further. -/
def step? (r : Reading) (t : Token) : Option Reading :=
  match r.expect, t with
  | .value, t => begin? r.frames t
  | .firstElement, .closeList => some (deliver (.arr []) r.frames.tail)
  | .firstElement, t => begin? r.frames t
  | .firstName fields, .closeRecord => some (deliver (.obj fields) r.frames)
  | .firstName fields, .value (.str name) => some ⟨r.frames, .colon fields name⟩
  | .name fields, .value (.str name) => some ⟨r.frames, .colon fields name⟩
  | .colon fields name, .colon => some ⟨.record fields name :: r.frames, .value⟩
  | .continuation, t =>
    match r.frames, t with
    | .list _ :: _, .comma => some ⟨r.frames, .value⟩
    | .list elements :: outer, .closeList => some (deliver (.arr elements.reverse) outer)
    | .record fields _ :: outer, .comma => some ⟨outer, .name fields⟩
    | .record fields _ :: outer, .closeRecord => some (deliver (.obj fields) outer)
    | _, _ => none
  | _, _ => none

end Reading

/-- The document written by a text, if it is one. -/
def parse? (s : String) : Option Json := do
  let ts ← tokens? s
  let r ← ts.foldlM Reading.step? ⟨[], .value⟩
  match r.expect with
  | .ended v => some v
  | _ => none

end Json

end FlagKeeper
