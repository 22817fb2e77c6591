import FlagKeeper.Error
import FlagKeeper.Model.Flag

/-!
# The flag filter

A filter restricts which flags are fetched: by name, by the leading part of the name, and by the sets a flag belongs to. Its
query text goes with every fetch and is kept beside the cache, so that a changed filter can be noticed.
-/

namespace FlagKeeper

/-- Splits a text at the first double underscore. -/
def splitAtDouble : List Char → Option (List Char × List Char)
  | '_' :: '_' :: rest => some ([], rest)
  | c :: rest => (splitAtDouble rest).map fun (before, after) => (c :: before, after)
  | [] => none

/-- The part of a flag's name before the first double underscore, when both sides are non-empty. -/
def leadingPart? (name : String) : Option String :=
  match splitAtDouble name.toList with
  | some (before, after) => if before.isEmpty || after.isEmpty then none else some (String.ofList before)
  | none => none

/-- The flags to fetch; an empty set does not restrict. -/
structure FlagFilter where
  names : NameSet := .empty
  prefixes : NameSet := .empty
  sets : NameSet := .empty
  deriving DecidableEq

namespace FlagFilter

/-- How many names a filter may have. -/
def nameLimit : Nat := 400

/-- How many leading parts a filter may have. -/
def prefixLimit : Nat := 50

/-- The filter that restricts nothing. -/
def unrestricted : FlagFilter := {}

instance : Inhabited FlagFilter := ⟨unrestricted⟩

/-- A filter by names only. -/
def byNames (names : List String) : FlagFilter := { names := .ofList names }

/-- A filter by leading parts only. -/
def byPrefixes (prefixes : List String) : FlagFilter := { prefixes := .ofList prefixes }

/-- A filter by sets only. -/
def bySets (sets : List String) : FlagFilter := { sets := .ofList sets }

/-- Whether the filter restricts nothing. -/
def isEmpty (f : FlagFilter) : Bool := f.names.isEmpty && f.prefixes.isEmpty && f.sets.isEmpty

/-- The text that goes with a fetch. Sets take precedence over the other two restrictions. -/
def queryText (f : FlagFilter) : String :=
  if !f.sets.isEmpty then "&sets=" ++ f.sets.commaSeparated
  else
    (if f.names.isEmpty then "" else "&names=" ++ f.names.commaSeparated) ++
      (if f.prefixes.isEmpty then "" else "&prefixes=" ++ f.prefixes.commaSeparated)

/-- Refuses a filter that names too much. -/
def validate (f : FlagFilter) : Except SettingsFault Unit :=
  if f.names.size > nameLimit then .error (.tooManyNames nameLimit f.names.size)
  else if f.prefixes.size > prefixLimit then .error (.tooManyPrefixes prefixLimit f.prefixes.size)
  else .ok ()

/-- Whether a cached flag is covered by the filter. -/
def keeps (f : FlagFilter) (flag : FeatureFlag) : Bool :=
  if !f.sets.isEmpty && f.sets.isDisjoint flag.sets then false
  else
    match leadingPart? flag.name with
    | none => f.names.isEmpty || f.names.contains flag.name
    | some part => f.prefixes.isEmpty || f.prefixes.contains part

/-- The names of the cached flags that the filter does not cover. -/
def uncovered (f : FlagFilter) (cached : List FeatureFlag) : List String :=
  (cached.filter fun flag => !f.keeps flag).map (·.name)

/-- The fields of a filter. -/
def fields : Fields FlagFilter :=
  (Fields.none FlagFilter.mk)
    |>.also (.withDefault "names" .nameSet .empty)
    |>.also (.withDefault "prefixes" .nameSet .empty)
    |>.also (.withDefault "sets" .nameSet .empty)

/-- Reads a filter. -/
def decode : Decoder FlagFilter := fields.decoder "SyncFilter"

/-- Writes a filter. -/
def encode (f : FlagFilter) : Json :=
  .obj [("names", .strings f.names.toList), ("prefixes", .strings f.prefixes.toList), ("sets", .strings f.sets.toList)]

end FlagFilter

end FlagKeeper
