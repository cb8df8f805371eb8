import FormIntake.Decoder
import FormIntake.Number.Places

namespace FormIntake

structure Flubber where
  variant : String
  size : IntWidth.i32.Value
  strength : Binary64

namespace Flubber

def blank : Flubber := ⟨"", IntWidth.i32.zero, .zero⟩

instance : Fillable Flubber where
  toJson f :=
    .object [("size", .ofInt f.size), ("strength", .ofFloat f.strength),
      ("variant", .text f.variant)]
  readLike _
    | .object members => do
      let size ← Json.readMember members "size" (Json.asInt .i32)
      let strength ← Json.readMember members "strength" Json.asFloat
      let variant ← Json.readMember members "variant" Json.asText
      return { variant, size, strength }
    | value => value.wrongType .map

def drafts : List SpecDraft :=
  [{ SpecDraft.requiring "variant" "string" with
      limit := "4"
      name := some "The 4-letter variant" },
    { SpecDraft.requiring "size" "int" with
      limit := "1-4"
      name := some "The size (1-4)" },
    { SpecDraft.optional "strength" "float" with
      name := some "Flubber strength" }]

def specs : Except FormError (List FieldSpec) := drafts.mapM (·.build .builtin)

def describe (f : Flubber) : String :=
  "Flubber " ++ f.variant ++ ": size " ++ toString f.size.val ++ ", strength " ++
    f.strength.textWithPlaces 2

end Flubber

namespace Demo

structure Response where
  status : Nat
  body : String
  deriving DecidableEq

def usage : Response := ⟨200, "POST to describe some Flubber.\n"⟩

def notFound : Response := ⟨404, ""⟩

def methodNotAllowed : Response := ⟨405, ""⟩

def serverError : Response := ⟨500, "Internal Server Error\n"⟩

def splitTarget (target : List Char) : List Char × Option (List Char) :=
  let resource := (Text.cut '#' target).1
  let (path, query) := Text.cut '?' resource
  (path, if resource.contains '?' then some query else none)

/-- The submitted values of a request; those of the body come before those of the query. -/
def formValues (body : String) (query : Option String) : Query :=
  match query with
  | some query => (Query.parse body).merge (Query.parse query)
  | none => Query.parse body

def decodeFlubber (form : Query) : Except FormError Flubber := do
  let specs ← Flubber.specs
  match (Decoder.standard.decode form specs).on Flubber.blank with
  | (.ok (), f) => return f
  | (.error fault, _) => .error fault

def describe (body : String) (query : Option String) : Response :=
  match decodeFlubber (formValues body query) with
  | .ok f => ⟨200, f.describe ++ "\n"⟩
  | .error (.validation errors) => ⟨400, errors.message ++ "\n"⟩
  | .error _ => serverError

/-- The answer to a request whose body has been taken in as a text. Bodies that are not UTF-8 or too
large for the server are refused before that and have no answer here. -/
def answer (method target body : String) : Response :=
  let (path, query) := splitTarget target.toList
  if path ≠ ['/'] then notFound
  else if method = "GET" then usage
  else if method = "HEAD" then { usage with body := "" }
  else if method = "POST" then describe body (query.map String.ofList)
  else methodNotAllowed

end Demo

end FormIntake
