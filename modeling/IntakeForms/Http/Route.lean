import IntakeForms.Text.Percent

/-!
Which path leads where.  A path names a resource, and the method chooses among the
things that can be done with it.  A name that a path ends in may be followed by one
line break.
-/

namespace IntakeForms.Http

inductive Resource
  | health
  | manual
  | forms
  | form (id : String)
  | draft (id : String)
  | validation (id : String)
  | publication (id : String)
  | generation (id : String)
  | application (id : String)
  | submissions (id : String)
  | publicForm (slug : String)
  | publicNext (slug : String)
  | publicSubmissions (slug : String)
deriving DecidableEq, Repr

inductive Route
  | health
  | manual
  | create
  | list
  | get (id : String)
  | saveDraft (id : String)
  | validate (id : String)
  | publish (id : String)
  | generate (id : String)
  | apply (id : String)
  | submissions (id : String)
  | view (slug : String)
  | next (slug : String)
  | submit (slug : String)
deriving DecidableEq, Repr

def partsOf : List Char → List (List Char)
  | [] => [[]]
  | c :: rest =>
    if c = '/' then [] :: partsOf rest
    else match partsOf rest with
      | part :: others => (c :: part) :: others
      | [] => [[c]]

def parts (path : String) : List String := (partsOf path.toList).map String.ofList

def Resource.ofParts? : List String → Option Resource
  | ["", "health"] => some .health
  | ["", "docs"] | ["", "docs", "oauth2-redirect"] | ["", "redoc"] | ["", "openapi.json"] =>
    some .manual
  | ["", "v1", "intakes"] => some .forms
  | ["", "v1", "intakes", id] => some (.form id)
  | ["", "v1", "intakes", id, "draft"] => some (.draft id)
  | ["", "v1", "intakes", id, "validate"] => some (.validation id)
  | ["", "v1", "intakes", id, "publish"] => some (.publication id)
  | ["", "v1", "intakes", id, "routing:generate"] => some (.generation id)
  | ["", "v1", "intakes", id, "routing:apply"] => some (.application id)
  | ["", "v1", "intakes", id, "submissions"] => some (.submissions id)
  | ["", "v1", "public", "intakes", slug] => some (.publicForm slug)
  | ["", "v1", "public", "intakes", slug, "next"] => some (.publicNext slug)
  | ["", "v1", "public", "intakes", slug, "submissions"] => some (.publicSubmissions slug)
  | _ => none

def withoutBreak (path : String) : String :=
  match path.toList.reverse with
  | '\n' :: rest => String.ofList rest.reverse
  | _ => path

def Resource.ofPath? (path : String) : Option Resource :=
  if ((parts path).drop 1).any String.isEmpty then none
  else (Resource.ofParts? (parts path)).or (Resource.ofParts? (parts (withoutBreak path)))

def Resource.route? (method : String) : Resource → Option Route
  | .health => if method = "GET" then some .health else none
  | .manual => if method = "GET" ∨ method = "HEAD" then some .manual else none
  | .forms =>
    if method = "POST" then some .create else if method = "GET" then some .list else none
  | .form id => if method = "GET" then some (.get id) else none
  | .draft id => if method = "PUT" then some (.saveDraft id) else none
  | .validation id => if method = "POST" then some (.validate id) else none
  | .publication id => if method = "POST" then some (.publish id) else none
  | .generation id => if method = "POST" then some (.generate id) else none
  | .application id => if method = "POST" then some (.apply id) else none
  | .submissions id => if method = "GET" then some (.submissions id) else none
  | .publicForm slug => if method = "GET" then some (.view slug) else none
  | .publicNext slug => if method = "POST" then some (.next slug) else none
  | .publicSubmissions slug => if method = "POST" then some (.submit slug) else none

inductive Target
  | found (r : Route)
  | wrongMethod
  | moved (path : String)
  | unknown
deriving DecidableEq, Repr

def withoutSlashes (path : String) : String :=
  String.ofList (path.toList.reverse.dropWhile (· == '/')).reverse

def target (method path : String) : Target :=
  match Resource.ofPath? path with
  | some resource => match resource.route? method with
    | some r => .found r
    | none => .wrongMethod
  | none =>
    if path.endsWith "/" && (Resource.ofPath? (withoutSlashes path)).isSome then
      .moved (withoutSlashes path)
    else .unknown

end IntakeForms.Http
