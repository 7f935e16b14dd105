import IntakeForms.Text.Percent
import IntakeForms.Url.Address

/-!
Locations as clients write them: a path and perhaps a query after a question mark.
A host in front and a fragment behind are not sent, slashes in front count as one,
and single and double dots between slashes are steps.
-/

namespace IntakeForms.Http

structure Location where
  path : String
  query : List (String × String)
deriving DecidableEq, Repr

namespace Location

def followed (parts : List (List Char)) : List (List Char) :=
  parts.foldl (fun done part =>
    if part = ['.'] then done
    else if part = ['.', '.'] then (if done = [[]] then done else done.dropLast)
    else done ++ [part]) []

def joined (parts : List (List Char)) : List Char := ['/'].intercalate parts

def withoutHost : List Char → List Char
  | '/' :: '/' :: rest => rest.dropWhile (· != '/')
  | cs => cs

def pathOf (cs : List Char) : String :=
  let sent := '/' :: (withoutHost cs).dropWhile (· == '/')
  Percent.decode (String.ofList (joined (followed (Url.splitAt '/' sent))))

def word (cs : List Char) : String :=
  Percent.decode (String.ofList (cs.map fun c => if c = '+' then ' ' else c))

def pairOf (cs : List Char) : String × String :=
  (word (cs.takeWhile (· != '=')), word ((cs.dropWhile (· != '=')).drop 1))

def queryOf (cs : List Char) : List (String × String) :=
  ((Url.splitAt '&' cs).filter (!·.isEmpty)).map pairOf

def ofText (s : String) : Location :=
  let cs := s.toList.takeWhile (· != '#')
  ⟨pathOf (cs.takeWhile (· != '?')), queryOf ((cs.dropWhile (· != '?')).drop 1)⟩

def withQuery (l : Location) (given : List (String × String)) : Location :=
  { l with query := (l.query.filter fun p => !(given.map Prod.fst).contains p.1) ++ given }

end Location

end IntakeForms.Http
