import IntakeForms.Text.Blank

/-!
The fence of three backquotes that generated text may come in.
-/

namespace IntakeForms.Fence

def fence : List Char := ['\x60', '\x60', '\x60']

def jsonFence : List Char := fence ++ ['j', 's', 'o', 'n']

def dropOpening (cs : List Char) : List Char :=
  match jsonFence.isPrefixOf? cs with
  | some rest => rest
  | none => (fence.isPrefixOf? cs).getD cs

def dropClosing (cs : List Char) : List Char :=
  match fence.isPrefixOf? cs.reverse with
  | some rest => rest.reverse
  | none => cs

def strip (s : String) : String :=
  String.ofList (Text.trimBy Text.isBlank
    (dropClosing (dropOpening (Text.trimBy Text.isBlank s.toList))))

end IntakeForms.Fence
