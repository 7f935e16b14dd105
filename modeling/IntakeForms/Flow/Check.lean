import IntakeForms.Flow.Graph
import IntakeForms.Flow.Issue
import IntakeForms.Url.Http

/-!
The check a form has to pass before it is published.  Errors keep it from being
published, warnings do not.  Every problem is reported: identifiers used twice,
rules that lead nowhere or ask for the wrong thing, blocks that cannot work,
sections out of reach, and loops without a way out.
-/

namespace IntakeForms.Flow

structure Policy where
  unreachableIsError : Bool := false
deriving DecidableEq, Repr

def error (code message : String) (sectionId : Option String := none)
    (ruleId : Option String := none) (blockId : Option String := none) : Issue :=
  ⟨.error, code, message, sectionId, ruleId, blockId⟩

def warning (code message : String) (sectionId : Option String := none)
    (ruleId : Option String := none) (blockId : Option String := none) : Issue :=
  ⟨.warning, code, message, sectionId, ruleId, blockId⟩

def quote (s : String) : String := "'" ++ s ++ "'"

def doubleQuote (s : String) : String := "\"" ++ s ++ "\""

def missingTarget (s : Section) (r : Rule) : Issue :=
  error "missing_target_section"
    ("Routing rule " ++ quote r.id ++ " in " ++ quote s.displayTitle ++
      " points to missing section " ++ quote r.target ++ ".")
    s.id r.id

def incompleteRule (s : Section) (r : Rule) : Issue :=
  error "incomplete_rule"
    ("Routing rule " ++ quote r.id ++ " in " ++ quote s.displayTitle ++
      " needs both a question and a value.")
    s.id r.id

def missingSource (s : Section) (r : Rule) (block : String) : Issue :=
  error "missing_source_block"
    ("Routing rule " ++ quote r.id ++ " references block " ++ quote block ++
      ", which is not in section " ++ quote s.displayTitle ++ ".")
    s.id r.id block

def noAnswer (s : Section) (r : Rule) (b : Block) : Issue :=
  error "non_answer_block"
    ("Routing rule " ++ quote r.id ++ " references block " ++ quote b.id ++
      ", which does not collect an answer.")
    s.id r.id b.id

def noChoice (s : Section) (r : Rule) (b : Block) : Issue :=
  error "non_choice_block"
    ("Routing rule " ++ quote r.id ++ " references " ++ quote b.labelText ++
      ", which is not a choice question.")
    s.id r.id b.id

def invalidValue (s : Section) (r : Rule) (b : Block) (value : String) : Issue :=
  error "invalid_rule_value"
    ("Routing condition value " ++ quote value ++ " does not exist in the options of " ++
      quote b.labelText ++ ".")
    s.id r.id b.id

def conditionIssue? (s : Section) (r : Rule) : Option Issue :=
  match sourceOf? r, r.value with
  | some block, some value =>
    match s.block? block with
    | none => some (missingSource s r block)
    | some b =>
      if ¬ b.asks then some (noAnswer s r b)
      else match b.choices? with
        | none => some (noChoice s r b)
        | some values => if value ∈ values then none else some (invalidValue s r b value)
  | _, _ => some (incompleteRule s r)

def ruleIssues (s : Section) (known : List String) (r : Rule) : List Issue :=
  (if r.target ∈ known then [] else [missingTarget s r]) ++
    if r.operator = .equals then (conditionIssue? s r).toList else []

def ruleIntegrity (s : Section) (known : List String) : List Issue :=
  s.rules.flatMap (ruleIssues s known)

def fallbackCount (s : Section) : Nat := s.rules.countP Rule.isFallback

def duplicateFallback (s : Section) : Issue :=
  error "duplicate_fallback"
    ("Section " ++ quote s.displayTitle ++ " has " ++ toString (fallbackCount s) ++
      " fallback ('any') routes. Only one is allowed.")
    s.id

def fallbackIssues (s : Section) : List Issue :=
  if 1 < fallbackCount s then [duplicateFallback s] else []

def duplicateSection (s : Section) : Issue :=
  error "duplicate_section" ("Section id " ++ quote s.id ++ " is used more than once.") s.id

def duplicateBlock (s : Section) (b : Block) : Issue :=
  error "duplicate_block"
    ("Block id " ++ quote b.id ++ " appears twice in " ++ quote s.displayTitle ++ ".")
    s.id none b.id

def sharedBlock (s : Section) (b : Block) (owner : String) : Issue :=
  warning "shared_block_id"
    ("Block id " ++ quote b.id ++ " is used in sections " ++ quote owner ++ " and " ++
      quote s.id ++ "; their answers will overwrite each other.")
    s.id none b.id

/-- Identifiers seen so far: sections, the blocks of this section, and the section that first
had a block. -/
structure Census where
  sections : List String := []
  blocks : List String := []
  owners : List (String × String) := []
  errors : List Issue := []
  warnings : List Issue := []

def countBlock (s : Section) (c : Census) (b : Block) : Census :=
  if b.id ∈ c.blocks then { c with errors := c.errors ++ [duplicateBlock s b] }
  else
    let c := { c with blocks := c.blocks ++ [b.id] }
    match Entries.get? b.id c.owners with
    | none => { c with owners := c.owners ++ [(b.id, s.id)] }
    | some owner =>
      if owner = s.id then c else { c with warnings := c.warnings ++ [sharedBlock s b owner] }

def countSection (c : Census) (s : Section) : Census :=
  let errors := if s.id ∈ c.sections then c.errors ++ [duplicateSection s] else c.errors
  s.blocks.foldl (countBlock s)
    { c with sections := c.sections ++ [s.id], blocks := [], errors := errors }

def census (sections : List Section) : Census := sections.foldl countSection {}

def missingBooking (s : Section) (b : Block) : Issue :=
  error "invalid_booking_url"
    ("\"Book a Call\" block in " ++ doubleQuote s.displayTitle ++ " is missing a booking URL.")
    s.id none b.id

def invalidBooking (s : Section) (b : Block) : Issue :=
  error "invalid_booking_url"
    ("\"Book a Call\" block in " ++ doubleQuote s.displayTitle ++
      " has an invalid URL. Must be http:// or https://.")
    s.id none b.id

def linkLimit (s : Section) (b : Block) (n : Int) : Issue :=
  warning "link_max_items"
    ("\"Link Preview\" block in " ++ doubleQuote s.displayTitle ++ " has max links set to " ++
      toString n ++ ".")
    s.id none b.id

def sparseOptions (s : Section) (b : Block) : Issue :=
  warning "sparse_options"
    (quote b.labelText ++ " in " ++ doubleQuote s.displayTitle ++
      " offers fewer than two options.")
    s.id none b.id

def blockErrors (s : Section) (b : Block) : List Issue :=
  match b with
  | .bookCall _ booking =>
    if booking.url.isEmpty then [missingBooking s b]
    else if Url.isHttp booking.url then [] else [invalidBooking s b]
  | _ => []

def blockWarnings (s : Section) (b : Block) : List Issue :=
  match b with
  | .links _ (some n) => if n ≤ 0 then [linkLimit s b n] else []
  | b => match b.choices? with
    | some values => if values.length < 2 then [sparseOptions s b] else []
    | none => []

def unreachableIssue (p : Policy) (s : Section) : Issue :=
  { severity := if p.unreachableIsError then .error else .warning
    code := "unreachable_section"
    message := "Section " ++ quote s.displayTitle ++ " is unreachable from the start."
    sectionId := s.id }

def unreachableSections (sections : List Section) (reached : List String) : List Section :=
  match sections with
  | [] => []
  | s :: rest =>
    if s.id ∈ reached then unreachableSections rest reached
    else s :: unreachableSections rest (s.id :: reached)

def openEnded (sections : List Section) : List String :=
  (sections.filter fun s => (matchFallback s.rules).isNone).map (·.id)

def loopText (c : List String) : String :=
  " → ".intercalate ((c ++ c.take 1).map quote)

def escapableLoop (c : List String) : Issue :=
  warning "escapable_cycle"
    ("This flow contains a loop (" ++ loopText c ++ "). Respondents can leave it.") c.head?

def inescapableLoop (c : List String) : Issue :=
  error "inescapable_cycle"
    ("Sections " ++ loopText c ++ " form a loop with no route to the end of the form.") c.head?

def escapes (finish : List String) (c : List String) : Bool := c.any (· ∈ finish)

def terminalRoutes (last : Section) : Issue :=
  warning "terminal_has_routes"
    ("The last section " ++ quote last.displayTitle ++
      " has routing rules; confirm it should not lead to completion.")
    last.id

def noTerminal : Issue :=
  warning "no_terminal_section" "No end sections defined (flow might loop forever)."

def emptyFlow : Report :=
  { isValid := false, errors := [error "empty_flow" "Flow must have at least one section."] }

def sectionErrors (known : List String) (s : Section) : List Issue :=
  ruleIntegrity s known ++ fallbackIssues s ++ s.blocks.flatMap (blockErrors s)

def sectionWarnings (s : Section) : List Issue := s.blocks.flatMap (blockWarnings s)

def terminalWarnings (sections : List Section) : List Issue :=
  match sections.getLast? with
  | some last => if last.rules.isEmpty then [] else [terminalRoutes last]
  | none => []

def starts (g : Graph) : List String :=
  g.nodes.filter fun n => n ∉ g.flatMap (·.2)

def ends (g : Graph) : List String := g.nodes.filter fun n => (g.targets n).isEmpty

def checkFrom (policy : Policy) (entry : Section) (sections : List Section) : Report :=
  let known := sections.map (·.id)
  let g := graphOf sections
  let ids := census sections
  let unreachable := unreachableSections sections (g.reachable entry.id)
  let unreachableIssues := unreachable.map (unreachableIssue policy)
  let finish := g.canFinish (openEnded sections)
  let loops := g.cycles entry.id
  let errors := ids.errors ++ sections.flatMap (sectionErrors known) ++
    (if policy.unreachableIsError then unreachableIssues else []) ++
    (loops.filter (!escapes finish ·)).map inescapableLoop
  let warnings := ids.warnings ++ sections.flatMap sectionWarnings ++
    (if policy.unreachableIsError then [] else unreachableIssues) ++
    (loops.filter (escapes finish)).map escapableLoop ++
    terminalWarnings sections ++ (if (ends g).isEmpty then [noTerminal] else [])
  { isValid := errors.isEmpty
    errors := errors
    warnings := warnings
    stats :=
      { starts := starts g, ends := ends g, unreachable := unreachable.map (·.id)
        total := sections.length } }

def check (policy : Policy) (sections : List Section) : Report :=
  match sections with
  | [] => emptyFlow
  | entry :: _ => checkFrom policy entry sections

end IntakeForms.Flow
