import WireSchema.Schema.Problem

/-!
# Checks of nesting

A message that holds another one inline, as a field or in an array of fixed length, takes at least
its bytes. Inline nesting must not run in circles, else a message would have no end. And the
elements of a counted array must take bytes, else a short message could announce any number of
them.

  * `Model.cycles` — the circles that a depth-first search over inline nesting closes.
  * `Model.takesNothing` — is every value of a kind without bytes?
-/

namespace WireSchema

/-! ## Circles -/

/-- The name of the message that a kind stores inline. -/
def Kind.inlineName? : Kind → Option String
  | named name => some name
  | array element (.fixed _) => element.inlineName?
  | _ => none

namespace Model

/-- The position of the last message with a given name. -/
def indexOf? (model : Model) (name : String) : Option Nat :=
  lastIndexOf? Message.name model.messages name

/-- The positions of the messages that the message at a position stores inline, in the order of its
    fields. -/
def inlineAt (model : Model) (node : Nat) : List Nat :=
  match model.messages[node]? with
  | none => []
  | some m => (m.fields.filterMap fun f => f.kind.inlineName?).filterMap model.indexOf?

/-- How far the search has come with a message. -/
inductive Mark
  /-- It was not seen yet. -/
  | white
  /-- The search goes on inside it. -/
  | gray
  /-- It is finished. -/
  | black
deriving DecidableEq

/-- The state of a search over inline nesting. -/
structure Search where
  /-- The marks of all positions. -/
  marks : List Mark
  /-- The positions that the search has entered and not left, last first. -/
  stack : List Nat
  /-- The circles found so far, each from the message that closes it back to that message. -/
  cycles : List (List Nat)

/-- The mark of a position. -/
def Search.mark (search : Search) (node : Nat) : Mark :=
  search.marks.getD node .white

/-- The circle that a step to `next` closes: the stack from `next` on, or all of it if `next` is not
    there, and `next` once more. -/
def closing (stack : List Nat) (next : Nat) : List Nat :=
  let path := stack.reverse
  path.drop ((path.idxOf? next).getD 0) ++ [next]

/-- Takes a step to `next`, where `searchOn` searches on from there. -/
def Search.step (searchOn : Search → Nat → Search) (search : Search) (next : Nat) : Search :=
  match search.mark next with
  | .white => searchOn search next
  | .gray => { search with cycles := search.cycles ++ [closing search.stack next] }
  | .black => search

/-- Searches on from `node`: enters it, takes all its steps and leaves it. -/
def searchFrom (model : Model) : Nat → Search → Nat → Search
  | 0, search, _ => search
  | depth + 1, search, node =>
    let entered : Search := ⟨search.marks.set node .gray, node :: search.stack, search.cycles⟩
    let left := (model.inlineAt node).foldl (Search.step (searchFrom model depth)) entered
    ⟨left.marks.set node .black, left.stack.tail, left.cycles⟩

/-- Searches from every position that is still white when its turn comes. -/
def search (model : Model) (depth : Nat) : Search :=
  (List.range model.messages.length).foldl
    (fun search node =>
      if search.mark node = .white then model.searchFrom depth search node else search)
    ⟨List.replicate model.messages.length .white, [], []⟩

/-- The circles of inline nesting. The stack is never higher than there are messages. -/
def cycles (model : Model) : List (List Nat) :=
  (model.search model.messages.length).cycles

/-- The problem of a circle. -/
def cycleProblem? (model : Model) (cycle : List Nat) : Option Problem := do
  let origin ← model.messages[← cycle.getLast?]?
  let names := (cycle.filterMap fun n => model.messages[n]?).map Message.name
  return .recursiveNesting origin.name names origin.location

/-! ## Elements without bytes -/

end Model

/-- Is every value of a kind without bytes, where `named` decides it for names? -/
def Kind.takesNothing (named : String → Bool) : Kind → Bool
  | .array _ .counted => false
  | .array element (.fixed n) => n == 0 || element.takesNothing named
  | .named name => named name
  | .primitive _ => false
  | .unsupported _ => false

namespace Model

/-- Is every value of a named kind without bytes? A name under `visiting` belongs to a circle, which
    is reported elsewhere. -/
def nameTakesNothing (model : Model) : Nat → List String → String → Bool
  | 0, _, _ => false
  | depth + 1, visiting, name =>
    match model.messages.find? fun m => m.name == name with
    | none => false
    | some m =>
      !visiting.contains name &&
        m.fields.all fun f => f.kind.takesNothing (model.nameTakesNothing depth (name :: visiting))

/-- Is every value of a kind without bytes? -/
def takesNothing (model : Model) (kind : Kind) : Bool :=
  kind.takesNothing (model.nameTakesNothing (model.messages.length + 1) [])

/-- Has a kind a counted array whose elements take no bytes? -/
def hasEmptyElements (model : Model) : Kind → Bool
  | .array element .counted => model.takesNothing element || model.hasEmptyElements element
  | .array element (.fixed _) => model.hasEmptyElements element
  | _ => false

end Model

/-- The problems of counted arrays in a field. -/
def elementProblems (model : Model) (m : Message) (f : Field) : List Problem :=
  if model.hasEmptyElements f.kind then
    [.zeroWidthElement m.name f.name f.kind.toText f.location]
  else []

end WireSchema
