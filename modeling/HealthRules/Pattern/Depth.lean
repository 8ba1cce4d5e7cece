import HealthRules.Pattern.Syntax

/-!
# Depth — how deeply a pattern is nested

Groups, repetitions, alternatives, sequences and bracketed classes nest, and a pattern may nest only to a
limit. A pattern beyond it is refused at the first part, in the order of the text, that is too deep.

* `Node.tooDeep?` finds that part.
-/

namespace HealthRules.Pattern

namespace ClassSet

mutual

/-- The first part of a class item that does not fit into `room` levels. -/
def tooDeep? (room : Nat) : ClassSet → Option Span
  | bracketed span _ body => match room with
    | 0 => some span
    | room + 1 => tooDeep? room body
  | union span items => match room with
    | 0 => some span
    | room + 1 => anyTooDeep? room items
  | binary span _ left right => match room with
    | 0 => some span
    | room + 1 => (tooDeep? room left).or (tooDeep? room right)
  | _ => none

def anyTooDeep? (room : Nat) : List ClassSet → Option Span
  | [] => none
  | item :: items => (tooDeep? room item).or (anyTooDeep? room items)

end

end ClassSet

namespace Node

mutual

/-- The first part of a pattern that does not fit into `room` levels. -/
def tooDeep? (room : Nat) : Node → Option Span
  | bracketed span _ body => match room with
    | 0 => some span
    | room + 1 => body.tooDeep? room
  | repetition span _ body => match room with
    | 0 => some span
    | room + 1 => tooDeep? room body
  | group span _ body => match room with
    | 0 => some span
    | room + 1 => tooDeep? room body
  | alternation span branches => match room with
    | 0 => some span
    | room + 1 => anyTooDeep? room branches
  | concat span parts => match room with
    | 0 => some span
    | room + 1 => anyTooDeep? room parts
  | _ => none

def anyTooDeep? (room : Nat) : List Node → Option Span
  | [] => none
  | n :: ns => (tooDeep? room n).or (anyTooDeep? room ns)

end

end Node

end HealthRules.Pattern
