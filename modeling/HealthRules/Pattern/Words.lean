import HealthRules.Pattern.Expr
import HealthRules.Pattern.WordTree

/-!
# Words — expressions that come down to a few words

Some expressions match a few words and nothing else. These words can be searched for directly, so that no
automaton is needed and none can be too large. Whether that is so is found by listing how a match may begin,
within limits; the expression comes down to words if each beginning that is worth searching for is a whole
match.

* `Beginning`, and `Beginnings` with unions and sequences of them;
* `Expr.beginnings`, how the matches of an expression begin;
* `Beginnings.select`, the beginnings that are worth searching for;
* `Expr.isWords`.
-/

namespace HealthRules.Pattern

/-- How a match may begin, or a whole match. -/
structure Beginning where
  bytes : Word
  isWhole : Bool
  deriving DecidableEq, Repr

namespace Beginning

/-- More may follow. -/
def opened (b : Beginning) : Beginning := { b with isWhole := false }

/-- Keep at most `n` bytes. -/
def cut (n : Nat) (b : Beginning) : Beginning :=
  if b.bytes.length ≤ n then b else ⟨b.bytes.take n, false⟩

/-- One beginning after another; nothing is known to follow one that is open. -/
def andThen (a : Beginning) (bs : List Beginning) : List Beginning :=
  if a.isWhole then bs.map fun b => ⟨a.bytes ++ b.bytes, b.isWhole⟩ else [a]

/-- Put a beginning in front of others, joining it with the first of them if that is the same. -/
def consMerged (b : Beginning) : List Beginning → List Beginning
  | c :: rest =>
      if b.bytes = c.bytes then ⟨b.bytes, b.isWhole && c.isWhole⟩ :: rest else b :: c :: rest
  | [] => [b]

/-- Join neighbours that are the same. -/
def merge (bs : List Beginning) : List Beginning := bs.foldr consMerged []

end Beginning

/-- All beginnings of a match in the order of preference, or nothing if there are too many to list. -/
abbrev Beginnings := Option (List Beginning)

namespace Beginnings

/-! ## Limits -/

/-- How many members of a set are listed. -/
def longestSet : Nat := 10

/-- How many rounds of a repetition are listed. -/
def longestRepetition : Nat := 10

/-- How many bytes a beginning has at most. -/
def longestWord : Nat := 100

/-- How many beginnings are listed. -/
def longestList : Nat := 250

/-! ## Operations -/

/-- The empty match alone. -/
def unit : Beginnings := some [⟨[], true⟩]

def ofWord (w : Word) : Beginnings := some [Beginning.cut longestWord ⟨w, true⟩]

/-- The members of a set, if they are few. -/
def ofSet (s : CharSet) : Beginnings :=
  if longestSet < (s.runs.map Run.size).foldr (· + ·) 0 then none
  else some (s.runs.flatMap fun r => (List.range r.size).map fun i =>
    ⟨Utf8.encodeChar (Char.ofNat (r.first + i)), true⟩)

/-- No match is known as a whole. -/
def isOpen : Beginnings → Bool
  | none => true
  | some bs => bs.all (!·.isWhole)

def opened (s : Beginnings) : Beginnings := s.map fun bs => bs.map Beginning.opened

/-- One after the other. Where the second cannot be listed, an empty beginning leaves nothing to list. -/
def andThen (s t : Beginnings) : Beginnings :=
  match s, t with
  | none, _ => none
  | some as, none => afterAny as
  | some as, some bs =>
      if longestList < as.length * bs.length then afterAny as
      else some ((Beginning.merge (as.flatMap (Beginning.andThen · bs))).map (.cut longestWord))
where
  afterAny (as : List Beginning) : Beginnings :=
    if as.any (·.bytes.isEmpty) then none
    else some ((as.map Beginning.opened).map (.cut longestWord))

/-- One or the other. Too many are cut to a few bytes before that is given up. -/
def orElse (s t : Beginnings) : Beginnings :=
  match s, t with
  | some as, some bs =>
      if as.length + bs.length ≤ longestList then some (Beginning.merge (as ++ bs))
      else
        let as := Beginning.merge (as.map (.cut 4))
        let bs := Beginning.merge (bs.map (.cut 4))
        if as.length + bs.length ≤ longestList then some (Beginning.merge (as ++ bs)) else none
  | _, _ => none

/-- As many rounds as `n` says, as long as a match is known as a whole. -/
def power (body : Beginnings) : Nat → Beginnings → Beginnings
  | 0, s => s
  | n + 1, s => if s.isOpen then s else power body n (s.andThen body)

def repetition (least : Nat) (most : Option Nat) (greedy : Bool) (body : Beginnings) :
    Beginnings :=
  if least = 0 then
    let body := if most = some 1 then body else body.opened
    if greedy then body.orElse unit else orElse unit body
  else
    let s := power body (min least longestRepetition) unit
    if most = some least ∧ least ≤ longestRepetition then s else s.opened

/-! ## Selection -/

/-- The bytes that texts have often. -/
def frequent : CharSet := ⟨[⟨10, 10⟩, ⟨13, 13⟩, ⟨32, 32⟩, ⟨40, 41⟩, ⟨44, 50⟩, ⟨57, 58⟩, ⟨95, 95⟩,
  ⟨97, 105⟩, ⟨108, 112⟩, ⟨114, 118⟩, ⟨120, 121⟩, ⟨124, 124⟩, ⟨128, 132⟩, ⟨144, 144⟩, ⟨177, 177⟩,
  ⟨181, 183⟩, ⟨185, 189⟩, ⟨191, 255⟩]⟩

/-- Leave out what begins with an earlier beginning. -/
def minimal (bs : List Beginning) : List Beginning :=
  (bs.foldl (fun kept b => if kept.any (·.bytes.isPrefixOf b.bytes) then kept else b :: kept)
    []).reverse

/-- What two words begin with. -/
def commonPart : Word → Word → Word
  | a :: as, b :: bs => if a = b then a :: commonPart as bs else []
  | _, _ => []

/-- What all beginnings begin with. -/
def common : List Beginning → Word
  | [] => []
  | b :: bs => bs.foldl (fun w c => commonPart w c.bytes) b.bytes

/-- Cut beginnings more and more, each time only if they are more than a limit. -/
def shorten : List (Nat × Nat) → List Beginning → List Beginning
  | [], bs => bs
  | (length, limit) :: rest, bs =>
      if bs.length ≤ limit then bs else shorten rest (minimal (bs.map (.cut length)))

/-- Lengths to which beginnings are cut, each with the number of them that is small enough. -/
def cuts : List (Nat × Nat) := [(5, 10), (4, 10), (3, 64), (2, 64), (1, 10)]

def allWhole (bs : List Beginning) : Bool := bs.all (·.isWhole)

/-- What is searched for in place of several beginnings: their first byte if it is rare, what they share if
that is long, or else fewer and shorter ones; but whole matches stay as they are if nothing is gained. -/
def select (bs : List Beginning) : List Beginning :=
  let least := minimal bs
  let shared := common least
  let isRare := match shared with
    | b :: _ => !frequent.contains b.toNat
    | [] => false
  if 1 < bs.length && shared.length ≤ 3 && isRare then Beginning.merge (least.map (.cut 1))
  else
    let isFew := allWhole least && least.length ≤ 16
    let kept :=
      if 4 < shared.length || (1 < shared.length && !isFew) then
        Beginning.merge (least.map (.cut shared.length))
      else least
    let short := shorten cuts kept
    if allWhole kept && (short.any (·.bytes.length ≤ 2) || 64 < short.length) then kept else short

end Beginnings

namespace Expr

/-! ## Expressions -/

mutual

/-- How the matches of an expression begin. -/
def beginnings : Expr → Beginnings
  | empty => .unit
  | fail => some []
  | literal cs => .ofWord (Utf8.encode cs)
  | set _ s => .ofSet s
  | look _ => .unit
  | repetition least most greedy body => .repetition least most greedy (beginnings body)
  | capture _ body => beginnings body
  | concat parts => sequenceBeginnings .unit parts
  | alternation branches => choiceBeginnings (some []) branches

def sequenceBeginnings (s : Beginnings) : List Expr → Beginnings
  | [] => s
  | e :: es => if s.isOpen then s else sequenceBeginnings (s.andThen (beginnings e)) es

def choiceBeginnings (s : Beginnings) : List Expr → Beginnings
  | [] => s
  | e :: es => if s.isNone then s else choiceBeginnings (s.orElse (beginnings e)) es

end

mutual

/-- The expression has neither groups nor conditions on a place. -/
def isPlain : Expr → Bool
  | look _ => false
  | capture _ _ => false
  | repetition _ _ _ body => isPlain body
  | concat parts => allPlain parts
  | alternation branches => allPlain branches
  | _ => true

def allPlain : List Expr → Bool
  | [] => true
  | e :: es => isPlain e && allPlain es

end

/-- From how many words on a choice of words is always searched for directly. -/
def manyWords : Nat := 3000

/-- The expression is a choice of very many words. -/
def isWordList : Expr → Bool
  | alternation branches => manyWords ≤ branches.length && branches.all fun
    | literal _ => true
    | _ => false
  | _ => false

/-- Searching for a few words is all that the expression needs. -/
def isWords (e : Expr) : Bool :=
  e.isPlain && (e.isWordList || match e.beginnings with
    | none => false
    | some bs =>
        let bs := Beginning.merge bs
        let selected := Beginnings.select bs
        !bs.any (·.bytes.isEmpty) && !selected.isEmpty && Beginnings.allWhole selected)

end Expr

end HealthRules.Pattern
