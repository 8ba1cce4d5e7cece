import HealthRules.Pattern.Tally

/-!
# WordTree — the states that tell words apart

Alternatives that are all words are read by a tree: words that begin alike share their beginning. A word
that ends where others go on divides them, because the words before it are preferred to it and those after
it are not. Only the words below one place in the tree are needed to know the states that are made there, so
that no tree is built.

* `WordTree.parts`, how words are divided by those that end at once;
* `WordTree.branches`, the words of a part by their first byte;
* `WordTree.tally`, the states of the tree.
-/

namespace HealthRules.Pattern

/-- A word, or what is left of it, as bytes. -/
abbrev Word := List UInt8

namespace WordTree

/-! ## Parts -/

/-- Words being divided: the parts that are complete, and the words of the last one, all in reverse. -/
structure Division where
  complete : List (List Word) := []
  last : List Word := []

namespace Division

def hasWords (d : Division) : Bool := !d.last.isEmpty || d.complete.any (!·.isEmpty)

/-- Complete a part at a word that ends here. While no word goes on, only the first such word counts. -/
def cut (d : Division) : Division :=
  if !d.hasWords && !d.complete.isEmpty then d
  else { complete := d.last.reverse :: d.complete, last := [] }

def push (d : Division) (w : Word) : Division :=
  if w.isEmpty then d.cut else { d with last := w :: d.last }

def toList (d : Division) : List (List Word) := (d.last.reverse :: d.complete).reverse

end Division

/-- The words that go on, divided by those that end here. -/
def parts (words : List Word) : List (List Word) :=
  (words.foldl Division.push {}).toList

/-- A word that ends where another goes on divides the tree there. -/
example : parts [[], [1], []] = [[], [[1]], []] := by decide

example : parts [[], []] = [[], []] := by decide

/-- No word goes on. -/
def isLeaf (words : List Word) : Bool := words.all List.isEmpty

/-- What follows one byte in the words that begin with it. -/
def after (b : UInt8) (words : List Word) : List Word := words.filterMap fun
  | [] => none
  | c :: rest => if c = b then some rest else none

/-- What follows the first byte, for each first byte that there is. -/
def branches (words : List Word) : List (List Word) :=
  (words.filterMap List.head?).eraseDups.map fun b => after b words

/-! ## States -/

/-- The states of the tree below a place, down to `depth`: for each part one that reads a byte, and one that
branches to the parts and to the end between them. -/
def tallyFrom : Nat → List Word → Tally → Tally
  | 0, _, t => t
  | depth + 1, words, t =>
      let parts := parts words
      let t := parts.foldl (fun t part =>
        let branches := branches part
        let t := branches.foldl (fun t rest =>
          if isLeaf rest then t else tallyFrom depth rest t) t
        match branches.length with
        | 0 => t
        | 1 => t.add 1 0
        | n => t.add 1 (n * Tally.rangeSize)) t
      let entries := parts.countP (!·.isEmpty) + (parts.length - 1)
      t.add 1 (entries * Tally.branchSize)

/-- The states that read one of some words: their common end, and the tree. -/
def tally (words : List Word) : Tally :=
  let longest := words.foldl (fun n w => max n w.length) 0
  tallyFrom (longest + 1) words (({} : Tally).add 1 0)

end WordTree

end HealthRules.Pattern
