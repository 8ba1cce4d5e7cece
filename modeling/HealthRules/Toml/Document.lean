import HealthRules.Toml.Reader

/-!
# TOML documents — headers and the lines below them

A document is a sequence of lines. A header in brackets opens a table, one in double brackets a further
table of an array, and pairs belong to the table that was opened last. A table is opened once; headers and
dotted keys make the tables on their way, and what a dotted key has made no header opens.

* `Entries.alter?`, a change at the end of a path;
* `Draft`, a document being read, with `Draft.addPair?`, `Draft.openTable?` and `Draft.openItem?`;
* `parse?`.
-/

namespace HealthRules.Toml

/-! ## Paths through tables -/

/-- Change the table at the end of a path, and make tables that are missing on the way. In an array of
tables the way leads through the last. A dotted key goes only through tables that no header has opened. -/
def Entries.alter? (dotted : Bool) (change : Origin → Entries → Option Entries) :
    List String → Origin → Entries → Option Entries
  | [], origin, e => change origin e
  | k :: ks, _, e => match e.get? k with
    | none => do
        let origin := if dotted then Origin.dotted else .implied
        let sub ← alter? dotted change ks origin []
        return e.put k (.table origin sub)
    | some (.tables items) => do
        let last ← items.getLast?
        let sub ← alter? dotted change ks .header last
        return e.put k (.tables (items.dropLast ++ [sub]))
    | some (.table origin sub) =>
        if origin = .inline ∨ origin = .inlineDotted ∨ (dotted ∧ origin = .header) then none
        else do
          let sub ← alter? dotted change ks origin sub
          return e.put k (.table origin sub)
    | some _ => none

/-! ## Documents being read -/

/-- A document as far as it has been read: the tables that are finished, the table that was opened last
and its path, and whether it is a further table of an array. The first table has no path. -/
structure Draft where
  finished : Entries := []
  current : Entries := []
  path : List String := []
  isItem : Bool := false

namespace Draft

/-- Put the value of a pair into a table; a dotted key ends in a table that dotted keys have made. -/
def addTo (key : String) (dotted : Bool) (v : Value) (origin : Origin) (e : Entries) :
    Option Entries :=
  if (dotted ∧ origin ≠ .dotted) ∨ (e.get? key).isSome then none else some (e.put key v)

/-- Add a pair to the table that was opened last. -/
def addPair? (d : Draft) (path : List String) (v : Value) : Option Draft := do
  let key ← path.getLast?
  let way := path.dropLast
  let current ← d.current.alter? true (addTo key (!way.isEmpty) v) way .header
  return { d with current }

/-- Put a finished table at its place. -/
def place (key : String) (isItem : Bool) (table : Entries) (e : Entries) : Option Entries :=
  match isItem, e.get? key with
  | true, none => some (e.put key (.tables [table]))
  | true, some (.tables items) => some (e.put key (.tables (items ++ [table])))
  | false, none => some (e.put key (.table .header table))
  | _, some _ => none

/-- Finish the table that was opened last. -/
def finish? (d : Draft) : Option Entries :=
  match d.path.getLast? with
  | none => some d.current
  | some key =>
      d.finished.alter? false (fun _ => place key d.isItem d.current) d.path.dropLast .header

/-- Open a table. One that only longer headers have made so far keeps what is in it. -/
def openTable? (d : Draft) (path : List String) : Option Draft := do
  let finished ← d.finish?
  let key ← path.getLast?
  let found := fun (e : Entries) => match e.get? key with
    | none => some []
    | some (.table .implied sub) => some sub
    | some _ => none
  let finished ← finished.alter? false (fun _ e => some e) path.dropLast .header
  let current ← at? found path.dropLast finished
  let finished ← finished.alter? false (fun _ e => some (e.erase key)) path.dropLast .header
  return { finished, current, path }
where
  at? (found : Entries → Option Entries) : List String → Entries → Option Entries
    | [], e => found e
    | k :: ks, e => match e.get? k with
      | some (.table _ sub) => at? found ks sub
      | some (.tables items) => items.getLast?.bind (at? found ks)
      | _ => none

/-- Open a further table of an array. -/
def openItem? (d : Draft) (path : List String) : Option Draft := do
  let finished ← d.finish?
  let key ← path.getLast?
  let finished ← finished.alter? false (fun _ e => match e.get? key with
    | none => some e
    | some (.tables _) => some e
    | some _ => none) path.dropLast .header
  return { finished, path, isItem := true }

end Draft

/-! ## Lines -/

/-- Read one line that is not blank into a draft. -/
def line? (d : Draft) : List Char → Option (Draft × List Char)
  | '[' :: '[' :: cs => do
      let (path, cs) ← path? cs
      let cs ← char? ']' (← char? ']' cs)
      let cs ← lineEnd? cs
      return (← d.openItem? path, cs)
  | '[' :: cs => do
      let (path, cs) ← path? cs
      let cs ← char? ']' cs
      let cs ← lineEnd? cs
      return (← d.openTable? path, cs)
  | cs => do
      let (path, cs) ← path? cs
      let cs ← char? '=' cs
      let (v, cs) ← value? (skipBlanks cs)
      let cs ← lineEnd? cs
      return (← d.addPair? path v, cs)

/-- Read lines to the end of the text; `fuel` bounds their number. -/
def linesUpTo : Nat → Draft → List Char → Option Draft
  | 0, _, _ => none
  | fuel + 1, d, cs =>
      match skipBlanks cs with
      | [] => some d
      | cs => match lineEnd? cs with
        | some rest => linesUpTo fuel d rest
        | none => do
            let (d, rest) ← line? d cs
            linesUpTo fuel d rest

/-- A text without the mark of its byte order, if it has one. -/
def withoutMark : List Char → List Char
  | '\uFEFF' :: cs => cs
  | cs => cs

/-- Read a document. -/
def parse? (text : String) : Option Entries := do
  let cs := withoutMark text.toList
  let d ← linesUpTo (cs.length + 1) {} cs
  d.finish?

end HealthRules.Toml
