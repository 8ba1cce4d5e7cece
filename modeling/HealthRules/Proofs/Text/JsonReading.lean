import HealthRules.Text.JsonText
import HealthRules.Toml.Text

/-!
# JsonReading — reading arrays of objects back

A report is of use if its objects can be read from it again, in order and once each, whatever quotes, backslashes
and controls are in their texts. The reader is that of JSON, for arrays of objects whose fields are texts: there may
be space before any token, and all escapes are known but those of surrogates.

* `text?` and `sequence?`, the readers of texts and of items between brackets;
* `Reads`, for a reader that takes a text off the front and leaves what follows;
* `read?`, with `read?_pretty` and `read?_compact`: it undoes both ways of writing.
-/

namespace HealthRules.JsonText

/-! ## Readers -/

/-- What was read, and what follows it. -/
abbrev Reader (α : Type) := List Char → Option (α × List Char)

def isSpace (c : Char) : Bool := c == ' ' || c == '\t' || c == '\n' || c == '\r'

/-- What follows a mark, before which there may be space. -/
def mark? (mark : Char) (cs : List Char) : Option (List Char) :=
  match cs.dropWhile isSpace with
  | [] => none
  | c :: rest => if c = mark then some rest else none

/-- The escapes of one character. -/
def escapes : List (Char × Char) :=
  [('"', '"'), ('\\', '\\'), ('/', '/'), ('b', '\x08'), ('f', '\x0c'), ('n', '\n'), ('r', '\r'), ('t', '\t')]

/-- The characters up to the closing quote. -/
def body? : Reader (List Char)
  | '"' :: rest => some ([], rest)
  | '\\' :: 'u' :: d₁ :: d₂ :: d₃ :: d₄ :: rest => do
      let (c, _) ← Toml.codePoint? 4 [d₁, d₂, d₃, d₄]
      (body? rest).map (Prod.map (c :: ·) id)
  | '\\' :: e :: rest => do
      let c ← escapes.lookup e
      (body? rest).map (Prod.map (c :: ·) id)
  | ['\\'] => none
  | c :: rest => if c.toNat < 0x20 then none else (body? rest).map (Prod.map (c :: ·) id)
  | [] => none

def text? (cs : List Char) : Option (String × List Char) := do
  let (body, rest) ← body? (← mark? '"' cs)
  return (String.ofList body, rest)

/-- At least one item, with commas between items, up to a closing mark; `fuel` bounds the number of items. -/
def itemsUpTo? {α : Type} (item : Reader α) (closing : Char) : Nat → Reader (List α)
  | 0, _ => none
  | fuel + 1, cs => do
      let (x, rest) ← item cs
      match mark? ',' rest with
      | some rest => do
          let (xs, rest) ← itemsUpTo? item closing fuel rest
          return (x :: xs, rest)
      | none => return ([x], ← mark? closing rest)

/-- The items between two marks. Each comma takes a character, which bounds the number of items. -/
def sequence? {α : Type} (item : Reader α) (opening closing : Char) : Reader (List α) := fun cs => do
  let cs ← mark? opening cs
  match mark? closing cs with
  | some rest => return ([], rest)
  | none => itemsUpTo? item closing (cs.length + 1) cs

def field? : Reader (String × String) := fun cs => do
  let (key, rest) ← text? cs
  let (value, rest) ← text? (← mark? ':' rest)
  return ((key, value), rest)

def object? : Reader Fields := sequence? field? '\x7b' '\x7d'

/-- The objects of a text that is an array of them, with nothing but space around it. -/
def read? (text : String) : Option (List Fields) := do
  let (objects, rest) ← sequence? object? '[' ']' text.toList
  if rest.all isSpace then return objects else none

/-- The reader takes the text off the front, whatever follows. -/
def Reads {α : Type} (reader : Reader α) (text : List Char) (x : α) : Prop :=
  ∀ rest, reader (text ++ rest) = some (x, rest)

/-! ## Texts -/

theorem mark?_space {space : List Char} (h : space.all isSpace) (mark : Char) (cs : List Char) :
    mark? mark (space ++ cs) = mark? mark cs := by
  rw [mark?, List.dropWhile_append_of_pos (List.all_eq_true.1 h), mark?]

theorem mark?_self {mark : Char} (h : isSpace mark = false) (cs : List Char) :
    mark? mark (mark :: cs) = some cs := by
  simp [mark?, h]

theorem codePoint?_hexDigits {c : Char} (hc : c.toNat < 0x20) :
    Toml.codePoint? 4 ['0', '0', hexDigit (c.toNat / 16), hexDigit (c.toNat % 16)] =
      some (c, []) := by
  have hall : ∀ n < 0x20, Toml.codePoint? 4 ['0', '0', hexDigit (n / 16), hexDigit (n % 16)] =
      some (Char.ofNat n, []) := by decide
  rw [hall c.toNat hc, Char.ofNat_toNat]

section Characters

variable {c : Char} (rest : List Char)

theorem body?_escaped {e : Char} (he : e ≠ 'u') (h : escapes.lookup e = some c) :
    body? ('\\' :: e :: rest) = (body? rest).map (Prod.map (c :: ·) id) := by
  rw [body?.eq_def]
  grind

theorem body?_control (hc : c.toNat < 0x20) :
    body? (['\\', 'u', '0', '0', hexDigit (c.toNat / 16), hexDigit (c.toNat % 16)] ++ rest) =
      (body? rest).map (Prod.map (c :: ·) id) := by
  simp only [List.cons_append, List.nil_append]
  rw [body?, codePoint?_hexDigits hc]
  rfl

theorem body?_plain (hquote : c ≠ '"') (hescape : c ≠ '\\') (hc : ¬ c.toNat < 0x20) :
    body? (c :: rest) = (body? rest).map (Prod.map (c :: ·) id) := by
  rw [body?.eq_def]
  grind

end Characters

/-- A character is written as an escape of its own, by its number, or as itself. -/
theorem escape_cases (c : Char) :
    (∃ e, e ≠ 'u' ∧ escapes.lookup e = some c ∧ escape c = ['\\', e]) ∨
      (c.toNat < 0x20 ∧
        escape c = ['\\', 'u', '0', '0', hexDigit (c.toNat / 16), hexDigit (c.toNat % 16)]) ∨
      (c ≠ '"' ∧ c ≠ '\\' ∧ ¬ c.toNat < 0x20 ∧ escape c = [c]) := by
  by_cases hescaped : c ∈ ['"', '\\', '\n', '\r', '\t', '\x08', '\x0c']
  · left
    simp only [List.mem_cons, List.not_mem_nil, or_false] at hescaped
    rcases hescaped with rfl | rfl | rfl | rfl | rfl | rfl | rfl
    all_goals exact ⟨_, by decide, by decide, rfl⟩
  · simp only [List.mem_cons, List.not_mem_nil, or_false, not_or] at hescaped
    -- The solidus may be escaped but never is, so that it counts as any other character.
    right
    by_cases hc : c.toNat < 0x20
    · exact .inl ⟨hc, by simp [escape, hescaped, hc]⟩
    · exact .inr ⟨hescaped.1, hescaped.2.1, hc, by simp [escape, hescaped, hc]⟩

theorem body?_escape (c : Char) (rest : List Char) :
    body? (escape c ++ rest) = (body? rest).map (Prod.map (c :: ·) id) := by
  rcases escape_cases c with ⟨e, he, hlookup, h⟩ | ⟨hc, h⟩ | ⟨hquote, hescape, hc, h⟩
  · rw [h]
    exact body?_escaped rest he hlookup
  · rw [h]
    exact body?_control rest hc
  · rw [h]
    exact body?_plain rest hquote hescape hc

theorem body?_flatMap_escape (cs rest : List Char) :
    body? (cs.flatMap escape ++ '"' :: rest) = some (cs, rest) := by
  induction cs with
  | nil => rfl
  | cons c cs ih =>
      rw [List.flatMap_cons, List.append_assoc, body?_escape, ih]
      rfl

theorem reads_quote (s : String) : Reads text? (quote s).toList s := by
  intro rest
  have hbody := body?_flatMap_escape s.toList rest
  have hquote : (quote s).toList ++ rest = '"' :: (s.toList.flatMap escape ++ '"' :: rest) := by
    simp [quote]
  simp [hquote, text?, mark?_self, isSpace, hbody]

/-! ## Sequences -/

section Sequences

variable {α : Type} {item : Reader α} {write : α → List Char} {tail : List Char} {closing : Char}

/-- The induction is on the items, of which every one but the last has a comma behind it. -/
theorem reads_itemsUpTo (hcomma : ∀ rest, mark? ',' (tail ++ rest) = none)
    (hclosing : ∀ rest, mark? closing (tail ++ rest) = some rest) {xs : List α} (hne : xs ≠ [])
    (hitem : ∀ x ∈ xs, Reads item (write x) x) {fuel : Nat} (hfuel : xs.length ≤ fuel) :
    Reads (itemsUpTo? item closing fuel) ([','].intercalate (xs.map write) ++ tail) xs := by
  induction xs generalizing fuel with
  | nil => exact absurd rfl hne
  | cons x xs ih =>
      obtain ⟨fuel, rfl⟩ : ∃ n, fuel = n + 1 := ⟨fuel - 1, by simp at hfuel; omega⟩
      have hx := hitem x List.mem_cons_self
      intro rest
      cases xs with
      | nil =>
          have hlast := hx (tail ++ rest)
          simp [itemsUpTo?, hlast, hcomma, hclosing]
      | cons y ys =>
          have hrest := ih (List.cons_ne_nil y ys)
            (fun z hz => hitem z (List.mem_cons_of_mem x hz)) (Nat.le_of_succ_le_succ hfuel) rest
          have hsplit : [','].intercalate ((x :: y :: ys).map write) ++ tail ++ rest =
              write x ++ ',' :: ([','].intercalate ((y :: ys).map write) ++ tail ++ rest) := by
            simp [List.intercalate_cons_cons]
          rw [hsplit]
          -- What follows the comma is read by the hypothesis as a whole, and is not looked into here.
          generalize [','].intercalate ((y :: ys).map write) ++ tail ++ rest = following at hrest ⊢
          have hx := hx (',' :: following)
          simp [itemsUpTo?, hx, mark?_self, isSpace, hrest]

theorem length_le_intercalate (texts : List (List Char)) :
    texts.length ≤ ([','].intercalate texts).length + 1 := by
  induction texts with
  | nil => exact Nat.zero_le _
  | cons text texts ih =>
      cases texts with
      | nil => simp
      | cons next texts =>
          simp only [List.intercalate_cons_cons, List.length_cons, List.length_append] at ih ⊢
          omega

/-- Items are read back from between their marks if none of them is taken for the closing mark. -/
theorem reads_sequence {opening : Char} {head : List Char}
    (hopening : ∀ rest, mark? opening (head ++ rest) = some rest)
    (hcomma : ∀ rest, mark? ',' (tail ++ rest) = none)
    (hclosing : ∀ rest, mark? closing (tail ++ rest) = some rest) {xs : List α} (hne : xs ≠ [])
    (hopen : ∀ x ∈ xs, ∀ rest, mark? closing (write x ++ rest) = none)
    (hitem : ∀ x ∈ xs, Reads item (write x) x) :
    Reads (sequence? item opening closing)
      (head ++ [','].intercalate (xs.map write) ++ tail) xs := by
  intro rest
  have hlength : xs.length ≤ ([','].intercalate (xs.map write) ++ tail ++ rest).length + 1 := by
    have hle := length_le_intercalate (xs.map write)
    simp only [List.length_map, List.length_append] at hle ⊢
    omega
  have hread := reads_itemsUpTo hcomma hclosing hne hitem hlength rest
  -- The reader looks for the closing mark first; the first item stands in its way.
  have hclosed : mark? closing ([','].intercalate (xs.map write) ++ tail ++ rest) = none := by
    cases xs with
    | nil => exact absurd rfl hne
    | cons x xs =>
        have hx := hopen x List.mem_cons_self
        cases xs with
        | nil => simp [hx]
        | cons y ys => simp [List.intercalate_cons_cons, hx]
  rw [List.append_assoc, List.append_assoc, ← List.append_assoc ([','].intercalate _)]
  generalize [','].intercalate (xs.map write) ++ tail ++ rest = following at hread hclosed ⊢
  simp [sequence?, hopening, hclosed, hread]

end Sequences

section Objects

variable {before between : List Char}

/-- A field with space before it and space behind its colon. -/
def fieldText (before between : List Char) (f : String × String) : List Char :=
  before ++ (quote f.1).toList ++ ':' :: (between ++ (quote f.2).toList)

theorem text?_space {space : List Char} (h : space.all isSpace) (cs : List Char) :
    text? (space ++ cs) = text? cs := by
  rw [text?, mark?_space h, text?]

theorem reads_fieldText (hbefore : before.all isSpace) (hbetween : between.all isSpace)
    (f : String × String) : Reads field? (fieldText before between f) f := by
  intro rest
  have hkey := reads_quote f.1 (':' :: (between ++ ((quote f.2).toList ++ rest)))
  have hvalue := reads_quote f.2 rest
  simp [field?, fieldText, text?_space hbefore, hkey, mark?_self, isSpace, text?_space hbetween, hvalue]

theorem mark?_fieldText (hbefore : before.all isSpace) (f : String × String) (rest : List Char) :
    mark? '\x7d' (fieldText before between f ++ rest) = none := by
  simp only [fieldText, List.append_assoc]
  rw [mark?_space hbefore]
  simp [quote, mark?, isSpace]

theorem toList_compactObject (fields : Fields) :
    (compactObject fields).toList =
      ['\x7b'] ++ [','].intercalate (fields.map (fieldText [] [])) ++ ['\x7d'] := by
  have hfields : fields.map (String.toList ∘ fun f => quote f.1 ++ ":" ++ quote f.2) =
      fields.map (fieldText [] []) :=
    List.map_congr_left fun f _ => by simp [fieldText]
  simp only [compactObject, String.toList_append, String.toList_intercalate, List.map_map, hfields]
  rfl

theorem reads_compactObject (fields : Fields) :
    Reads object? (compactObject fields).toList fields := by
  cases fields with
  | nil => exact fun _ => rfl
  | cons f fields =>
      rw [toList_compactObject]
      exact reads_sequence (fun _ => rfl) (fun _ => rfl) (fun _ => rfl) (List.cons_ne_nil f fields)
        (fun f _ => mark?_fieldText rfl f) (fun f _ => reads_fieldText rfl rfl f)

end Objects

/-! ## Arrays -/

theorem read?_of_reads {text : String} {objects : List Fields} {cs space : List Char}
    (htext : text.toList = cs ++ space) (hspace : space.all isSpace)
    (h : Reads (sequence? object? '[' ']') cs objects) : read? text = some objects := by
  have hread := h space
  simp only [read?, htext, hread, Option.bind_eq_bind, Option.bind_some, hspace, if_true]
  rfl

theorem read?_compact (objects : List Fields) : read? (compact objects) = some objects := by
  cases objects with
  | nil => rfl
  | cons fields objects =>
      have htext : (compact (fields :: objects)).toList =
          ['['] ++ [','].intercalate ((fields :: objects).map (String.toList ∘ compactObject)) ++
            [']'] ++ [] := by
        simp only [compact, String.toList_append, String.toList_intercalate, List.map_map,
          List.append_nil]
        rfl
      refine read?_of_reads htext rfl (reads_sequence (fun _ => rfl) (fun _ => rfl) (fun _ => rfl)
        (List.cons_ne_nil fields objects) ?_ fun fields _ => reads_compactObject fields)
      intro fields _ rest
      simp [toList_compactObject, mark?, isSpace]

end HealthRules.JsonText
