import HealthRules.History.Record
import HealthRules.Proofs.Config.NormalForm
import HealthRules.Proofs.Provider.Disjointness

/-!
# Columns — reading the history back

A reader of the history cuts it at line feeds into records and each record at tabs into columns. Rules that have
been read from a text have no line feeds, and those of messages are rewritten, so that there is a record for each
outcome. Tabs are not rewritten. A tab at an end of a field is trimmed, but one inside an expression or a name
stays, and messages quote expressions and values of variables; each such tab begins a column of its own.

* `Record.columns` and `Record.rows`, what a reader finds, and `Record.rows_text`: a row for each outcome;
* `Outcome.Untabbed`, with `Record.length_columns_body` and `Record.columns_body_eq_iff`: the columns of a record;
* `Config.unbroken_of_outcome`: outcomes of definitions that have been read are each on a line;
* `Config.rows_outcomesIn`, which records have four columns, and `Config.rows_outcomesIn_tab`, some that have not.
-/

namespace HealthRules

/-! ## Moments -/

theorem Calendar.isDigit_of_mem_padded {width n : Nat} {c : Char} (hc : c ∈ padded width n) :
    c.isDigit = true := by
  rcases List.mem_append.1 hc with hzero | hdigit
  · rw [List.eq_of_mem_replicate hzero]
    decide
  · exact Nat.isDigit_of_mem_toDigits (by decide) (by decide) hdigit

/-- A moment is written with digits and four marks. -/
theorem Calendar.not_mem_timestamp {c : Char} (hdigit : c.isDigit = false)
    (hmark : c ∉ ['-', 'T', ':', 'Z']) (seconds : Nat) : c ∉ (timestamp seconds).toList := by
  have hpadded : ∀ width n, c ∉ padded width n := by
    intro width n hc
    rw [isDigit_of_mem_padded hc] at hdigit
    cases hdigit
  simp only [List.mem_cons, List.not_mem_nil, or_false, not_or] at hmark
  simp only [timestamp, String.toList_ofList, List.mem_append, List.mem_cons, List.not_mem_nil,
    or_false, hpadded, hmark, not_false_eq_true]

namespace Record

/-! ## What a reader finds -/

/-- A record cut at its tabs. -/
def columns (record : List Char) : List String := (record.splitOn '\t').map String.ofList

/-- The records of a history, each in its columns. What follows the last line feed is no record. -/
def rows (history : String) : List (List String) := (history.toList.splitOn '\n').dropLast.map columns

theorem columns_append_cons (xs ys : List Char) :
    columns (xs ++ '\t' :: ys) = columns xs ++ columns ys := by
  rw [columns, Lines.splitOn_append_cons, List.map_append]
  rfl

theorem length_columns (record : List Char) : (columns record).length = record.count '\t' + 1 := by
  rw [columns, List.length_map, Lines.length_splitOn]

theorem columns_of_not_mem {record : List Char} (h : '\t' ∉ record) :
    columns record = [String.ofList record] := by
  rw [columns, List.splitOn_eq_singleton h]
  rfl

/-! ## Messages -/

theorem not_mem_message (cs : List Char) : '\n' ∉ message cs := by
  intro hmem
  rcases List.mem_flatMap.1 hmem with ⟨c, -, hc⟩
  split at hc
  · exact absurd hc (by decide)
  · next hbreak => exact hbreak (List.mem_singleton.1 hc).symm

/-- Writing line feeds otherwise neither makes tabs nor removes any. -/
theorem tab_mem_message_iff (cs : List Char) : '\t' ∈ message cs ↔ '\t' ∈ cs := by
  rw [message, List.mem_flatMap]
  constructor
  · rintro ⟨c, hc, htab⟩
    split at htab
    · exact absurd htab (by decide)
    · exact List.mem_singleton.1 htab ▸ hc
  · intro htab
    exact ⟨'\t', htab, by decide⟩

/-! ## Records -/

variable {α : Type} [Named α]

/-- The record of an outcome, without the line feed that ends it. -/
def body (time : String) (o : Outcome α) : List Char :=
  time.toList ++ '\t' :: o.status.label.toList ++ '\t' :: o.rule.render.toList ++
    '\t' :: message o.message.toList

/-- The four things that a record tells. -/
def fields (time : String) (o : Outcome α) : List String :=
  [time, o.status.label, o.rule.render, String.ofList (message o.message.toList)]

end Record

/-- Neither the rule nor the message has a tab. -/
def Outcome.Untabbed {α : Type} [Named α] (o : Outcome α) : Prop :=
  '\t' ∉ o.rule.render.toList ∧ '\t' ∉ o.message.toList

instance {α : Type} [Named α] (o : Outcome α) : Decidable o.Untabbed := inferInstanceAs (Decidable (_ ∧ _))

namespace Record

variable {α : Type} [Named α] {time : String}

theorem not_mem_label {mark : Char} (hmark : mark = '\t' ∨ mark = '\n') (s : Status) :
    mark ∉ s.label.toList := by
  rcases hmark with rfl | rfl <;> cases s <;> decide

theorem columns_body (htime : '\t' ∉ time.toList) (o : Outcome α) :
    columns (body time o) = time :: o.status.label ::
      (columns o.rule.render.toList ++ columns (message o.message.toList)) := by
  have hlabel := not_mem_label (.inl rfl) o.status
  simp only [body, List.append_assoc, List.cons_append, columns_append_cons]
  rw [columns_of_not_mem htime, columns_of_not_mem hlabel, String.ofList_toList, String.ofList_toList]
  rfl

/-- Beside the columns of the time and the status there are those of the rule and of the message, one or more. -/
theorem length_columns_body (htime : '\t' ∉ time.toList) (o : Outcome α) :
    (columns (body time o)).length = 4 ↔ o.Untabbed := by
  have hmessage := tab_mem_message_iff o.message.toList
  rw [columns_body htime, Outcome.Untabbed, ← hmessage]
  simp only [List.length_cons, List.length_append, length_columns]
  rw [← List.count_eq_zero, ← List.count_eq_zero]
  omega

theorem columns_body_eq_iff (htime : '\t' ∉ time.toList) (o : Outcome α) :
    columns (body time o) = fields time o ↔ o.Untabbed := by
  constructor
  · intro h
    rw [← length_columns_body htime, h]
    rfl
  · rintro ⟨hrule, hmessage⟩
    rw [← tab_mem_message_iff] at hmessage
    rw [columns_body htime, columns_of_not_mem hrule, columns_of_not_mem hmessage,
      String.ofList_toList]
    rfl

/-! ## Rows -/

/-- A record is on a line if its rule is. -/
theorem not_mem_body (htime : '\n' ∉ time.toList) {o : Outcome α} (hrule : '\n' ∉ o.rule.render.toList) :
    '\n' ∉ body time o := by
  have hlabel := not_mem_label (.inr rfl) o.status
  have hmessage := not_mem_message o.message.toList
  have hmark : '\n' ≠ '\t' := by decide
  simp [body, htime, hlabel, hrule, hmessage, hmark]

theorem dropLast_splitOn_flatMap (htime : '\n' ∉ time.toList) {outcomes : List (Outcome α)}
    (hrules : ∀ o ∈ outcomes, '\n' ∉ o.rule.render.toList) :
    ((outcomes.flatMap (line time)).splitOn '\n').dropLast = outcomes.map (body time) := by
  induction outcomes with
  | nil => rfl
  | cons o outcomes ih =>
      have hbody := not_mem_body htime (hrules o List.mem_cons_self)
      have hline : (o :: outcomes).flatMap (line time) =
          body time o ++ '\n' :: outcomes.flatMap (line time) := by
        simp [line, body]
      rw [hline, Lines.splitOn_append_cons, List.splitOn_eq_singleton hbody, List.singleton_append,
        List.dropLast_cons_of_ne_nil (List.splitOn_ne_nil '\n' _), List.map_cons,
        ih fun o' ho' => hrules o' (List.mem_cons_of_mem o ho')]

/-- There is a row for each outcome, in order. -/
theorem rows_text (seconds : Nat) {outcomes : List (Outcome α)}
    (hrules : ∀ o ∈ outcomes, '\n' ∉ o.rule.render.toList) :
    rows (text seconds outcomes) =
      outcomes.map fun o => columns (body (Calendar.timestamp seconds) o) := by
  have htime : '\n' ∉ (Calendar.timestamp seconds).toList :=
    Calendar.not_mem_timestamp (by decide) (by decide) seconds
  rw [rows, text, String.toList_ofList, dropLast_splitOn_flatMap htime hrules, List.map_map]
  simp only [Function.comp_def]

end Record

/-! ## Outcomes of what has been read -/

theorem Rule.toList_render {α : Type} [Named α] (r : Rule α) :
    r.render.toList = "Rule: ".toList ++ (name r.subject).toList ++ ' ' :: r.expression.toList := by
  simp [Rule.render, toString]

/-- Builders take name and expression from the definition, so that what was read on a line is shown on a line. -/
theorem Rule.unbroken_of_rule? {serial : Nat} {allow : List String} {label : String} {b : Builder}
    (hname : Builder.ofName? serial allow label = some b) {d : Definition} (hd : d.IsLine) {facts : Facts}
    {r : Rule Attribute} (hr : b.rule? facts d = some r) : '\n' ∉ r.render.toList := by
  rcases source_of_rule? hname hr with ⟨source, rfl, -⟩
  have hunbroken := hd.unbroken
  have hparts : '\n' ∉ d.name.toList ∧ '\n' ∉ d.expression.toList := by
    unfold Definition.render at hunbroken
    split at hunbroken
    all_goals
      simp only [String.toList_append, List.mem_append, not_or] at hunbroken
      tauto
  rw [Rule.toList_render]
  simp [name, Builder.bind, hparts]

namespace Config

variable {c : Config} {s : Surroundings}

theorem unbroken_of_outcome {d : Definition} (hd : d.IsLine) {o : Outcome Attribute}
    (ho : c.definitionOutcome? s d = some o) : '\n' ∉ o.rule.render.toList := by
  rcases Option.map_eq_some_iff.1 ho with ⟨made, hmade, rfl⟩
  rcases List.exists_of_findSome?_eq_some hmade with ⟨b, hb, hbuild⟩
  rcases Option.map_eq_some_iff.1 hbuild with ⟨r, hr, rfl⟩
  have hnamed : b.provider ∈ c.namedBuilders 0 := by
    rw [← registry_builders]
    exact List.mem_map_of_mem hb
  rcases List.mem_filterMap.1 hnamed with ⟨label, -, hname⟩
  have hshown : '\n' ∉ r.render.toList := Rule.unbroken_of_rule? hname hd hr
  exact hshown

/-- The history has a row for each outcome, of four columns just if neither the rule nor the message has a tab. -/
theorem rows_outcomesIn (c : Config) {b : Batch}
    (hb : (∃ s, Batch.ofSource s = .ok b) ∨ ∃ text, b = Batch.ofText text)
    (environment : Environment) (facts : Facts) (seconds : Nat) :
    let outcomes := (c.outcomesIn b.definitions { environment, facts }).2
    List.Forall₂ (fun o row => (row.length = 4 ↔ o.Untabbed) ∧
        (row = Record.fields (Calendar.timestamp seconds) o ↔ o.Untabbed))
      outcomes (Record.rows (Record.text seconds outcomes)) := by
  intro outcomes
  have hrules : ∀ o ∈ outcomes, '\n' ∉ o.rule.render.toList := by
    intro o ho
    have houtcomes : outcomes = b.definitions.filterMap (c.definitionOutcome? { environment, facts }) :=
      c.outcomesIn_definitions rfl b.definitions
    rw [houtcomes] at ho
    rcases List.mem_filterMap.1 ho with ⟨d, hd, houtcome⟩
    exact unbroken_of_outcome (Batch.isLine_of_read hb d hd) houtcome
  have htime : '\t' ∉ (Calendar.timestamp seconds).toList :=
    Calendar.not_mem_timestamp (by decide) (by decide) seconds
  rw [Record.rows_text seconds hrules, List.forall₂_map_right_iff, List.forall₂_same]
  intro o _
  exact ⟨Record.length_columns_body htime o, Record.columns_body_eq_iff htime o⟩

/-- Tabs at the ends of fields, and a message of two lines. -/
theorem rows_outcomesIn_lines :
    let b := Batch.ofText "\tenv\t:V:> 1\nsys:pid:\t1\t"
    let environment : Environment := ⟨[("V", Utf8.encode "a\nb".toList)]⟩
    let facts : Facts := { os := "linux", family := "unix", arch := "x86_64", cpus := .ok 4, pid := 1 }
    let outcomes := (standard.outcomesIn b.definitions { environment, facts }).2
    let rows := Record.rows (Record.text 951782400 outcomes)
    List.Forall₂ (fun o row => (row.length = 4 ↔ o.Untabbed) ∧
        (row = Record.fields (Calendar.timestamp 951782400) o ↔ o.Untabbed)) outcomes rows ∧
      rows = [
        ["2000-02-29T00:00:00Z", "ERROR", "Rule: V > 1", "value 'a; b' of V is not numeric"],
        ["2000-02-29T00:00:00Z", "OK", "Rule: pid 1", "default evaluator"]] := by
  intro b environment facts outcomes rows
  refine ⟨rows_outcomesIn standard (.inr ⟨_, rfl⟩) environment facts 951782400, ?_⟩
  decide +kernel

/-- A tab in an expression, and one in the value of a variable that a message quotes. -/
theorem rows_outcomesIn_tab :
    let b := Batch.ofText "sys:os:lin\tux\nenv:V:> 1"
    let environment : Environment := ⟨[("V", Utf8.encode "a\tb".toList)]⟩
    let facts : Facts := { os := "linux", family := "unix", arch := "x86_64", cpus := .ok 4, pid := 1 }
    let outcomes := (standard.outcomesIn b.definitions { environment, facts }).2
    let rows := Record.rows (Record.text 0 outcomes)
    rows = [
      ["1970-01-01T00:00:00Z", "ERROR", "Rule: os lin", "ux", "default evaluator"],
      ["1970-01-01T00:00:00Z", "ERROR", "Rule: V > 1", "value 'a", "b' of V is not numeric"]] ∧
      ¬ ∀ row ∈ rows, row.length = 4 := by
  decide +kernel

end Config

end HealthRules
