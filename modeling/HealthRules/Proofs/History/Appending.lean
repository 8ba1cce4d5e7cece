import HealthRules.History.Keeping
import HealthRules.Proofs.Engine.Accounting
import HealthRules.Proofs.History.Columns
import HealthRules.Proofs.History.Opening

/-!
# Appending — the history only grows

Keeping outcomes puts a record for each of them behind what the history file has already. A record is on a line
of its own, whatever was read and whatever a message says: definitions that have been read have no line feeds in
their parts, the names of attributes are such parts, and line feeds in messages are rewritten.

* `Rule.IsRead` and `Outcome.IsRead`, what comes of texts that have been read, and `Engine.isRead_addRules`;
* `Record.bytes` and `Record.exists_body`: a record has one line feed, at its end;
* `History.opening_keepText` and `History.keepText_keepText`: a second call finds the file as the first one did;
* `History.keep_of_opening` and `History.keep_of_error`, one call;
* `History.keepAll_appends`, any number of calls.
-/

namespace HealthRules

/-! ## Rules that have been read -/

/-- A definition that has been read, from bytes, from a text or from a single line. -/
inductive Definition.IsRead : Definition → Prop where
  | ofSource {s : Source} {b : Batch} {d : Definition} (hb : Batch.ofSource s = .ok b)
      (hd : d ∈ b.definitions) : IsRead d
  | ofText {text : String} {d : Definition} (hd : d ∈ (Batch.ofText text).definitions) : IsRead d
  | ofLine {n : Nat} {line : List Char} {d : Definition} (hline : '\n' ∉ line)
      (hd : Line.parse n line = .ok (some d)) : IsRead d

theorem Definition.IsRead.isLine {d : Definition} (h : d.IsRead) : d.IsLine := by
  cases h with
  | ofSource hb hd => exact Batch.isLine_of_ofSource hb hd
  | ofText hd => exact Batch.isLine_of_ofText hd
  | ofLine hline hd => exact isLine_of_parse hline hd

/-- A builder that comes with the library, whatever it counts and whichever variables it allows. -/
def Builder.IsStandard (b : Builder) : Prop :=
  ∃ serial allow name, Builder.ofName? serial allow name = some b

/-- A rule that a builder of the library has made of a definition that has been read. -/
def Rule.IsRead (r : Rule Attribute) : Prop :=
  ∃ (d : Definition) (b : Builder) (h : ProviderHost),
    d.IsRead ∧ b.IsStandard ∧ ((b.build d).run h).1 = some r

/-- All rules of the engine have been read. -/
def Engine.IsRead (e : Engine Attribute) : Prop := ∀ r ∈ e.rules, r.IsRead

/-- An outcome of evaluating rules that have been read. The evaluators may be any, and so may their messages. -/
def Outcome.IsRead (o : Outcome Attribute) : Prop :=
  ∃ (B : Behaviour Builder Evaluator Attribute Surroundings) (e : Engine Attribute) (h : ProviderHost),
    e.IsRead ∧ o ∈ ((e.evaluate B).run h).1

theorem Outcome.IsRead.rule {o : Outcome Attribute} (h : o.IsRead) : o.rule.IsRead := by
  rcases h with ⟨B, e, host, he, ho⟩
  apply he
  rw [← evaluate_rules B e host]
  exact List.mem_map_of_mem ho

/-- The rules of a batch that has been read, made by the builders of the library, have been read. -/
theorem Engine.isRead_addRules {e : Engine Attribute} (he : e.IsRead) {h : ProviderHost}
    (hbuilders : ∀ b ∈ h.registry.builders, b.provider.IsStandard) {ds : List Definition}
    (hds : ∀ d ∈ ds, d.IsRead) : ((e.addRules providers ds).run h).1.1.IsRead := by
  rcases addRules_pass providers e ds h with ⟨items, hitems, hrun, -⟩
  rw [hrun]
  intro r hr
  rcases List.mem_append.1 hr with hold | hnew
  · exact he r hold
  · have houtcomes : List.Forall₂
        (fun d o => ∃ calls, Resolved providers h.registry.builders d calls o) ds
        (items.map (·.outcome)) :=
      List.forall₂_map_right_iff.2 (hitems.imp fun _ i hi => ⟨i.calls, hi⟩)
    rcases split_outcomes houtcomes with ⟨built, -, hbuilt, -, -, hrules, -⟩
    rcases exists_of_mem_right hrules hnew with ⟨d, hd, calls, hresolved⟩
    cases hresolved with
    | @built before after b calls host _ hsplit _ hmade =>
        have hb : b ∈ h.registry.builders := by simp [hsplit]
        exact ⟨d, b.provider, host, hds d (hbuilt.subset hd), hbuilders b hb, hmade⟩

/-- A rule that has been read is shown on a line. -/
theorem Rule.IsRead.unbroken {r : Rule Attribute} (h : r.IsRead) : '\n' ∉ r.render.toList := by
  rcases h with ⟨d, b, host, hd, ⟨serial, allow, name, hname⟩, hbuild⟩
  rw [build_named hname] at hbuild
  exact Rule.unbroken_of_rule? hname hd.isLine hbuild

/-! ## Records -/

namespace Record

variable {α : Type} [Named α]

/-- The bytes of a record without its time. -/
def untimed (o : Outcome α) : List UInt8 :=
  Utf8.encode ('\t' :: o.status.label.toList ++ '\t' :: o.rule.render.toList ++
    '\t' :: message o.message.toList ++ ['\n'])

/-- The bytes of a record: the time, and what there is to say at any time. -/
def bytes (seconds : Nat) (o : Outcome α) : List UInt8 :=
  Utf8.encode (Calendar.timestamp seconds).toList ++ untimed o

/-- Two records that tell the same, each at its time. -/
def Alike (record record' : List UInt8) : Prop :=
  ∃ seconds seconds' rest, record = Utf8.encode (Calendar.timestamp seconds).toList ++ rest ∧
    record' = Utf8.encode (Calendar.timestamp seconds').toList ++ rest

theorem encode_line (seconds : Nat) (o : Outcome α) :
    Utf8.encode (line (Calendar.timestamp seconds) o) = bytes seconds o := by
  rw [bytes, untimed, ← Utf8.encode_append, line]
  simp only [List.append_assoc, List.cons_append]

theorem encode_text (seconds : Nat) (outcomes : List (Outcome α)) :
    Utf8.encode (text seconds outcomes).toList = (outcomes.map (bytes seconds)).flatten := by
  rw [text, String.toList_ofList]
  induction outcomes with
  | nil => rfl
  | cons o outcomes ih =>
      rw [List.flatMap_cons, Utf8.encode_append, ih, encode_line, List.map_cons, List.flatten_cons]

/-- There is one line feed in a record, at its end. -/
theorem exists_body (seconds : Nat) {o : Outcome α} (hrule : '\n' ∉ o.rule.render.toList) :
    ∃ body, bytes seconds o = body ++ [0x0A] ∧ 0x0A ∉ body := by
  have htime : '\n' ∉ (Calendar.timestamp seconds).toList :=
    Calendar.not_mem_timestamp (by decide) (by decide) seconds
  refine ⟨Utf8.encode (body (Calendar.timestamp seconds) o), ?_, ?_⟩
  · rw [← encode_line]
    exact Utf8.encode_append (body (Calendar.timestamp seconds) o) ['\n']
  · intro hmem
    have hbreak : '\n' ∈ body (Calendar.timestamp seconds) o :=
      (Utf8.mem_encode_iff (by decide) rfl _).1 hmem
    exact not_mem_body htime hrule hbreak

end Record

/-! ## Calls -/

namespace History

/-- Make the folders of the history file, and open it. -/
def opening (s : Storage) (here : Place) (path : Path) : Except StorageError Place :=
  (s.createParents here path).opening here path

variable {s : Storage} {here p : Place} {path : Path} {e : StorageError}

theorem keepText_of_opening (h : opening s here path = .ok p) (text : String) :
    keepText s here path text = (s.createParents here path).put p
      (.file ((s.content? p).getD [] ++ Utf8.encode text.toList)) := by
  have hcontent := (s.createParents_furnishes here path).content?_eq p
  rw [opening] at h
  rw [keepText]
  simp only [Storage.append_eq, h, Except.map, hcontent]

theorem keepText_of_error (h : opening s here path = .error e) (text : String) :
    keepText s here path text = s.createParents here path := by
  rw [opening] at h
  rw [keepText]
  simp only [Storage.append_eq, h, Except.map]

/-- The folders are there afterwards, also if the file could not be opened. -/
theorem createParents_keepText (s : Storage) (here : Place) (path : Path) (text : String) :
    (keepText s here path text).createParents here path = keepText s here path text := by
  cases hopened : opening s here path with
  | error e =>
      rw [keepText_of_error hopened]
      exact Storage.createParents_again (.refl _)
  | ok p =>
      have hholds : (s.createParents here path).Holds p :=
        (Storage.opening_eq_ok_iff.1 hopened).2.2
      rw [keepText_of_opening hopened]
      exact Storage.createParents_again (Storage.covers_put hholds _)

/-- The file opens at the same place afterwards, or fails to open for the same reason. -/
theorem opening_keepText (s : Storage) (here : Place) (path : Path) (text : String) :
    opening (keepText s here path text) here path = opening s here path := by
  rw [opening, createParents_keepText]
  cases hopened : opening s here path with
  | error e =>
      rw [keepText_of_error hopened]
      exact hopened
  | ok p =>
      rw [keepText_of_opening hopened]
      exact Storage.opening_put hopened _

/-- A text may be kept in two parts. -/
theorem keepText_keepText (s : Storage) (here : Place) (path : Path) (first second : String) :
    keepText (keepText s here path first) here path second =
      keepText s here path (first ++ second) := by
  have hopened' := opening_keepText s here path first
  cases hopened : opening s here path with
  | error e =>
      rw [hopened] at hopened'
      rw [keepText_of_error hopened', createParents_keepText, keepText_of_error hopened,
        keepText_of_error hopened]
  | ok p =>
      have hroot : p ≠ [] := (Storage.opening_eq_ok_iff.1 hopened).2.2.ne_root
      rw [hopened] at hopened'
      rw [keepText_of_opening hopened', createParents_keepText, keepText_of_opening hopened,
        Storage.put_put, Storage.content?_put hroot, if_pos rfl, Option.getD_some,
        keepText_of_opening hopened, String.toList_append, Utf8.encode_append, List.append_assoc]

variable {α : Type} [Named α]

/-- Outcomes may be kept in two parts. -/
theorem keep_keep (s : Storage) (here : Place) (path : Path) (seconds : Nat)
    (first second : List (Outcome α)) :
    keep (keep s here path seconds first) here path seconds second =
      keep s here path seconds (first ++ second) := by
  have htext : Record.text seconds first ++ Record.text seconds second =
      Record.text seconds (first ++ second) := by
    rw [Record.text, Record.text, Record.text, ← String.ofList_append, List.flatMap_append]
  rw [keep, keep, keep, keepText_keepText, htext]

/-! ## One call after another -/

/-- If the file can be opened, then the records come behind what is there, and all other files stay. -/
theorem keep_of_opening (h : opening s here path = .ok p) (seconds : Nat) (outcomes : List (Outcome α)) :
    let kept := keep s here path seconds outcomes
    let content := (s.content? p).getD [] ++ (outcomes.map (Record.bytes seconds)).flatten
    kept.content? p = some content ∧ kept.read here path = .ok content ∧
      ∀ q ≠ p, kept.content? q = s.content? q := by
  intro kept content
  have hroot : p ≠ [] := (Storage.opening_eq_ok_iff.1 h).2.2.ne_root
  have hkept : kept = (s.createParents here path).put p (.file content) := by
    have htext := keepText_of_opening h (Record.text seconds outcomes)
    rw [Record.encode_text] at htext
    exact htext
  refine ⟨?_, ?_, ?_⟩
  · rw [hkept, Storage.content?_put hroot, if_pos rfl]
  · rw [hkept]
    exact Storage.read_put h content
  · intro q hq
    rw [hkept, Storage.content?_put hroot, if_neg hq]
    exact (s.createParents_furnishes here path).content?_eq q

/-- If the file cannot be opened, then there are at most more folders. -/
theorem keep_of_error (h : opening s here path = .error e) (seconds : Nat) (outcomes : List (Outcome α))
    (q : Place) : (keep s here path seconds outcomes).content? q = s.content? q := by
  rw [keep, keepText_of_error h]
  exact (s.createParents_furnishes here path).content?_eq q

/-- Keep the outcomes of several calls, each with the time of its call in seconds. -/
def keepAll (s : Storage) (here : Place) (path : Path) (calls : List (Nat × List (Outcome α))) : Storage :=
  calls.foldl (fun s call => keep s here path call.1 call.2) s

/-- The records of several calls, one for each outcome. -/
def records (calls : List (Nat × List (Outcome α))) : List (List UInt8) :=
  calls.flatMap fun call => call.2.map (Record.bytes call.1)

/-- What is recorded does not depend on how the outcomes are shared out among calls, but for the times. -/
theorem records_alike {calls calls' : List (Nat × List (Outcome α))}
    (h : calls.flatMap (·.2) = calls'.flatMap (·.2)) :
    List.Forall₂ Record.Alike (records calls) (records calls') := by
  -- Put the time of its call beside each outcome: without the times, both lists are the same.
  let timed (calls : List (Nat × List (Outcome α))) : List (Nat × Outcome α) :=
    calls.flatMap fun call => call.2.map (call.1, ·)
  have hrecords (calls : List (Nat × List (Outcome α))) :
      records calls = (timed calls).map fun r => Record.bytes r.1 r.2 := by
    simp [records, timed, List.map_flatMap, Function.comp_def]
  have houtcomes (calls : List (Nat × List (Outcome α))) :
      (timed calls).map (·.2) = calls.flatMap (·.2) := by
    simp [timed, List.map_flatMap, Function.comp_def]
  have hsame : List.Forall₂ (fun r r' : Nat × Outcome α => r.2 = r'.2) (timed calls) (timed calls') := by
    rw [← houtcomes, ← houtcomes, ← List.forall₂_eq_eq_eq, List.forall₂_map_left_iff,
      List.forall₂_map_right_iff] at h
    exact h
  rw [hrecords, hrecords, List.forall₂_map_left_iff, List.forall₂_map_right_iff]
  refine hsame.imp ?_
  intro r r' heq
  exact ⟨r.1, r'.1, Record.untimed r.2, rfl, by rw [Record.bytes, heq]⟩

theorem keepAll_concat (s : Storage) (here : Place) (path : Path)
    (calls : List (Nat × List (Outcome α))) (call : Nat × List (Outcome α)) :
    keepAll s here path (calls ++ [call]) =
      keep (keepAll s here path calls) here path call.1 call.2 := by
  rw [keepAll, List.foldl_append]
  rfl

/-- The file stays open to further calls, and grows with each of them. -/
theorem keepAll_of_opening (h : opening s here path = .ok p) (calls : List (Nat × List (Outcome α))) :
    let kept := keepAll s here path calls
    let content := (s.content? p).getD [] ++ (records calls).flatten
    opening kept here path = .ok p ∧ (kept.content? p).getD [] = content ∧
      (calls ≠ [] → kept.read here path = .ok content) ∧ ∀ q ≠ p, kept.content? q = s.content? q := by
  induction calls using List.reverseRecOn with
  | nil => exact ⟨h, (List.append_nil _).symm, fun hne => absurd rfl hne, fun _ _ => rfl⟩
  | append_singleton calls call ih =>
      rcases ih with ⟨hopened, hcontent, -, hothers⟩
      rcases keep_of_opening hopened call.1 call.2 with ⟨hlast, hread, hothers'⟩
      have hrecords : (records (calls ++ [call])).flatten =
          (records calls).flatten ++ (call.2.map (Record.bytes call.1)).flatten := by
        simp [records]
      rw [hcontent, List.append_assoc, ← hrecords] at hlast hread
      rw [keepAll_concat]
      refine ⟨(opening_keepText _ here path _).trans hopened, ?_, fun _ => hread, ?_⟩
      · rw [hlast, Option.getD_some]
      · intro q hq
        rw [hothers' q hq, hothers q hq]

theorem keepAll_of_error (h : opening s here path = .error e) (calls : List (Nat × List (Outcome α))) :
    let kept := keepAll s here path calls
    opening kept here path = .error e ∧ ∀ q, kept.content? q = s.content? q := by
  induction calls using List.reverseRecOn with
  | nil => exact ⟨h, fun _ => rfl⟩
  | append_singleton calls call ih =>
      rcases ih with ⟨hopened, hothers⟩
      rw [keepAll_concat]
      refine ⟨(opening_keepText _ here path _).trans hopened, ?_⟩
      intro q
      rw [keep_of_error hopened, hothers q]

/-! ## The history -/

/-- Keeping outcomes writes a line for each behind what the file has, and touches nothing else. Where the file cannot be
opened it changes nothing. -/
theorem keepAll_appends (s : Storage) (here : Place) (path : Path)
    (calls : List (Nat × List (Outcome Attribute))) (hcalls : ∀ call ∈ calls, ∀ o ∈ call.2, o.IsRead) :
    let kept := keepAll s here path calls
    (∀ record ∈ records calls, ∃ body, record = body ++ [0x0A] ∧ 0x0A ∉ body) ∧
      (∀ p, opening s here path = .ok p →
        let content := (s.content? p).getD [] ++ (records calls).flatten
        (kept.content? p).getD [] = content ∧ (calls ≠ [] → kept.read here path = .ok content) ∧
          ∀ q ≠ p, kept.content? q = s.content? q) ∧
      (∀ e, opening s here path = .error e → ∀ q, kept.content? q = s.content? q) ∧
      (∀ calls' : List (Nat × List (Outcome Attribute)),
        calls.flatMap (·.2) = calls'.flatMap (·.2) →
          List.Forall₂ Record.Alike (records calls) (records calls')) ∧
      ∀ seconds, ∀ first second : List (Outcome Attribute),
        keepAll s here path [(seconds, first), (seconds, second)] =
          keepAll s here path [(seconds, first ++ second)] := by
  intro kept
  refine ⟨?_, ?_, ?_, ?_, ?_⟩
  · intro record hrecord
    -- Names and expressions were read on one line, and messages have had their line breaks replaced.
    rcases List.mem_flatMap.1 hrecord with ⟨call, hcall, hmem⟩
    rcases List.mem_map.1 hmem with ⟨o, ho, rfl⟩
    exact Record.exists_body call.1 (hcalls call hcall o ho).rule.unbroken
  · intro p hopened
    exact (keepAll_of_opening hopened calls).2
  · intro e hopened
    exact (keepAll_of_error hopened calls).2
  · intro calls' hcalls'
    exact records_alike hcalls'
  · intro seconds first second
    exact keep_keep s here path seconds first second

/-- A host with a variable of two lines, and the providers that look at it. -/
def twoLineHost : ProviderHost :=
  { registry := (((Registry.empty 0).addBuilder (.environment [])).addEvaluator
      (.standard .numeric)).addEvaluator (.standard .pattern)
    surroundings :=
      { environment := ⟨[("V", Utf8.encode "a\nb".toList)]⟩, facts := ⟨"", "", "", .ok 1, 1⟩ } }

/-- A text that asks for a number, and for a pattern that is none. -/
def twoLineBatch : Batch := Batch.ofText "env:V:> 1\nenv:V:~ ["

def twoLineEngine : Engine Attribute :=
  ((({} : Engine Attribute).addRules providers twoLineBatch.definitions).run twoLineHost).1.1

/-- Outcomes with line feeds in their messages: a value is quoted, and the fault of a pattern shown. -/
def twoLineOutcomes : List (Outcome Attribute) :=
  ((twoLineEngine.evaluate providers).run twoLineHost).1

/-- They are kept in two calls, in a file that is begun and in one that cannot be opened. -/
theorem keepAll_appends_twoLines :
    let calls := [(0, twoLineOutcomes), (86400, twoLineOutcomes)]
    let s : Storage := {}
    let path := Path.ofText "logs/h"
    (∀ call ∈ calls, ∀ o ∈ call.2, o.IsRead) ∧
      twoLineOutcomes.map (·.message.toList.count '\n') = [1, 3] ∧
      opening s [] path = .ok [Path.ofText "logs", Path.ofText "h"] ∧
      (keepAll s [] path calls).read [] path = .ok (records calls).flatten ∧
      (∀ record ∈ records calls, ∃ body, record = body ++ [0x0A] ∧ 0x0A ∉ body) ∧
      List.Forall₂ Record.Alike (records calls)
        (records [(7, twoLineOutcomes ++ twoLineOutcomes)]) ∧
      opening s [] [] = .error .missing ∧
      ∀ q, (keepAll s [] [] calls).content? q = s.content? q := by
  intro calls s path
  have hbuilders : ∀ b ∈ twoLineHost.registry.builders, b.provider.IsStandard := by
    intro b hb
    rw [List.mem_singleton.1 hb]
    exact ⟨0, [], "env", rfl⟩
  have hempty : Engine.IsRead {} := by
    intro r hr
    cases hr
  have hengine : twoLineEngine.IsRead := by
    rw [twoLineEngine]
    exact Engine.isRead_addRules hempty hbuilders fun _ hd => .ofText hd
  have hread : ∀ o ∈ twoLineOutcomes, o.IsRead := by
    intro o ho
    rw [twoLineOutcomes] at ho
    exact ⟨providers, twoLineEngine, twoLineHost, hengine, ho⟩
  have hcalls : ∀ call ∈ calls, ∀ o ∈ call.2, o.IsRead := by
    simp only [calls, List.mem_cons, List.not_mem_nil, or_false, forall_eq_or_imp, forall_eq]
    exact ⟨hread, hread⟩
  have hopened : opening s [] path = .ok [Path.ofText "logs", Path.ofText "h"] := rfl
  have hmissing : opening s [] [] = .error .missing := rfl
  have hsame : calls.flatMap (·.2) = [(7, twoLineOutcomes ++ twoLineOutcomes)].flatMap (·.2) := by
    simp [calls]
  rcases keepAll_appends s [] path calls hcalls with ⟨hrecords, hopens, -, halike, -⟩
  rcases keepAll_appends s [] [] calls hcalls with ⟨-, -, hfails, -, -⟩
  have hkept := (hopens _ hopened).2.1 (List.cons_ne_nil _ _)
  have hprior : (s.content? [Path.ofText "logs", Path.ofText "h"]).getD [] = [] := rfl
  rw [hprior, List.nil_append] at hkept
  exact ⟨hcalls, by decide +kernel, hopened, hkept, hrecords, halike _ hsame, hmissing, hfails _ hmissing⟩

end History

end HealthRules
