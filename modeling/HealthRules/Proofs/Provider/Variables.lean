import HealthRules.Proofs.Text.EncodedText
import HealthRules.Provider.Environment

/-!
# Variables — looking a variable up by its name

A variable is looked up in what it is stored as, which is its name, an equals sign and its value. Where names
hold no equals sign this finds the variable of that name. A name that holds one is no name of a variable, and
yet it may be found: in a variable whose name it begins with, and then it reaches into the value.

* `IsVariableName` and `Environment.WellNamed`;
* `Environment.assigned?`, the value of the variable of a name;
* `value?_eq_assigned?`: looking up a name without an equals sign finds the variable of that name.
-/

namespace HealthRules

/-- A text that can be the name of a variable. -/
def IsVariableName (name : String) : Prop := name ≠ "" ∧ '=' ∉ name.toList

instance (name : String) : Decidable (IsVariableName name) :=
  inferInstanceAs (Decidable (name ≠ "" ∧ '=' ∉ name.toList))

namespace Environment

/-- All names are names of variables. -/
def WellNamed (e : Environment) : Prop := ∀ v ∈ e.entries, IsVariableName v.1

instance (e : Environment) : Decidable e.WellNamed :=
  inferInstanceAs (Decidable (∀ v ∈ e.entries, IsVariableName v.1))

/-- The value of the variable that has just that name. -/
def assigned? (e : Environment) (name : String) : Option (List UInt8) := e.entries.lookup name

theorem after?_append (start rest : List UInt8) : after? start (start ++ rest) = some rest := by
  induction start with
  | nil => rfl
  | cons b start ih => simpa [after?] using ih

theorem eq_append_of_after? {start bytes rest : List UInt8} (h : after? start bytes = some rest) :
    bytes = start ++ rest := by
  induction start generalizing bytes with
  | nil => simpa [after?] using h
  | cons b start ih =>
      cases bytes with
      | nil => simp [after?] at h
      | cons c bytes =>
          by_cases hbc : b = c
          · have hrest : after? start bytes = some rest := by simpa [after?, hbc] using h
            rw [hbc, ih hrest, List.cons_append]
          · simp [after?, hbc] at h

/-- The name that is stored is what comes before the first equals sign. -/
theorem takeWhile_stored {name : List Char} (hname : '=' ∉ name) (value : List UInt8) :
    (Utf8.encode name ++ 0x3D :: value).takeWhile (· ≠ 0x3D) = Utf8.encode name := by
  have hmark : (0x3D : UInt8) ∈ Utf8.encode name ↔ '=' ∈ name :=
    Utf8.mem_encode_iff (by decide) rfl name
  have hbyte : (0x3D : UInt8) ∉ Utf8.encode name := mt hmark.1 hname
  have hall : ∀ b ∈ Utf8.encode name, decide (b ≠ 0x3D) = true := by
    intro b hb
    have hne : b ≠ 0x3D := fun heq => hbyte (heq ▸ hb)
    simpa using hne
  rw [List.takeWhile_append_of_pos hall]
  simp

theorem after?_stored {name : String} (hname : '=' ∉ name.toList) {v : String × List UInt8}
    (hv : '=' ∉ v.1.toList) :
    after? (Utf8.encode name.toList ++ [0x3D]) (stored v) = if name = v.1 then some v.2 else none := by
  by_cases heq : name = v.1
  · have hstored : stored v = (Utf8.encode name.toList ++ [0x3D]) ++ v.2 := by simp [stored, heq]
    rw [if_pos heq, hstored, after?_append]
  · rw [if_neg heq]
    cases hafter : after? (Utf8.encode name.toList ++ [0x3D]) (stored v) with
    | none => rfl
    | some rest =>
        -- Both names would be what comes before the first equals sign.
        have hbytes : stored v = Utf8.encode name.toList ++ 0x3D :: rest := by
          simpa using eq_append_of_after? hafter
        have hencoded : Utf8.encode v.1.toList = Utf8.encode name.toList := by
          rw [← takeWhile_stored hv v.2, ← takeWhile_stored hname rest]
          exact congrArg _ hbytes
        have hnames : some v.1.toList = some name.toList := by
          rw [← Utf8.decode?_encode, hencoded, Utf8.decode?_encode]
        exact absurd (String.toList_inj.1 (Option.some.inj hnames)).symm heq

theorem findSome?_stored {name : String} (hname : '=' ∉ name.toList)
    {entries : List (String × List UInt8)} (hentries : ∀ v ∈ entries, IsVariableName v.1) :
    entries.findSome? (fun v => after? (Utf8.encode name.toList ++ [0x3D]) (stored v)) =
      entries.lookup name := by
  induction entries with
  | nil => rfl
  | cons v entries ih =>
      have hrest := ih fun v' hv' => hentries v' (List.mem_cons_of_mem v hv')
      have hv := after?_stored hname (hentries v List.mem_cons_self).2
      rw [List.findSome?_cons, hv, List.lookup_cons]
      by_cases heq : name = v.1
      · simp [heq]
      · have hbeq : (name == v.1) = false := by simpa using heq
        simpa [heq, hbeq] using hrest

/-- Looking up a name without an equals sign finds the variable of that name. -/
theorem value?_eq_assigned? {e : Environment} (he : e.WellNamed) {name : String}
    (hname : '=' ∉ name.toList) : e.value? name = e.assigned? name := by
  by_cases hempty : name = ""
  · subst hempty
    have hlookup : e.entries.lookup "" = none :=
      List.lookup_eq_none_iff.2 fun v hv => by simpa using (he v hv).1.symm
    simpa [value?, assigned?] using hlookup.symm
  · simpa [value?, assigned?, hempty] using findSome?_stored hname he

end Environment

end HealthRules
