import ScriptHost.Proofs.Namespace.TrustSetup
import ScriptHost.Proofs.Structure.FieldRuns

/-!
# Objects and their copies

Besides being written to, an object can be copied.  A copy begins with what
the object holds, and from then on each of them goes its own way: every object
is what the writes of its own history make of a fresh instance, whatever
happens to the others.
-/

namespace ScriptHost

/-- What happens to one of several objects, which are counted from zero in the
order in which they came to be. -/
inductive ObjectCall where
  /-- A value is written to a field, or the write is refused. -/
  | set (which index : Nat) (value : Value)
  | copy (which : Nat)
  deriving DecidableEq, Repr

/-- Carries a call out on a list with one entry for each object, where `write`
says what a write does to an entry.  A copy comes last. -/
def ObjectCall.apply {α : Type} (write : Nat → Value → α → α) :
    ObjectCall → List α → List α
  | set which index value, entries => entries.modify which (write index value)
  | copy which, entries => entries ++ entries[which]?.toList

/-- The instance after a write, which is the same one if the write is
refused. -/
def Instance.afterSet (index : Nat) (value : Value) (held : Instance) :
    Instance :=
  ((FieldCall.set index value).perform held).state

/-- The objects of a layout after a sequence of calls.  At first there is a
fresh one. -/
def Layout.objectsAfter (layout : Layout) (calls : List ObjectCall) :
    List Instance :=
  calls.foldl (fun objects call => call.apply Instance.afterSet objects)
    [Instance.new layout]

/-- The writes that each object has behind it after a sequence of calls.  A
copy takes over those of the object that it was made from. -/
def historiesAfter (calls : List ObjectCall) : List (List FieldCall) :=
  calls.foldl
    (fun histories call => call.apply
      (fun index value history => history ++ [.set index value]) histories)
    [[]]

variable {α β : Type}

theorem map_modify_of_comm {view : α → β} {change : α → α} {changed : β → β}
    (hcomm : ∀ entry, changed (view entry) = view (change entry))
    (entries : List α) (which : Nat) :
    (entries.map view).modify which changed =
      (entries.modify which change).map view := by
  apply List.ext_getElem?
  intro index
  rw [List.getElem?_modify, List.getElem?_map, List.getElem?_map,
    List.getElem?_modify]
  cases entries[index]? with
  | none => rfl
  | some entry =>
      by_cases heq : which = index
      · simp [heq, hcomm]
      · simp [heq]

/-- A view of the entries that agrees with what a write does to one of them
agrees with what a call does to all of them. -/
theorem ObjectCall.apply_map {view : α → β} {write : Nat → Value → α → α}
    {written : Nat → Value → β → β}
    (hcomm : ∀ index value entry,
      written index value (view entry) = view (write index value entry))
    (call : ObjectCall) (entries : List α) :
    call.apply written (entries.map view) =
      (call.apply write entries).map view := by
  cases call with
  | set which index value =>
      exact map_modify_of_comm (hcomm index value) entries which
  | copy which =>
      rw [apply, apply, List.map_append, List.getElem?_map]
      cases entries[which]? <;> rfl

/-- Every object is what its own history makes of a fresh instance. -/
theorem Layout.objectsAfter_eq (layout : Layout) (calls : List ObjectCall) :
    layout.objectsAfter calls =
      (historiesAfter calls).map (Instance.new layout).after := by
  have hcomm : ∀ index value history,
      Instance.afterSet index value ((Instance.new layout).after history) =
        (Instance.new layout).after (history ++ [.set index value]) := by
    intro index value history
    rw [Instance.after, Instance.after, List.foldl_append]
    rfl
  have hfresh : [Instance.new layout] =
      [[]].map (Instance.new layout).after := rfl
  rw [objectsAfter, historiesAfter, hfresh]
  apply List.foldl_hom (List.map (Instance.new layout).after)
  intro histories call
  exact ObjectCall.apply_map hcomm call histories

/-- Every object of a planned layout holds what the writes of its history
leave behind in a plain array. -/
theorem Layout.Planned.exists_history {layout : Layout}
    (hplanned : layout.Planned) {calls : List ObjectCall} {which : Nat}
    {held : Instance}
    (hheld : (layout.objectsAfter calls)[which]? = some held) :
    ∃ history, (historiesAfter calls)[which]? = some history ∧
      (Instance.new layout).after history = held ∧
      held.Holds (arrayAfter
        (List.replicate layout.fieldCount .undefined) history) := by
  rw [layout.objectsAfter_eq, List.getElem?_map, Option.map_eq_some_iff]
    at hheld
  obtain ⟨history, hhistory, hafter⟩ := hheld
  have hholds := (Instance.holds_new hplanned).after history
  rw [hafter] at hholds
  exact ⟨history, hhistory, hafter, hholds⟩

def mixedLayout : Layout where
  stamp := ⟨0, 0⟩
  name := "strata.structures.Dual$OIJ"
  shape := ⟨[.object, .int, .long]⟩
  mode := .dual
  slots := [⟨.object, none, 0⟩, ⟨.int, some 0, 1⟩, ⟨.long, some 1, 2⟩]
  home := ⟨2, structuresNamespace⟩

theorem mixedLayout_generated :
    Layout.generate ⟨0, 0⟩ .dual 8 "strata.structures.Dual$OIJ" "OIJ"
        (.bridged ModuleRegistry.runtimeHandle ⟨2, structuresNamespace⟩) =
      .ok mixedLayout :=
  rfl

end ScriptHost
