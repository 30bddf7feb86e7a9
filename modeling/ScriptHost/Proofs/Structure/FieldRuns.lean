import ScriptHost.Proofs.Structure.FieldStorage

/-!
# Runs of field accesses

Any sequence of reads and writes on a fresh instance is answered as a plain
array of values answers it.  The answers depend on the number of fields only,
so the two modes cannot be told apart by them; what the modes differ in is
which fields are kept as bare words.
-/

namespace ScriptHost

inductive FieldCall where
  | get (index : Nat)
  | set (index : Nat) (value : Value)
  deriving DecidableEq, Repr

namespace FieldCall

/-- Makes the access.  A read answers a value, a write none. -/
def perform : FieldCall → Action Instance (Option Value)
  | get index => fun held => ⟨(held.get index).map some, held, []⟩
  | set index value => fun held =>
    match held.set index value with
    | .ok next => ⟨.ok none, next, []⟩
    | .error fault => ⟨.error fault, held, []⟩

/-- The same access to a plain array of values, with the array afterwards. -/
def onArray (values : List Value) :
    FieldCall → Except Fault (Option Value) × List Value
  | get index =>
    match values[index]? with
    | some value => (.ok (some value), values)
    | none => (.error (.fieldOutOfRange index values.length), values)
  | set index value =>
    if index < values.length then (.ok none, values.set index value)
    else (.error (.fieldOutOfRange index values.length), values)

def written? (index : Nat) : FieldCall → Option Value
  | get _ => none
  | set other value => if other = index then some value else none

end FieldCall

def lastWritten? (calls : List FieldCall) (index : Nat) : Option Value :=
  calls.reverse.findSome? (FieldCall.written? index)

def arrayAnswers (values : List Value) :
    List FieldCall → List (Except Fault (Option Value))
  | [] => []
  | call :: rest =>
    (call.onArray values).1 :: arrayAnswers (call.onArray values).2 rest

def arrayAfter (values : List Value) (calls : List FieldCall) : List Value :=
  calls.foldl (fun current call => (call.onArray current).2) values

namespace Instance

def answers (held : Instance) :
    List FieldCall → List (Except Fault (Option Value))
  | [] => []
  | call :: rest =>
    (call.perform held).result :: answers (call.perform held).state rest

def after (held : Instance) (calls : List FieldCall) : Instance :=
  calls.foldl (fun current call => (call.perform current).state) held

variable {held : Instance} {values : List Value}

/-! ## One access -/

/-- Whether a position is a field, with what is stored there. -/
theorem Holds.slot_cases (hholds : held.Holds values) (index : Nat) :
    (index < values.length ∧ ∃ slot, held.layout.slot? index = some slot ∧
      held.slot index = .ok slot ∧ values[index]? = some (held.read slot)) ∨
    (values.length ≤ index ∧ values[index]? = none ∧
      held.layout.slot? index = none ∧
      held.slot index = .error (.fieldOutOfRange index values.length)) := by
  unfold slot
  cases hslot : held.layout.slot? index with
  | some slot =>
      left
      refine ⟨?_, slot, rfl, rfl, hholds.reads index slot hslot⟩
      rw [hholds.length_eq]
      exact Layout.slot?_lt hslot
  | none =>
      right
      have hle : values.length ≤ index := by
        rw [hholds.length_eq]
        exact List.getElem?_eq_none_iff.mp hslot
      refine ⟨hle, List.getElem?_eq_none_iff.mpr hle, rfl, ?_⟩
      rw [hholds.length_eq]

/-- An instance answers an access as the array of its values does, and holds
the values of that array afterwards. -/
theorem Holds.perform (hholds : held.Holds values) (call : FieldCall) :
    (call.perform held).result = (call.onArray values).1 ∧
      (call.perform held).state.Holds (call.onArray values).2 := by
  cases call with
  | get index =>
      rcases hholds.slot_cases index with
        ⟨_, slot, _, hslot, hread⟩ | ⟨_, hread, _, hslot⟩
      · simp only [FieldCall.perform, FieldCall.onArray, get, hslot, hread]
        exact ⟨rfl, hholds⟩
      · simp only [FieldCall.perform, FieldCall.onArray, get, hslot, hread]
        exact ⟨rfl, hholds⟩
  | set index value =>
      rcases hholds.slot_cases index with
        ⟨hlt, slot, hplace, hslot, _⟩ | ⟨hle, _, _, hslot⟩
      · simp only [FieldCall.perform, FieldCall.onArray, set, hslot,
          if_pos hlt]
        exact ⟨rfl, hholds.write hplace value⟩
      · simp only [FieldCall.perform, FieldCall.onArray, set, hslot,
          if_neg (Nat.not_lt.mpr hle)]
        exact ⟨rfl, hholds⟩

theorem Holds.get_eq (hholds : held.Holds values) (index : Nat) :
    held.get index =
      match values[index]? with
      | some value => .ok value
      | none => .error (.fieldOutOfRange index values.length) := by
  rcases hholds.slot_cases index with
    ⟨_, slot, _, hslot, hread⟩ | ⟨_, hread, _, hslot⟩
  · rw [get, hslot, hread]
    rfl
  · rw [get, hslot, hread]
    rfl

theorem Holds.set_of_lt (hholds : held.Holds values) {index : Nat}
    (hindex : index < values.length) (value : Value) :
    ∃ next, held.set index value = .ok next := by
  rcases hholds.slot_cases index with ⟨_, slot, _, hslot, _⟩ | ⟨hle, _⟩
  · rw [set, hslot]
    exact ⟨_, rfl⟩
  · exact absurd hindex (Nat.not_lt.mpr hle)

/-- An index beyond the fields is a fault, and the instance stays as it is. -/
theorem Holds.set_of_le (hholds : held.Holds values) {index : Nat}
    (hindex : values.length ≤ index) (value : Value) :
    held.set index value = .error (.fieldOutOfRange index values.length) ∧
      ((FieldCall.set index value).perform held).state = held := by
  rcases hholds.slot_cases index with ⟨hlt, _⟩ | ⟨_, _, _, hslot⟩
  · exact absurd hlt (Nat.not_lt.mpr hindex)
  · have hset : held.set index value =
        .error (.fieldOutOfRange index values.length) := by
      rw [set, hslot]
      rfl
    refine ⟨hset, ?_⟩
    simp only [FieldCall.perform, hset]

/-- A field is kept as a bare word if and only if the mode has words and the
value of the field is of its kind. -/
theorem Holds.isUnboxed_iff (hholds : held.Holds values) (index : Nat) :
    held.isUnboxed index = true ↔
      held.layout.mode = .dual ∧ ∃ kind value,
        held.layout.shape.kinds[index]? = some kind ∧
          values[index]? = some value ∧ value.kind? = some kind := by
  rcases hholds.slot_cases index with
    ⟨_, slot, hslot, _, hread⟩ | ⟨_, hread, hslot, _⟩
  · obtain ⟨hkind, _, hword⟩ := hholds.planned.slot?_eq_some hslot
    simp only [isUnboxed, hslot, hholds.live index slot hslot, hread, hkind,
      Option.some.injEq, ← Value.isSome_word?_iff]
    cases hbits : (held.read slot).word? slot.kind with
    | none => simp [hbits]
    | some bits =>
        have hprimitive : slot.kind.isPrimitive = true := by
          cases hobject : slot.kind with
          | object =>
              rw [hobject, Value.word?_object] at hbits
              cases hbits
          | int | long | double => rfl
        rw [hword]
        cases hmode : held.layout.mode <;>
          simp [FieldSlot.hasWord, hprimitive, hbits]
  · simp [isUnboxed, hslot, hread]

/-! ## Whole runs -/

theorem Holds.answers_eq (hholds : held.Holds values)
    (calls : List FieldCall) :
    held.answers calls = arrayAnswers values calls := by
  induction calls generalizing held values with
  | nil => rfl
  | cons call rest ih =>
      obtain ⟨hresult, hstate⟩ := hholds.perform call
      rw [answers, arrayAnswers, hresult, ih hstate]

theorem Holds.after (hholds : held.Holds values) (calls : List FieldCall) :
    (held.after calls).Holds (arrayAfter values calls) := by
  induction calls generalizing held values with
  | nil => exact hholds
  | cons call rest ih => exact ih (hholds.perform call).2

theorem layout_perform (held : Instance) (call : FieldCall) :
    (call.perform held).state.layout = held.layout := by
  cases call with
  | get index => rfl
  | set index value =>
      simp only [FieldCall.perform, set]
      cases held.slot index with
      | error fault => rfl
      | ok slot => exact layout_write held slot value

theorem layout_after (held : Instance) (calls : List FieldCall) :
    (held.after calls).layout = held.layout := by
  induction calls generalizing held with
  | nil => rfl
  | cons call rest ih => exact (ih _).trans (layout_perform held call)

end Instance

/-! ## The last write -/

theorem FieldCall.length_onArray (values : List Value) (call : FieldCall) :
    (call.onArray values).2.length = values.length := by
  cases call with
  | get index =>
      rw [onArray]
      split <;> rfl
  | set index value =>
      rw [onArray]
      split
      · exact List.length_set
      · rfl

theorem length_arrayAfter (values : List Value) (calls : List FieldCall) :
    (arrayAfter values calls).length = values.length := by
  induction calls generalizing values with
  | nil => rfl
  | cons call rest ih =>
      exact (ih _).trans (call.length_onArray values)

theorem FieldCall.getElem?_onArray {values : List Value} {index : Nat}
    (hindex : index < values.length) (call : FieldCall) :
    (call.onArray values).2[index]? =
      (call.written? index).or values[index]? := by
  cases call with
  | get other =>
      rw [onArray]
      split <;> rfl
  | set other value =>
      rw [onArray, written?]
      by_cases heq : other = index
      · subst heq
        rw [if_pos hindex, if_pos rfl, List.getElem?_set_self hindex]
        rfl
      · rw [if_neg heq]
        split
        · exact List.getElem?_set_ne heq
        · rfl

/-- A plain array holds at each position what was last written there, and what
it held before if nothing was. -/
theorem getElem?_arrayAfter {values : List Value} {index : Nat}
    (hindex : index < values.length) (calls : List FieldCall) :
    (arrayAfter values calls)[index]? =
      (lastWritten? calls index).or values[index]? := by
  induction calls generalizing values with
  | nil => rfl
  | cons call rest ih =>
      have hlength := call.length_onArray values
      have hlast : lastWritten? (call :: rest) index =
          (lastWritten? rest index).or (call.written? index) := by
        rw [lastWritten?, List.reverse_cons, List.findSome?_append]
        cases hwritten : call.written? index <;>
          simp [lastWritten?, hwritten]
      rw [hlast, Option.or_assoc, ← call.getElem?_onArray hindex]
      exact ih (by rw [hlength]; exact hindex)

theorem getElem?_arrayAfter_fresh {count index : Nat} (hindex : index < count)
    (calls : List FieldCall) :
    (arrayAfter (List.replicate count .undefined) calls)[index]? =
      some ((lastWritten? calls index).getD .undefined) := by
  rw [getElem?_arrayAfter (by rw [List.length_replicate]; exact hindex),
    List.getElem?_replicate, if_pos hindex]
  cases lastWritten? calls index <;> rfl

/-- A fresh array holds no value of a kind, so a position that holds one was
written to. -/
theorem getElem?_fresh_of_kind_iff {count index : Nat} {kind : FieldKind}
    {value : Value} (hindex : index < count) (calls : List FieldCall) :
    ((arrayAfter (List.replicate count .undefined) calls)[index]? =
          some value ∧ value.kind? = some kind) ↔
      (lastWritten? calls index = some value ∧ value.kind? = some kind) := by
  rw [getElem?_arrayAfter_fresh hindex]
  cases lastWritten? calls index with
  | some last => rfl
  | none =>
      constructor
      · rintro ⟨hundefined, hkind⟩
        cases hundefined
        cases hkind
      · rintro ⟨hnone, _⟩
        cases hnone

/-! ## Both modes -/

theorem Instance.holds_of_generate {stamp : Stamp} {mode : FieldMode}
    {maxFields : Nat} {name descriptor : String} {boundary : Boundary}
    {layout : Layout}
    (hlayout : Layout.generate stamp mode maxFields name descriptor boundary =
      .ok layout) :
    (Instance.new layout).Holds
      (List.replicate descriptor.length .undefined) := by
  obtain ⟨hplanned, _, hshape⟩ := Layout.planned_of_generate hlayout
  rw [← Shape.size_eq_length hshape, ← hplanned.fieldCount_eq]
  exact Instance.holds_new hplanned

/-- Field storage refines a plain array of values in either mode.  Whatever is
read and written on a fresh instance, each field has the value last written to
it, an index beyond the fields is a fault that changes nothing, and a field is
kept as a bare word if and only if the mode is the dual one and the value last
written is of the field's kind.  Two layouts of one descriptor, whatever their
modes, answer every sequence of accesses alike. -/
theorem field_storage_refines_array {stamp : Stamp} {mode : FieldMode}
    {maxFields : Nat} {name descriptor : String} {boundary : Boundary}
    {layout : Layout}
    (hlayout : Layout.generate stamp mode maxFields name descriptor boundary =
      .ok layout)
    (calls : List FieldCall) :
    (Instance.new layout).answers calls =
        arrayAnswers (List.replicate descriptor.length .undefined) calls ∧
    (∀ index < descriptor.length,
      ((Instance.new layout).after calls).get index =
          .ok ((lastWritten? calls index).getD .undefined) ∧
        ∀ value, ∃ next,
          ((Instance.new layout).after calls).set index value = .ok next) ∧
    (∀ index ≥ descriptor.length,
      ((Instance.new layout).after calls).get index =
          .error (.fieldOutOfRange index descriptor.length) ∧
        ∀ value,
          ((Instance.new layout).after calls).set index value =
              .error (.fieldOutOfRange index descriptor.length) ∧
            (Instance.new layout).after (calls ++ [.set index value]) =
              (Instance.new layout).after calls) ∧
    (∀ index, ((Instance.new layout).after calls).isUnboxed index = true ↔
      mode = .dual ∧ ∃ kind value,
        descriptor.toList[index]? = some kind.token ∧
          lastWritten? calls index = some value ∧ value.kind? = some kind) ∧
    (∀ (otherStamp : Stamp) (otherMode : FieldMode) (otherMax : Nat)
        (otherName : String) (otherBoundary : Boundary) (other : Layout),
      Layout.generate otherStamp otherMode otherMax otherName descriptor
          otherBoundary = .ok other →
        (Instance.new other).answers calls =
          (Instance.new layout).answers calls) := by
  obtain ⟨_, hmode, hshape⟩ := Layout.planned_of_generate hlayout
  have hnew := Instance.holds_of_generate hlayout
  have hafter := hnew.after calls
  have hlength : (arrayAfter (List.replicate descriptor.length .undefined)
      calls).length = descriptor.length := by
    rw [length_arrayAfter, List.length_replicate]
  refine ⟨hnew.answers_eq calls, ?_, ?_, ?_, ?_⟩
  · intro index hindex
    refine ⟨?_, hafter.set_of_lt (by rw [hlength]; exact hindex)⟩
    rw [hafter.get_eq, getElem?_arrayAfter_fresh hindex]
  · intro index hindex
    have hle := hlength.trans_le hindex
    constructor
    · rw [hafter.get_eq, List.getElem?_eq_none_iff.mpr hle, hlength]
    · intro value
      obtain ⟨hset, hstate⟩ := hafter.set_of_le hle value
      rw [hlength] at hset
      refine ⟨hset, ?_⟩
      rw [Instance.after, List.foldl_append]
      exact hstate
  · intro index
    rw [hafter.isUnboxed_iff, Instance.layout_after]
    change layout.mode = .dual ∧ (∃ kind value,
      layout.shape.kinds[index]? = some kind ∧ _) ↔ _
    rw [hmode]
    refine and_congr_right fun _ => exists_congr fun kind => exists_congr
      fun value => ?_
    rw [Shape.getElem?_kinds_iff hshape]
    refine and_congr_right fun htoken => getElem?_fresh_of_kind_iff ?_ calls
    rw [← String.length_toList]
    exact (List.getElem?_eq_some_iff.mp htoken).1
  · intro otherStamp otherMode otherMax otherName otherBoundary other hother
    rw [(Instance.holds_of_generate hother).answers_eq calls,
      hnew.answers_eq calls]

/-- The layouts that one descriptor has in the two modes keep a negative
number and refuse an index beyond the fields alike. -/
theorem field_storage_of_both_modes :
    ∃ dual single : Layout,
      Layout.generate ⟨0, 0⟩ .dual 8 "Dual" "OID"
          ⟨⟨2, structuresNamespace⟩, ModuleRegistry.runtimeHandle,
            [scriptsPackage, runtimePackage], true, []⟩ = .ok dual ∧
        Layout.generate ⟨0, 1⟩ .single 8 "Single" "OID"
          ⟨⟨2, structuresNamespace⟩, ModuleRegistry.runtimeHandle,
            [scriptsPackage, runtimePackage], true, []⟩ = .ok single ∧
        (Instance.new single).answers [.set 1 (.int (-1)), .get 1, .get 3] =
          (Instance.new dual).answers [.set 1 (.int (-1)), .get 1, .get 3] := by
  refine ⟨_, _, rfl, rfl, ?_⟩
  have hdual : Layout.generate ⟨0, 0⟩ .dual 8 "Dual" "OID"
      ⟨⟨2, structuresNamespace⟩, ModuleRegistry.runtimeHandle,
        [scriptsPackage, runtimePackage], true, []⟩ = .ok _ := rfl
  have hsingle : Layout.generate ⟨0, 1⟩ .single 8 "Single" "OID"
      ⟨⟨2, structuresNamespace⟩, ModuleRegistry.runtimeHandle,
        [scriptsPackage, runtimePackage], true, []⟩ = .ok _ := rfl
  exact (field_storage_refines_array hdual _).2.2.2.2 _ _ _ _ _ _ hsingle

end ScriptHost
