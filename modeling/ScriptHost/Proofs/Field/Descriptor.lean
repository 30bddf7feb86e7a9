import Mathlib.Order.Bounds.Defs
import ScriptHost.Field.Descriptor
import ScriptHost.Proofs.Field.Shape

/-!
# What is wrong with a descriptor

A character may not stand at its position if the position is beyond the limit
or if the character is no kind.  Reading a descriptor fails at the first such
position, and the limit is what counts if both are the case.
-/

namespace ScriptHost

/-- Four characters stand for kinds, and no others. -/
theorem FieldKind.ofToken?_eq_none_iff {c : Char} :
    ofToken? c = none ↔ c ∉ ['O', 'I', 'J', 'D'] := by
  unfold ofToken?
  grind

/-! ## Wording -/

/-- A text begins with the letter that what it starts with begins with. -/
theorem head?_toList_append (start rest : String) {letter : Char}
    (hstart : start.toList.head? = some letter) :
    (start ++ rest).toList.head? = some letter := by
  rw [String.toList_append, List.head?_append, hstart]
  rfl

/-- A fault of a character is never worded like one of the number of fields. -/
theorem ShapeFault.message_invalidToken_ne (token : Char)
    (position limit : Nat) :
    (invalidToken token position).message ≠ (tooManyFields limit).message := by
  intro heq
  have htoken : (invalidToken token position).message.toList.head? =
      some 'i' := by
    apply head?_toList_append
    exact head?_toList_append "invalid field token " _ (by decide)
  have hlimit : (tooManyFields limit).message.toList.head? = some 'd' := by
    apply head?_toList_append
    exact head?_toList_append "descriptor declares more than " _ (by decide)
  rw [heq, hlimit] at htoken
  cases htoken

/-! ## The first fault -/

namespace Shape

def Disallowed (limit position : Nat) (token : Char) : Prop :=
  limit ≤ position ∨ token ∉ ['O', 'I', 'J', 'D']

def faultAt (limit position : Nat) (token : Char) : ShapeFault :=
  if limit ≤ position then .tooManyFields limit
  else .invalidToken token position

theorem readKinds_of_disallowed {limit position : Nat} {token : Char}
    (rest : List Char) (hnot : Disallowed limit position token) :
    readKinds limit position (token :: rest) =
      .error (faultAt limit position token) := by
  rw [readKinds, faultAt]
  by_cases hlimit : limit ≤ position
  · rw [if_pos hlimit, if_pos hlimit]
  · have hkind : FieldKind.ofToken? token = none :=
      FieldKind.ofToken?_eq_none_iff.mpr (hnot.resolve_left hlimit)
    rw [if_neg hlimit, if_neg hlimit, hkind]

theorem readKinds_of_allowed {limit position : Nat} {token : Char}
    (rest : List Char) (hallowed : ¬ Disallowed limit position token) :
    ∃ kind, readKinds limit position (token :: rest) =
      (readKinds limit (position + 1) rest).map (kind :: ·) := by
  obtain ⟨hlimit, htoken⟩ := not_or.mp hallowed
  cases hkind : FieldKind.ofToken? token with
  | none => exact absurd (FieldKind.ofToken?_eq_none_iff.mp hkind) htoken
  | some kind => exact ⟨kind, by rw [readKinds, if_neg hlimit, hkind]⟩

/-- Reading fails at the first character that may not stand at its
position. -/
theorem first_disallowed_of_error {limit position : Nat} {tokens : List Char}
    {fault : ShapeFault}
    (hread : readKinds limit position tokens = .error fault) :
    ∃ place token, tokens[place]? = some token ∧
      Disallowed limit (position + place) token ∧
      (∀ earlier < place, ∀ other, tokens[earlier]? = some other →
        ¬ Disallowed limit (position + earlier) other) ∧
      fault = faultAt limit (position + place) token := by
  induction tokens generalizing position with
  | nil => cases hread
  | cons token rest ih =>
      by_cases hnot : Disallowed limit position token
      · rw [readKinds_of_disallowed rest hnot] at hread
        cases hread
        refine ⟨0, token, rfl, hnot, ?_, rfl⟩
        intro earlier hearlier
        exact absurd hearlier (Nat.not_lt_zero earlier)
      · obtain ⟨kind, hcons⟩ := readKinds_of_allowed rest hnot
        rw [hcons] at hread
        cases hrest : readKinds limit (position + 1) rest with
        | ok kinds =>
            rw [hrest] at hread
            cases hread
        | error found =>
            rw [hrest] at hread
            cases hread
            obtain ⟨place, other, hother, hlater, hbefore, hfault⟩ := ih hrest
            rw [Nat.add_right_comm] at hlater hfault
            refine ⟨place + 1, other, hother, hlater, ?_, hfault⟩
            intro earlier hearlier found hfound
            cases earlier with
            | zero =>
                rw [← Option.some.inj hfound]
                exact hnot
            | succ earlier =>
                have hallowed := hbefore earlier
                  (Nat.lt_of_succ_lt_succ hearlier) found hfound
                rw [Nat.add_right_comm] at hallowed
                exact hallowed

/-- A descriptor that is not read has a first character that may not stand at
its position, and that character is what is reported. -/
theorem first_disallowed_of_read {limit : Nat} {descriptor : String}
    {fault : ShapeFault} (hread : read limit descriptor = .error fault) :
    ∃ position token, descriptor.toList[position]? = some token ∧
      IsLeast {place | ∃ other, descriptor.toList[place]? = some other ∧
        Disallowed limit place other} position ∧
      fault = faultAt limit position token := by
  rw [read] at hread
  cases hkinds : readKinds limit 0 descriptor.toList with
  | ok kinds =>
      rw [hkinds] at hread
      cases hread
  | error found =>
      rw [hkinds] at hread
      cases hread
      obtain ⟨place, token, htoken, hnot, hbefore, hfault⟩ :=
        first_disallowed_of_error hkinds
      rw [Nat.zero_add] at hnot hfault
      refine ⟨place, token, htoken, ⟨⟨token, htoken, hnot⟩, ?_⟩, hfault⟩
      intro other hother
      obtain ⟨found, hfound, hfaulty⟩ := hother
      apply Nat.le_of_not_lt
      intro hearlier
      apply hbefore other hearlier found hfound
      rw [Nat.zero_add]
      exact hfaulty

/-- A descriptor that is read has no character that may not stand at its
position. -/
theorem tokens_of_read {limit : Nat} {descriptor : String}
    {shape : Shape} (hread : read limit descriptor = .ok shape) :
    descriptor.length ≤ limit ∧
      ∀ c ∈ descriptor.toList, c ∈ ['O', 'I', 'J', 'D'] := by
  obtain ⟨hshape, hsize⟩ := read_eq_ok_iff.mp hread
  constructor
  · rw [← size_eq_length hshape]
    exact hsize
  · intro c hc
    rw [← hshape, Shape.descriptor, String.toList_ofList] at hc
    obtain ⟨kind, _, rfl⟩ := List.mem_map.mp hc
    cases kind <;> decide

theorem ofDescriptor_eq_ok_iff {limit : Nat} {descriptor : String}
    {shape : Shape} :
    ofDescriptor limit descriptor = .ok shape ↔
      read limit descriptor = .ok shape := by
  rw [ofDescriptor]
  cases read limit descriptor <;> simp

theorem ofDescriptor_eq_error_iff {limit : Nat} {descriptor : String}
    {fault : Fault} :
    ofDescriptor limit descriptor = .error fault ↔
      ∃ cause, read limit descriptor = .error cause ∧
        fault = .layoutGeneration descriptor (.shape cause) := by
  rw [ofDescriptor]
  cases read limit descriptor <;> simp [eq_comm]

/-- Descriptors are read exactly if they are well formed, and otherwise the
first fault is reported.  Whatever the limit and the text, reading succeeds if
and only if the text has no more characters than permitted and all of them are
kinds; the shape then has the kinds of the characters and gives back the text,
and every shape that is not too large is read from its own descriptor.  If
reading fails the fault names the text and concerns the first position that is
beyond the limit or has a character that is no kind; which of the two it is, and
so which of the two is said, depends on the limit alone. -/
theorem descriptor_read_or_first_fault_reported (limit : Nat)
    (text : String) :
    ((∃ shape, ofDescriptor limit text = .ok shape) ↔
      text.length ≤ limit ∧ ∀ c ∈ text.toList, c ∈ ['O', 'I', 'J', 'D']) ∧
    (∀ shape, ofDescriptor limit text = .ok shape →
      shape.size = text.length ∧
      (∀ (position : Nat) (kind : FieldKind),
        shape.kinds[position]? = some kind ↔
          text.toList[position]? = some kind.token) ∧
      shape.descriptor = text) ∧
    (∀ shape : Shape, shape.size ≤ limit →
      ofDescriptor limit shape.descriptor = .ok shape) ∧
    ∀ fault, ofDescriptor limit text = .error fault →
      ∃ cause position token,
        fault = .layoutGeneration text (.shape cause) ∧
        text.toList[position]? = some token ∧
        IsLeast {place | ∃ other, text.toList[place]? = some other ∧
          Disallowed limit place other} position ∧
        (limit ≤ position → cause = .tooManyFields limit) ∧
        (position < limit → cause = .invalidToken token position) ∧
        (cause.message = s!"descriptor declares more than {limit} fields" ↔
          limit ≤ position) ∧
        (position < limit → cause.message =
          "invalid field token " ++ Text.quotedChar token ++
            s!" at position {position}") := by
  refine ⟨⟨?_, ?_⟩, ?_, ?_, ?_⟩
  · rintro ⟨shape, hshape⟩
    exact tokens_of_read (ofDescriptor_eq_ok_iff.mp hshape)
  · rintro ⟨hlength, htokens⟩
    cases hread : read limit text with
    | ok shape => exact ⟨shape, ofDescriptor_eq_ok_iff.mpr hread⟩
    | error fault =>
        obtain ⟨position, token, htoken, ⟨⟨other, hother, hnot⟩, _⟩, _⟩ :=
          first_disallowed_of_read hread
        obtain ⟨hplace, _⟩ := List.getElem?_eq_some_iff.mp hother
        rw [String.length_toList] at hplace
        cases hnot with
        | inl hlimit => omega
        | inr hinvalid =>
            exact absurd (htokens other (List.mem_of_getElem? hother)) hinvalid
  · intro shape hshape
    have hdescriptor :=
      descriptor_of_read (ofDescriptor_eq_ok_iff.mp hshape)
    exact ⟨size_eq_length hdescriptor, getElem?_kinds_iff hdescriptor,
      hdescriptor⟩
  · intro shape hsize
    exact ofDescriptor_eq_ok_iff.mpr (read_eq_ok_iff.mpr ⟨rfl, hsize⟩)
  · intro fault hfault
    obtain ⟨cause, hread, rfl⟩ := ofDescriptor_eq_error_iff.mp hfault
    obtain ⟨position, token, htoken, hleast, rfl⟩ :=
      first_disallowed_of_read hread
    refine ⟨_, position, token, rfl, htoken, hleast, ?_, ?_, ?_, ?_⟩
    · exact fun hlimit => if_pos hlimit
    · exact fun hlimit => if_neg (Nat.not_le_of_gt hlimit)
    · by_cases hlimit : limit ≤ position
      · rw [faultAt, if_pos hlimit]
        exact iff_of_true rfl hlimit
      · rw [faultAt, if_neg hlimit]
        exact iff_of_false
          (ShapeFault.message_invalidToken_ne token position limit) hlimit
    · intro hlimit
      rw [faultAt, if_neg (Nat.not_le_of_gt hlimit)]
      rfl

/-! ## A letter with an accent -/

/-- Beyond the limit a character that is no kind is one field too many. -/
theorem accented_letter_is_a_field_too_many :
    ofDescriptor 1 "Ié" =
        .error (.layoutGeneration "Ié" (.shape (.tooManyFields 1))) ∧
      ∃ position, 1 ≤ position ∧
        IsLeast {place | ∃ other, "Ié".toList[place]? = some other ∧
          Disallowed 1 place other} position := by
  have hfault : ofDescriptor 1 "Ié" =
      .error (.layoutGeneration "Ié" (.shape (.tooManyFields 1))) := rfl
  obtain ⟨_, _, _, hfirst⟩ := descriptor_read_or_first_fault_reported 1 "Ié"
  obtain ⟨cause, position, _, hcause, _, hleast, _, _, hlimit, _⟩ :=
    hfirst _ hfault
  cases hcause
  exact ⟨hfault, position, hlimit.mp rfl, hleast⟩

end Shape

end ScriptHost
