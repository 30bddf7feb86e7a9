import ScriptHost.Field.Shape

/-!
# Reading a descriptor

A descriptor is read exactly if it is the descriptor of a shape with at most
the permitted number of fields; reading then gives that shape back.
-/

namespace ScriptHost

/-- Every kind has a character of its own. -/
theorem FieldKind.token_injective : Function.Injective FieldKind.token := by
  intro left right heq
  apply Option.some.inj
  rw [← ofToken?_token, heq, ofToken?_token]

namespace Shape

/-- The kinds that are read are those the characters stand for, and there is
a character beyond the limit only if there is none at all. -/
theorem readKinds_eq_ok_iff {limit position : Nat} {tokens : List Char}
    {kinds : List FieldKind} :
    readKinds limit position tokens = .ok kinds ↔
      kinds.map FieldKind.token = tokens ∧
        (kinds = [] ∨ position + kinds.length ≤ limit) := by
  induction tokens generalizing position kinds with
  | nil =>
      rw [readKinds, Except.ok.injEq, List.map_eq_nil_iff]
      constructor
      · rintro rfl
        exact ⟨rfl, Or.inl rfl⟩
      · rintro ⟨rfl, _⟩
        rfl
  | cons token tokens ih =>
      rw [readKinds]
      by_cases hlimit : limit ≤ position
      · rw [if_pos hlimit]
        constructor
        · intro hread
          cases hread
        · rintro ⟨hkinds, rfl | hlength⟩
          · cases hkinds
          · have hcount := congrArg List.length hkinds
            simp only [List.length_map, List.length_cons] at hcount
            omega
      · rw [if_neg hlimit]
        cases hkind : FieldKind.ofToken? token with
        | none =>
            constructor
            · intro hread
              cases hread
            · rintro ⟨hkinds, _⟩
              obtain ⟨kind, rest, rfl, rfl, rfl⟩ :=
                List.map_eq_cons_iff.mp hkinds
              rw [FieldKind.ofToken?_token] at hkind
              cases hkind
        | some kind =>
            rw [FieldKind.ofToken?_eq_some_iff] at hkind
            subst hkind
            constructor
            · intro hread
              cases hrest : readKinds limit (position + 1) tokens with
              | error fault =>
                  rw [hrest] at hread
                  cases hread
              | ok rest =>
                  rw [hrest] at hread
                  cases hread
                  obtain ⟨rfl, hbound⟩ := ih.mp hrest
                  refine ⟨rfl, Or.inr ?_⟩
                  rcases hbound with rfl | hbound
                  · simp only [List.length_cons, List.length_nil]
                    omega
                  · rw [List.length_cons]
                    omega
            · rintro ⟨hkinds, hbound⟩
              obtain ⟨found, rest, rfl, htoken, rfl⟩ :=
                List.map_eq_cons_iff.mp hkinds
              have hfound : found = kind := FieldKind.token_injective htoken
              have hrest : readKinds limit (position + 1)
                  (rest.map FieldKind.token) = .ok rest := by
                apply ih.mpr
                refine ⟨rfl, Or.inr ?_⟩
                simp only [List.cons_ne_nil, List.length_cons, false_or]
                  at hbound
                omega
              rw [hrest, hfound]
              rfl

/-- A descriptor is read as a shape if and only if it is the descriptor of
that shape and the shape is not too large. -/
theorem read_eq_ok_iff {limit : Nat} {descriptor : String} {shape : Shape} :
    read limit descriptor = .ok shape ↔
      shape.descriptor = descriptor ∧ shape.size ≤ limit := by
  obtain ⟨kinds⟩ := shape
  have hread : read limit descriptor = .ok ⟨kinds⟩ ↔
      readKinds limit 0 descriptor.toList = .ok kinds := by
    unfold read
    cases readKinds limit 0 descriptor.toList with
    | error fault => simp [Except.map]
    | ok found => simp [Except.map]
  rw [hread, readKinds_eq_ok_iff, Shape.descriptor, ← String.toList_inj,
    String.toList_ofList, Shape.size, Nat.zero_add]
  apply and_congr_right
  intro _
  constructor
  · rintro (rfl | hbound)
    · exact Nat.zero_le limit
    · exact hbound
  · exact Or.inr

theorem descriptor_of_read {limit : Nat} {descriptor : String} {shape : Shape}
    (hread : read limit descriptor = .ok shape) :
    shape.descriptor = descriptor :=
  (read_eq_ok_iff.mp hread).1

theorem size_le_of_read {limit : Nat} {descriptor : String} {shape : Shape}
    (hread : read limit descriptor = .ok shape) : shape.size ≤ limit :=
  (read_eq_ok_iff.mp hread).2

theorem size_eq_length {shape : Shape} {descriptor : String}
    (hshape : shape.descriptor = descriptor) :
    shape.size = descriptor.length := by
  rw [← hshape, Shape.descriptor, String.length_ofList, List.length_map,
    Shape.size]

theorem getElem?_kinds_iff {shape : Shape} {descriptor : String}
    (hshape : shape.descriptor = descriptor) (index : Nat)
    (kind : FieldKind) :
    shape.kinds[index]? = some kind ↔
      descriptor.toList[index]? = some kind.token := by
  rw [← hshape, Shape.descriptor, String.toList_ofList, List.getElem?_map,
    Option.map_eq_some_iff]
  constructor
  · intro hkind
    exact ⟨kind, hkind, rfl⟩
  · rintro ⟨found, hfound, heq⟩
    rw [hfound, FieldKind.token_injective heq]

/-- The primitive fields are those with one of three characters. -/
theorem primitiveCount_eq_countP {shape : Shape} {descriptor : String}
    (hshape : shape.descriptor = descriptor) :
    shape.primitiveCount =
      descriptor.toList.countP (· ∈ ['I', 'J', 'D']) := by
  rw [← hshape, Shape.descriptor, String.toList_ofList, List.countP_map,
    primitiveCount]
  congr 1
  funext kind
  cases kind <;> rfl

/-- A shape is determined by its descriptor. -/
theorem descriptor_injective : Function.Injective Shape.descriptor := by
  rintro ⟨left⟩ ⟨right⟩ heq
  have htokens : left.map FieldKind.token = right.map FieldKind.token :=
    String.ofList_injective heq
  have hkinds := (List.map_inj_right fun _ _ hsame =>
    FieldKind.token_injective hsame).mp htokens
  rw [hkinds]

end Shape

end ScriptHost
