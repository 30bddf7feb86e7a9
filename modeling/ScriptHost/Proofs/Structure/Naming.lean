import ScriptHost.Proofs.Text.Stem
import ScriptHost.Structure.Mode

/-!
# Canonical names and routing

The two stems differ before either ends, so a structure name belongs to one
mode only.  Routing reads back exactly the mode and the descriptor that a
canonical name was made from.
-/

namespace ScriptHost.FieldMode

/-- No text has both stems. -/
theorem dual_stem_append_ne (left right : String) :
    dual.stem ++ left ≠ single.stem ++ right := by
  intro heq
  have hletter := congrArg (fun text : String => text.toList.take 19) heq
  have hleft : (dual.stem ++ left).toList.take 19 =
      dual.stem.toList.take 19 := by
    rw [String.toList_append]
    exact List.take_append_of_le_length (by decide)
  have hright : (single.stem ++ right).toList.take 19 =
      single.stem.toList.take 19 := by
    rw [String.toList_append]
    exact List.take_append_of_le_length (by decide)
  rw [hleft, hright] at hletter
  exact absurd hletter (by decide)

theorem route_eq_some_iff {name descriptor : String} {mode : FieldMode} :
    route name = some (mode, descriptor) ↔
      name = mode.canonicalName descriptor := by
  unfold route canonicalName
  cases hdual : Text.afterStem? dual.stem name with
  | some found =>
      rw [Text.afterStem?_eq_some_iff] at hdual
      subst hdual
      constructor
      · intro hroute
        cases hroute
        rfl
      · intro hname
        cases mode with
        | dual =>
            have hfound : found = descriptor := by
              have hlists := congrArg String.toList hname
              rw [String.toList_append, String.toList_append] at hlists
              exact String.toList_inj.mp (List.append_cancel_left hlists)
            rw [hfound]
        | single => exact absurd hname (dual_stem_append_ne found descriptor)
  | none =>
      simp only [Option.map_eq_some_iff, Prod.mk.injEq]
      constructor
      · rintro ⟨found, hsingle, rfl, rfl⟩
        exact Text.afterStem?_eq_some_iff.mp hsingle
      · intro hname
        cases mode with
        | dual =>
            rw [Text.afterStem?_eq_some_iff.mpr hname] at hdual
            exact absurd hdual (by simp)
        | single =>
            exact ⟨descriptor, Text.afterStem?_eq_some_iff.mpr hname, rfl, rfl⟩

@[simp]
theorem route_canonicalName (mode : FieldMode) (descriptor : String) :
    route (mode.canonicalName descriptor) = some (mode, descriptor) :=
  route_eq_some_iff.mpr rfl

/-- A canonical name determines the mode and the descriptor together. -/
theorem canonicalName_injective {left right : FieldMode × String}
    (heq : left.1.canonicalName left.2 = right.1.canonicalName right.2) :
    left = right := by
  apply Option.some.inj
  rw [← route_canonicalName left.1 left.2, heq, route_canonicalName]

/-- A name begins with the stem of a mode exactly if it is routed to that
mode. -/
theorem hasStem_stem_iff {name : String} {mode : FieldMode} :
    Text.hasStem mode.stem name = true ↔
      ∃ descriptor, route name = some (mode, descriptor) := by
  rw [Text.hasStem_iff]
  exact exists_congr fun _ => route_eq_some_iff.symm

end ScriptHost.FieldMode

namespace ScriptHost

theorem isStructureName_iff {name : String} :
    isStructureName name = true ↔
      ∃ target, FieldMode.route name = some target := by
  rw [isStructureName, Bool.or_eq_true, isDualName, isSingleName,
    FieldMode.hasStem_stem_iff, FieldMode.hasStem_stem_iff]
  constructor
  · rintro (⟨descriptor, hdual⟩ | ⟨descriptor, hsingle⟩)
    · exact ⟨_, hdual⟩
    · exact ⟨_, hsingle⟩
  · rintro ⟨⟨mode, descriptor⟩, hroute⟩
    cases mode with
    | dual => exact .inl ⟨descriptor, hroute⟩
    | single => exact .inr ⟨descriptor, hroute⟩

/-- No name is a name of both modes. -/
theorem not_isDualName_and_isSingleName (name : String) :
    ¬ (isDualName name = true ∧ isSingleName name = true) := by
  rw [isDualName, isSingleName, FieldMode.hasStem_stem_iff,
    FieldMode.hasStem_stem_iff]
  rintro ⟨⟨_, hdual⟩, _, hsingle⟩
  cases hdual.symm.trans hsingle

end ScriptHost
