import ScriptHost.Proofs.Text.ByteOrder

/-!
# Keeping layouts in the order of their names

Placing an entry adds it and nothing else, and keeps the names in strictly
ascending order as long as the name is new.  With names in that order no name
occurs twice, so finding a name is the same as having an entry for it.
-/

namespace ScriptHost.Published

/-- The names stand in strictly ascending order of their bytes. -/
def Ascending (entries : List (String × Layout)) : Prop :=
  entries.Pairwise fun earlier later =>
    bytewiseBefore earlier.1 later.1 = true

theorem place_perm (name : String) (layout : Layout)
    (entries : List (String × Layout)) :
    (place name layout entries).Perm ((name, layout) :: entries) := by
  induction entries with
  | nil => exact List.Perm.refl _
  | cons entry rest ih =>
      rw [place]
      split
      · exact List.Perm.refl _
      · exact (ih.cons entry).trans (List.Perm.swap (name, layout) entry rest)

theorem mem_place {name : String} {layout : Layout}
    {entries : List (String × Layout)} {entry : String × Layout} :
    entry ∈ place name layout entries ↔
      entry = (name, layout) ∨ entry ∈ entries := by
  rw [(place_perm name layout entries).mem_iff, List.mem_cons]

theorem length_place (name : String) (layout : Layout)
    (entries : List (String × Layout)) :
    (place name layout entries).length = entries.length + 1 := by
  rw [(place_perm name layout entries).length_eq, List.length_cons]

/-- Placing an entry leaves the others where they are. -/
theorem sublist_place (name : String) (layout : Layout)
    (entries : List (String × Layout)) :
    entries.Sublist (place name layout entries) := by
  induction entries with
  | nil => exact List.nil_sublist _
  | cons entry rest ih =>
      rw [place]
      split
      · exact List.sublist_cons_self _ _
      · exact ih.cons_cons entry

theorem ascending_place {name : String} {layout : Layout}
    {entries : List (String × Layout)}
    (hnew : ∀ entry ∈ entries, entry.1 ≠ name)
    (hentries : Ascending entries) :
    Ascending (place name layout entries) := by
  induction entries with
  | nil => exact List.pairwise_singleton _ _
  | cons entry rest ih =>
      obtain ⟨hfirst, hrest⟩ := List.pairwise_cons.mp hentries
      rw [place]
      split
      next hbefore =>
        refine List.pairwise_cons.mpr ⟨?_, hentries⟩
        intro later hlater
        rcases List.mem_cons.mp hlater with rfl | hlater
        · exact hbefore
        · exact bytewiseBefore_trans hbefore (hfirst later hlater)
      next hnot =>
        have hentry : entry.1 ≠ name := hnew entry List.mem_cons_self
        have htail := ih
          (fun later hlater => hnew later (List.mem_cons_of_mem _ hlater))
          hrest
        refine List.pairwise_cons.mpr ⟨?_, htail⟩
        intro later hlater
        rcases mem_place.mp hlater with rfl | hlater
        · exact bytewiseBefore_of_ne hentry.symm hnot
        · exact hfirst later hlater

theorem find?_eq_none_iff {published : Published} {name : String} :
    published.find? name = none ↔
      ∀ entry ∈ published.entries, entry.1 ≠ name := by
  rw [find?, List.lookup_eq_none_iff]
  constructor
  · intro hnone entry hentry heq
    simpa [heq] using hnone entry hentry
  · intro hnew entry hentry
    simpa using fun heq => hnew entry hentry heq.symm

/-- In ascending order an entry is determined by its name. -/
theorem Ascending.eq_of_name_eq {entries : List (String × Layout)}
    (hentries : Ascending entries) {left right : String × Layout}
    (hleft : left ∈ entries) (hright : right ∈ entries)
    (hname : left.1 = right.1) : left = right := by
  induction entries with
  | nil => exact absurd hleft List.not_mem_nil
  | cons entry rest ih =>
      obtain ⟨hfirst, hrest⟩ := List.pairwise_cons.mp hentries
      have hapart : ∀ later ∈ rest, later.1 ≠ entry.1 := by
        intro later hlater heq
        have hbefore := hfirst later hlater
        rw [heq] at hbefore
        exact bytewiseBefore_irrefl _ hbefore
      rcases List.mem_cons.mp hleft with rfl | hleftRest <;>
        rcases List.mem_cons.mp hright with rfl | hrightRest
      · rfl
      · exact absurd hname.symm (hapart right hrightRest)
      · exact absurd hname (hapart left hleftRest)
      · exact ih hrest hleftRest hrightRest

theorem mem_of_find? {published : Published} {name : String}
    {layout : Layout} (hfind : published.find? name = some layout) :
    (name, layout) ∈ published.entries := by
  obtain ⟨before, after, hsplit, _⟩ := List.lookup_eq_some_iff.mp hfind
  rw [hsplit]
  exact List.mem_append_right _ List.mem_cons_self

theorem find?_eq_some_iff {published : Published} {name : String}
    {layout : Layout} (hentries : Ascending published.entries) :
    published.find? name = some layout ↔
      (name, layout) ∈ published.entries := by
  refine ⟨mem_of_find?, fun hmem => ?_⟩
  cases hfind : published.find? name with
  | none => exact absurd rfl (find?_eq_none_iff.mp hfind _ hmem)
  | some found =>
      have hentry := hentries.eq_of_name_eq (mem_of_find? hfind) hmem rfl
      rw [(Prod.mk.inj hentry).2]

theorem publish_entries {published : Published} {name : String}
    (layout : Layout) (hfree : published.find? name = none) :
    (published.publish name layout).entries =
      place name layout published.entries := by
  rw [publish, hfree]

end ScriptHost.Published
