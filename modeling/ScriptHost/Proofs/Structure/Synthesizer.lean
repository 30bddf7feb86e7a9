import Mathlib.Data.List.Nodup
import ScriptHost.Proofs.Action
import ScriptHost.Proofs.Field.Shape
import ScriptHost.Proofs.Structure.Naming
import ScriptHost.Proofs.Structure.Published
import ScriptHost.Structure.Synthesizer

/-!
# One request to the synthesizer

A request finds its name published, or fails and changes nothing, or publishes
one new layout under the next stamp.  From these three cases follows what a
synthesizer keeps at every moment: the published layouts are those of their
names, each with a stamp of its own, and all counters agree.
-/

namespace ScriptHost

theorem Layout.generate_eq_ok_iff {stamp : Stamp} {mode : FieldMode}
    {maxFields : Nat} {name descriptor : String} {boundary : Boundary}
    {layout : Layout} :
    Layout.generate stamp mode maxFields name descriptor boundary =
        .ok layout ↔
      Layout.checkBoundary mode boundary = .ok () ∧
        ∃ shape, Shape.read maxFields descriptor = .ok shape ∧
          layout = ⟨stamp, name, shape, mode, FieldSlot.plan mode shape,
            boundary.home⟩ := by
  unfold Layout.generate
  cases Layout.checkBoundary mode boundary with
  | error fault => simp
  | ok checked =>
      cases Shape.read maxFields descriptor with
      | error fault => simp
      | ok shape => simp [eq_comm]

namespace Synthesizer

/-- A request finds a published layout, fails without a trace, or publishes
the layout it generated. -/
theorem resolve_cases (mode : FieldMode) (name descriptor : String)
    (self : Synthesizer) :
    (∃ layout, self.published.find? name = some layout ∧
      resolve mode name descriptor self =
        ⟨.ok (layout, false), self, [.layoutReused name]⟩) ∨
    (self.published.find? name = none ∧
      ∃ fault, Layout.generate ⟨self.origin, self.generated⟩ mode
          self.config.maxFields name descriptor self.boundary =
            .error fault ∧
        resolve mode name descriptor self = ⟨.error fault, self, []⟩) ∨
    (self.published.find? name = none ∧
      ∃ layout, Layout.generate ⟨self.origin, self.generated⟩ mode
          self.config.maxFields name descriptor self.boundary =
            .ok layout ∧
        resolve mode name descriptor self =
          ⟨.ok (layout, true), self.publish name layout,
            [.layoutGenerated name layout.fieldCount layout.wordCount]⟩) := by
  unfold resolve
  cases self.published.find? name with
  | some layout => exact Or.inl ⟨layout, rfl, rfl⟩
  | none =>
      right
      cases Layout.generate ⟨self.origin, self.generated⟩ mode
          self.config.maxFields name descriptor self.boundary with
      | error fault => exact Or.inl ⟨rfl, fault, rfl, rfl⟩
      | ok layout => exact Or.inr ⟨rfl, layout, rfl, rfl⟩

def request (mode : FieldMode) (descriptor : String) :
    Action Synthesizer (Layout × Bool) :=
  resolve mode (mode.canonicalName descriptor) descriptor

/-- A request leaves the synthesizer as it is, or publishes the layout that it
generated under a new name. -/
theorem request_state_cases (mode : FieldMode) (descriptor : String)
    (self : Synthesizer) :
    (request mode descriptor self).state = self ∨
    self.published.find? (mode.canonicalName descriptor) = none ∧
      ∃ layout, Layout.generate ⟨self.origin, self.generated⟩ mode
          self.config.maxFields (mode.canonicalName descriptor) descriptor
          self.boundary = .ok layout ∧
        (request mode descriptor self).state =
          self.publish (mode.canonicalName descriptor) layout := by
  rcases resolve_cases mode (mode.canonicalName descriptor) descriptor self with
    ⟨_, _, hresolve⟩ | ⟨_, _, _, hresolve⟩ |
      ⟨hfree, layout, hgenerate, hresolve⟩
  · exact .inl (congrArg Outcome.state hresolve)
  · exact .inl (congrArg Outcome.state hresolve)
  · exact .inr ⟨hfree, layout, hgenerate, congrArg Outcome.state hresolve⟩

/-! ## What grows and what stays -/

/-- The second synthesizer is the first one with perhaps more published. -/
structure Extends (before after : Synthesizer) : Prop where
  origin : after.origin = before.origin
  config : after.config = before.config
  fallbacks : after.fallbacks = before.fallbacks
  home : after.boundary.home = before.boundary.home
  entries : before.published.entries.Sublist after.published.entries

theorem Extends.refl (self : Synthesizer) : Extends self self :=
  ⟨rfl, rfl, rfl, rfl, List.Sublist.refl _⟩

theorem Extends.trans {first second third : Synthesizer}
    (hleft : Extends first second) (hright : Extends second third) :
    Extends first third where
  origin := hright.origin.trans hleft.origin
  config := hright.config.trans hleft.config
  fallbacks := hright.fallbacks.trans hleft.fallbacks
  home := hright.home.trans hleft.home
  entries := hleft.entries.trans hright.entries

theorem extends_publish {self : Synthesizer} {name : String}
    (layout : Layout) (hfree : self.published.find? name = none) :
    Extends self (self.publish name layout) where
  origin := rfl
  config := rfl
  fallbacks := rfl
  home := rfl
  entries := by
    change self.published.entries.Sublist
      (self.published.publish name layout).entries
    rw [Published.publish_entries layout hfree]
    exact Published.sublist_place name layout _

theorem extends_request (mode : FieldMode) (descriptor : String)
    (self : Synthesizer) : Extends self (request mode descriptor self).state := by
  rcases request_state_cases mode descriptor self with
    hsame | ⟨hfree, layout, _, hpublish⟩
  · rw [hsame]
    exact Extends.refl self
  · rw [hpublish]
    exact extends_publish layout hfree

/-! ## The invariant -/

/-- What is true of a layout published under a name. -/
structure Hosts (maker : Synthesizer) (name : String) (layout : Layout) :
    Prop where
  name_eq : layout.name = name
  canonical : layout.mode.canonicalName layout.shape.descriptor = name
  bounded : layout.shape.size ≤ maker.config.maxFields
  housed : layout.home = maker.boundary.home
  serial_lt : layout.stamp.serial < maker.generated

/-- What is true of a synthesizer at every moment. -/
structure Sound (maker : Synthesizer) : Prop where
  ascending : Published.Ascending maker.published.entries
  hosts : ∀ entry ∈ maker.published.entries, maker.Hosts entry.1 entry.2
  stamped : (maker.published.entries.map fun entry => entry.2.stamp).Nodup
  counted : maker.published.size = maker.generated
  defined : maker.boundary.defined.Perm
    (maker.published.entries.map fun entry => entry.1)

theorem Hosts.publish {self : Synthesizer} {name : String} {layout : Layout}
    (hhosts : self.Hosts name layout) (other : String) (added : Layout) :
    (self.publish other added).Hosts name layout where
  name_eq := hhosts.name_eq
  canonical := hhosts.canonical
  bounded := hhosts.bounded
  housed := hhosts.housed
  serial_lt := Nat.lt_succ_of_lt hhosts.serial_lt

/-- A generated layout fits its name and takes the next stamp. -/
theorem hosts_generated {self : Synthesizer} {mode : FieldMode}
    {descriptor : String} {layout : Layout}
    (hgenerate : Layout.generate ⟨self.origin, self.generated⟩ mode
      self.config.maxFields (mode.canonicalName descriptor) descriptor
      self.boundary = .ok layout) :
    (self.publish (mode.canonicalName descriptor) layout).Hosts
        (mode.canonicalName descriptor) layout ∧
      layout.stamp.serial = self.generated := by
  obtain ⟨_, shape, hread, rfl⟩ := Layout.generate_eq_ok_iff.mp hgenerate
  refine ⟨?_, rfl⟩
  exact {
    name_eq := rfl
    canonical := congrArg mode.canonicalName (Shape.descriptor_of_read hread)
    bounded := Shape.size_le_of_read hread
    housed := rfl
    serial_lt := Nat.lt_succ_self self.generated }

theorem sound_publish {self : Synthesizer} {mode : FieldMode}
    {descriptor : String} {layout : Layout} (hself : self.Sound)
    (hfree : self.published.find? (mode.canonicalName descriptor) = none)
    (hgenerate : Layout.generate ⟨self.origin, self.generated⟩ mode
      self.config.maxFields (mode.canonicalName descriptor) descriptor
      self.boundary = .ok layout) :
    (self.publish (mode.canonicalName descriptor) layout).Sound := by
  obtain ⟨hhosts, hserial⟩ := hosts_generated hgenerate
  have hentries :
      (self.publish (mode.canonicalName descriptor) layout).published.entries =
        Published.place (mode.canonicalName descriptor) layout
          self.published.entries :=
    Published.publish_entries layout hfree
  have hperm := Published.place_perm (mode.canonicalName descriptor) layout
    self.published.entries
  refine {
    ascending := ?_
    hosts := ?_
    stamped := ?_
    counted := ?_
    defined := ?_ }
  · rw [hentries]
    exact Published.ascending_place (Published.find?_eq_none_iff.mp hfree)
      hself.ascending
  · rw [hentries]
    intro entry hentry
    rcases Published.mem_place.mp hentry with rfl | hentry
    · exact hhosts
    · exact (hself.hosts entry hentry).publish _ _
  · -- The new stamp is above all stamps given before.
    rw [hentries, (hperm.map _).nodup_iff, List.map_cons, List.nodup_cons]
    refine ⟨?_, hself.stamped⟩
    intro hmem
    obtain ⟨entry, hentry, heq⟩ := List.mem_map.mp hmem
    have hlt := (hself.hosts entry hentry).serial_lt
    rw [heq, hserial] at hlt
    exact absurd hlt (Nat.lt_irrefl _)
  · rw [Published.size, hentries, Published.length_place]
    exact congrArg Nat.succ hself.counted
  · rw [hentries]
    change (self.boundary.defined ++ [_]).Perm _
    refine List.Perm.trans ?_ (hperm.map _).symm
    rw [List.map_cons]
    exact (List.perm_append_singleton _ _).trans (hself.defined.cons _)

theorem sound_request (mode : FieldMode) (descriptor : String)
    {self : Synthesizer} (hself : self.Sound) :
    (request mode descriptor self).state.Sound := by
  rcases request_state_cases mode descriptor self with
    hsame | ⟨hfree, layout, hgenerate, hpublish⟩
  · rw [hsame]
    exact hself
  · rw [hpublish]
    exact sound_publish hself hfree hgenerate

/-- What a request answers is published afterwards. -/
theorem find?_of_request {mode : FieldMode} {descriptor : String}
    {self : Synthesizer} {layout : Layout} {fresh : Bool}
    (hself : self.Sound)
    (hresult : (request mode descriptor self).result = .ok (layout, fresh)) :
    (request mode descriptor self).state.published.find?
      (mode.canonicalName descriptor) = some layout := by
  have hafter := sound_request mode descriptor hself
  rcases resolve_cases mode (mode.canonicalName descriptor) descriptor self with
    ⟨found, hfind, hresolve⟩ | ⟨_, fault, _, hresolve⟩ |
      ⟨hfree, added, _, hresolve⟩
  · rw [request, hresolve] at hresult ⊢
    cases hresult
    exact hfind
  · rw [request, hresolve] at hresult
    cases hresult
  · rw [request, hresolve] at hresult hafter ⊢
    cases hresult
    rw [Published.find?_eq_some_iff hafter.ascending]
    change _ ∈ (self.published.publish _ layout).entries
    rw [Published.publish_entries layout hfree]
    exact Published.mem_place.mpr (Or.inl rfl)

/-- What is published stays published. -/
theorem Extends.find? {before after : Synthesizer} {name : String}
    {layout : Layout} (hextends : Extends before after)
    (hafter : after.Sound)
    (hfind : before.published.find? name = some layout) :
    after.published.find? name = some layout := by
  rw [Published.find?_eq_some_iff hafter.ascending]
  exact hextends.entries.subset (Published.mem_of_find? hfind)

/-- Published layouts with the same stamp are one layout under one name. -/
theorem Sound.eq_of_isSame {self : Synthesizer} (hself : self.Sound)
    {left right : String × Layout}
    (hleft : left ∈ self.published.entries)
    (hright : right ∈ self.published.entries)
    (hsame : left.2.isSame right.2 = true) : left = right := by
  apply List.inj_on_of_nodup_map hself.stamped hleft hright
  exact eq_of_beq hsame

end Synthesizer

end ScriptHost
