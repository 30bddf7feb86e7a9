import Mathlib.Algebra.GroupWithZero.Nat
import Mathlib.Data.List.Induction
import ScriptHost.HostType.Search
import ScriptHost.Proofs.HostType.Growth

/-!
# Deciding assignability

The search with a list of pending types ends after one turn for each chain of
supertypes, and one more to find the list empty.  What a turn keeps is whether
one of the pending types derives from a type like the wanted one, and so the
search answers what assignability says.  Among the types of a registry
assignability is a partial order.
-/

namespace ScriptHost

namespace HostType

variable {t u v : HostType}

/-- The number of chains of bases and interfaces that begin at a type, the one
that goes nowhere included. -/
def chains (t : HostType) : Nat :=
  1 + (t.supertypes.attach.map fun s => chains s.1).sum
termination_by sizeOf t
decreasing_by exact sizeOf_lt_of_mem_supertypes s.2

theorem chains_eq (t : HostType) :
    t.chains = 1 + (t.supertypes.map chains).sum := by
  rw [chains, List.attach_map_val (f := chains)]

theorem isAssignableTo_eq (t u : HostType) :
    t.isAssignableTo u =
      (t.looksLike u || t.supertypes.any (·.isAssignableTo u)) :=
  hasAncestor_eq _ t

/-! ## Derivation as an order -/

theorem Derives.sizeOf_le (hderives : t.Derives u) :
    sizeOf u ≤ sizeOf t := by
  induction hderives with
  | refl => exact Nat.le_refl _
  | tail _ hs ih =>
      exact Nat.le_trans (Nat.le_of_lt (sizeOf_lt_of_mem_supertypes hs)) ih

/-- A supertype is smaller than what derives from it, so no two types derive
from each other. -/
theorem Derives.antisymm (hleft : t.Derives u) (hright : u.Derives t) :
    t = u := by
  cases derives_iff.mp hleft with
  | inl hsame => exact hsame.symm
  | inr hchain =>
      obtain ⟨s, hs, hrest⟩ := hchain
      have hsmaller : sizeOf u < sizeOf t :=
        Nat.lt_of_le_of_lt hrest.sizeOf_le (sizeOf_lt_of_mem_supertypes hs)
      exact absurd hright.sizeOf_le (Nat.not_le_of_gt hsmaller)

end HostType

/-! ## The search -/

namespace Search

variable {wanted : HostType}

/-- The answer that a search is going to give: whether one of the pending types
is assignable to the wanted one. -/
def answer (wanted : HostType) : Search → Bool
  | pending types => types.any (·.isAssignableTo wanted)
  | ended found => found

/-- The turns that a search takes at most. -/
def remaining : Search → Nat
  | pending types => (types.map HostType.chains).sum + 1
  | ended _ => 0

theorem turn_of_looksLike {types : List HostType} {current : HostType}
    (hlooks : current.looksLike wanted = true) :
    turn wanted (pending (types ++ [current])) = ended true := by
  simp only [turn, List.getLast?_concat, hlooks, if_true]

theorem turn_of_not_looksLike {types : List HostType} {current : HostType}
    (hlooks : current.looksLike wanted = false) :
    turn wanted (pending (types ++ [current])) =
      pending (types ++ current.supertypes) := by
  simp only [turn, List.getLast?_concat, List.dropLast_concat, hlooks,
    Bool.false_eq_true, if_false]

/-- A turn changes nothing about the answer: the type that is looked at is the
wanted one, or is replaced by its supertypes. -/
theorem answer_turn (search : Search) :
    answer wanted (turn wanted search) = answer wanted search := by
  cases search with
  | ended found => rfl
  | pending types =>
      cases types using List.reverseRecOn with
      | nil => rfl
      | append_singleton types current =>
          have hcurrent := HostType.isAssignableTo_eq current wanted
          cases hlooks : current.looksLike wanted with
          | true =>
              rw [hlooks, Bool.true_or] at hcurrent
              rw [turn_of_looksLike hlooks]
              simp [answer, hcurrent]
          | false =>
              rw [hlooks, Bool.false_or] at hcurrent
              rw [turn_of_not_looksLike hlooks]
              simp [answer, hcurrent]

/-- A turn finds the wanted type or takes one chain away. -/
theorem remaining_turn (wanted : HostType) (types : List HostType) :
    turn wanted (pending types) = ended true ∨
      remaining (turn wanted (pending types)) + 1 =
        remaining (pending types) := by
  cases types using List.reverseRecOn with
  | nil => exact .inr rfl
  | append_singleton types current =>
      cases hlooks : current.looksLike wanted with
      | true => exact .inl (turn_of_looksLike hlooks)
      | false =>
          right
          have hchains := current.chains_eq
          rw [turn_of_not_looksLike hlooks]
          simp only [remaining, List.map_append, List.sum_append,
            List.map_cons, List.map_nil, List.sum_cons, List.sum_nil]
          omega

/-- After as many turns as there are chains, and one more, the search is
over. -/
theorem after_of_remaining_le {turns : Nat} {search : Search}
    (hturns : remaining search ≤ turns) :
    after wanted turns search = ended (answer wanted search) := by
  induction turns generalizing search with
  | zero =>
      cases search with
      | ended found => rfl
      | pending types => exact absurd hturns (Nat.not_succ_le_zero _)
  | succ turns ih =>
      cases search with
      | ended found => exact ih (Nat.zero_le turns)
      | pending types =>
          have hfewer : remaining (turn wanted (pending types)) ≤ turns := by
            cases remaining_turn wanted types with
            | inl hfound =>
                rw [hfound]
                exact Nat.zero_le turns
            | inr hless => omega
          calc after wanted (turns + 1) (pending types)
              = ended (answer wanted (turn wanted (pending types))) :=
                ih hfewer
            _ = ended (answer wanted (pending types)) := by
                rw [answer_turn]

/-- A search that is not going to find anything looks at every chain first. -/
theorem pending_of_lt_remaining {turns : Nat} {search : Search}
    (hnone : answer wanted search = false)
    (hturns : turns < remaining search) :
    ∃ types, after wanted turns search = pending types := by
  induction turns generalizing search with
  | zero =>
      cases search with
      | ended found => exact absurd hturns (Nat.lt_irrefl 0)
      | pending types => exact ⟨types, rfl⟩
  | succ turns ih =>
      cases search with
      | ended found => exact absurd hturns (Nat.not_lt_zero _)
      | pending types =>
          have hlater : answer wanted (turn wanted (pending types)) = false :=
            (answer_turn _).trans hnone
          apply ih hlater
          cases remaining_turn wanted types with
          | inl hfound =>
              rw [hfound] at hlater
              cases hlater
          | inr hless => omega

end Search

namespace TypeRun

variable {serial : Nat} {environment : HostEnvironment}
variable {made : List ServedTypeCall} {registry : TypeRegistry}

/-- Assignability is decided by a search that ends, and orders the types of a
registry.  For any two types, whichever registries they are of, the search with
a list of pending types is over after one turn for each chain of supertypes and
one more, and not before if it finds nothing; it answers whether a chain leads
to a type of the number and the name of the wanted one.  Among the types of a
registry, at every moment of every run, assignability is reflexive, transitive
and antisymmetric. -/
theorem assignability_decided_by_search_and_orders_types
    (hrun : TypeRun serial environment made registry) :
    (∀ t u : HostType,
      Search.after u (t.chains + 1) (.pending [t]) =
        .ended (t.isAssignableTo u) ∧
      (t.isAssignableTo u = false → ∀ turns ≤ t.chains,
        ∃ types, Search.after u turns (.pending [t]) = .pending types) ∧
      (t.isAssignableTo u = true ↔
        ∃ a, t.Derives a ∧ a.id = u.id ∧ a.name = u.name)) ∧
    (∀ t ∈ registry.types, t.isAssignableTo t = true) ∧
    (∀ t ∈ registry.types, ∀ u ∈ registry.types, ∀ v ∈ registry.types,
      t.isAssignableTo u = true → u.isAssignableTo v = true →
        t.isAssignableTo v = true) ∧
    (∀ t ∈ registry.types, ∀ u ∈ registry.types,
      t.isAssignableTo u = true → u.isAssignableTo t = true → t = u) := by
  have hsound := hrun.sound
  refine ⟨?_, ?_, ?_, ?_⟩
  · intro t u
    have hanswer : Search.answer u (.pending [t]) = t.isAssignableTo u :=
      Bool.or_false _
    have hremaining : Search.remaining (.pending [t]) = t.chains + 1 := rfl
    refine ⟨?_, ?_, HostType.isAssignableTo_iff⟩
    · rw [← hanswer]
      exact Search.after_of_remaining_le (Nat.le_of_eq hremaining)
    · intro hnone turns hturns
      apply Search.pending_of_lt_remaining (hanswer.trans hnone)
      rw [hremaining]
      exact Nat.lt_succ_of_le hturns
  · intro t _
    exact HostType.isAssignableTo_of_derives (.refl t)
  · intro t ht u hu v hv hleft hright
    rw [hsound.isAssignableTo_iff ht hu] at hleft
    rw [hsound.isAssignableTo_iff hu hv] at hright
    exact HostType.isAssignableTo_of_derives (hleft.trans hright)
  · intro t ht u hu hleft hright
    rw [hsound.isAssignableTo_iff ht hu] at hleft
    rw [hsound.isAssignableTo_iff hu ht] at hright
    exact hleft.antisymm hright

end TypeRun

/-! ## A proxy that reaches the root type twice -/

/-- The root type is reached from the proxy by its base and by its interface,
and is looked at both times. -/
theorem runnableProxy_chains : runnableProxy.chains = 5 := by
  simp [HostType.chains_eq, HostType.supertypes, runnableProxy, runnable,
    WellKnown.proxy, WellKnown.object, WellKnown.make]

theorem runnableProxy_searched_in_six_turns :
    ∃ registry, TypeRun 0 .full runnableCalls registry ∧
      Search.after (WellKnown.classLoader 0) 6 (.pending [runnableProxy]) =
        .ended false ∧
      (∃ types, Search.after (WellKnown.classLoader 0) 5
        (.pending [runnableProxy]) = .pending types) ∧
      runnableProxy.isAssignableTo (WellKnown.object 0) = true := by
  obtain ⟨registry, hrun, _⟩ := runnableCalls_run
  obtain ⟨hsearch, _, htrans, _⟩ :=
    hrun.assignability_decided_by_search_and_orders_types
  obtain ⟨hended, hpending, _⟩ :=
    hsearch runnableProxy (WellKnown.classLoader 0)
  have hnone : runnableProxy.isAssignableTo (WellKnown.classLoader 0) = false :=
    by decide
  rw [runnableProxy_chains, hnone] at hended
  refine ⟨registry, hrun, hended, ?_, ?_⟩
  · apply hpending hnone
    exact Nat.le_of_eq runnableProxy_chains.symm
  · have hproxy : runnableProxy ∈ registry.types :=
      hrun.mem_of_produced ⟨[runnable], List.mem_cons_self⟩
    have hrunnable : runnable ∈ registry.types :=
      hrun.sound.closed _ hproxy _ (List.mem_cons_of_mem _ List.mem_cons_self)
    have hobject : WellKnown.object 0 ∈ registry.types :=
      hrun.mem_of_wellKnown List.mem_cons_self
    apply htrans _ hproxy _ hrunnable _ hobject
    · apply HostType.isAssignableTo_of_mem_supertypes
      exact List.mem_cons_of_mem _ List.mem_cons_self
    · apply HostType.isAssignableTo_of_mem_supertypes
      exact List.mem_cons_self

end ScriptHost
